import Thumb2Sim.Execution.Basic
import Thumb2Sim.Lib.CString

open Ascii

-- The functions `MD5_Init`, `MD5_Update` and `MD5_Final` together.
abbrev Md5 :=
  List Byte → Vector Byte 16

-- On hosts with little-endian byte order.
def htonl (x : Word) : Word :=
  x.extractLsb' 0 8 ++ x.extractLsb' 8 8 ++ x.extractLsb' 16 8 ++ x.extractLsb' 24 8

-- What is written to the connection.

def txFrame (data : List Byte) : List Byte :=
  ofString "+$" ++ data ++ ofString "#" ++ Hex.padded 2 (data.foldl (· + ·) 0).toNat

def txError : List Byte :=
  ofString "-"

-- The buffer of the reply has room for all of it.
def gdbDumpRegisterSet (cpu : Cpu) : List Byte × Bool :=
  let reply :=
    ((List.finRange 16).flatMap fun i => Hex.padded 8 (htonl <| cpu.reg i).toNat) ++
    ((List.range 25).flatMap fun _ => ofString "00000000") ++
    Hex.padded 8 (htonl cpu.psr).toNat
  (txFrame reply, true)

def nibbleToHexchar (nibble : Byte) : Byte :=
  let nibble := nibble &&& 0xf
  if nibble < 10 then
    ofChar '0' + nibble
  else
    ofChar 'a' + nibble - 10

def memoryToHexstr (src : List Byte) : List Byte :=
  src.flatMap fun (byte : Byte) => [nibbleToHexchar (byte >>> 4), nibbleToHexchar (byte >>> 0)]

section

variable {U : Type} (ctx : EmuCtx U) (startAddress length : Word)

-- The size `2 * length + 1` of the reply is computed modulo `2 ^ 32`, so that the text of a long
-- range does not fit.
def gdbDumpMemory : Except Undefined (List Byte × Bool) :=
  match ctx.addrSpace.memptr startAddress length with
  | some memory => do
    let bytes ← ctx.memory.load memory length.toNat
    if length.toNat < 2 ^ 31 then
      return (txFrame <| memoryToHexstr bytes, true)
    else
      .error .access
  | none => return (txError, false)

def gdbHashMemory (md5 : Md5) : Except Undefined (List Byte × Bool) :=
  match ctx.addrSpace.memptr startAddress length with
  | some memory => do
    let bytes ← ctx.memory.load memory length.toNat
    return (txFrame <| memoryToHexstr (md5 bytes).toList, true)
  | none => return (txError, false)

end

-- The two numbers with a comma between them. They are converted to `uint32_t`.
def addressAndLength (text : List Byte) : Option (Word × Word) :=
  if text.contains (ofChar ',') then
    let startAddress := text.takeWhile (· ≠ ofChar ',')
    let length       := (text.dropWhile (· ≠ ofChar ',')).drop 1
    some (BitVec.ofInt 32 <| CString.strtoll16 startAddress,
      BitVec.ofInt 32 <| CString.strtoll16 length)
  else
    none

-- What becomes of a message: the bytes that are written to the connection and the returned value, or
-- the end of the process.
inductive Outcome
  | reply (tx : List Byte) (success : Bool)
  | exit
deriving DecidableEq

section

variable {U : Type} (host : Callbacks U) (md5 : Md5)

-- The output for debugging is left out.
def gdbHandleCommand (msg : List Byte) : Program (EmuCtx U) Undefined Outcome :=
  fun ctx =>
    if msg = ofString "g" then
      let (tx, success) := gdbDumpRegisterSet ctx.cpu
      return (.reply tx success, ctx)
    else if msg.head? = ofChar 'm' then
      match addressAndLength (msg.drop 1) with
      | some (startAddress, length) => do
        let (tx, _) ← gdbDumpMemory ctx startAddress length
        return (.reply tx true, ctx)
      | none => return (.reply txError false, ctx)
    else if msg = ofString "vCont;s:1;c" then do
      let ctx ← cpuSingleStep host ctx
      return (.reply (txFrame []) true, ctx)
    else if msg.head? = ofChar 'k' then
      return (.exit, ctx)
    else if ofString "qmemhash:" <+: msg then
      match addressAndLength (msg.drop 9) with
      | some (startAddress, length) => do
        let (tx, _) ← gdbHashMemory ctx startAddress length md5
        return (.reply tx true, ctx)
      | none => return (.reply txError false, ctx)
    else
      return (.reply txError false, ctx)

-- The message in the buffer, which lasts up to the first hash. Only the part of the buffer in front
-- of the first NUL byte is looked at.
def rxMessage (rxData : List Byte) : Option (List Byte) :=
  let text := CString.terminated rxData
  if ofString "+$" <+: text ∧ text.contains (ofChar '#') then
    some <| (text.takeWhile (· ≠ ofChar '#')).drop 2
  else
    none

def interpretRxdata (rxData : List Byte) : Program (EmuCtx U) Undefined Outcome :=
  match rxMessage rxData with
  | some msg => gdbHandleCommand host md5 msg
  | none     => pure <| .reply txError false

def rxDataSize : Nat :=
  4096

-- The buffer `rx_data` behind a call of `fread`. The bytes that are not overwritten by the chunk are
-- indeterminate, typically what is left of former chunks. The last byte is zero.
def rxBuffer (stale chunk : List Byte) : List Byte :=
  (chunk ++ stale.drop chunk.length).take (rxDataSize - 1) ++ [0]

-- A call of `fread`, with the bytes that it returns.
structure Read where
  stale     : List Byte
  chunk     : List Byte
  length_le : chunk.length ≤ rxDataSize - 1

def Read.rxData (r : Read) : List Byte :=
  rxBuffer r.stale r.chunk

-- The loop of `handle_connection`, up to the end of the given reads or of the process. The result
-- holds what is written to the connection.
def handleConnection : List Read → Program (EmuCtx U) Undefined (List Byte)
  | []      => pure []
  | r :: rs =>
    if r.chunk = [] then
      handleConnection rs
    else do
      match ← interpretRxdata host md5 r.rxData with
      | .reply tx _ => return tx ++ (← handleConnection rs)
      | .exit       => return []

end
