import Thumb2Sim.Gdbserver.Basic
import Thumb2Sim.Lib.PyText

open Ascii

structure DebuggingProtocolResponse where
  success : Bool
  data    : Option (List Byte)
  rxCksum : Option (List Byte)
deriving DecidableEq

-- There is no text without data. Bytes that are not ASCII raise an exception.
def DebuggingProtocolResponse.text (r : DebuggingProtocolResponse) : Option (List Byte) :=
  r.data.bind PyText.ascii

namespace DebuggingProtocol

def checksum (data : List Byte) : Nat :=
  (data.map BitVec.toNat).sum &&& 0xff

-- What `send_cmd` sends for an encoded command.
def frame (command : List Byte) : List Byte :=
  ofString "+$" ++ command ++ (ofString "#" ++ Hex.padded 2 (checksum command))

-- The place of the first hash. It is only used if there is one.
def hashIndex (remaining : List Byte) : Nat :=
  remaining.idxOf <| ofChar '#'

-- There is a whole frame at the beginning of the data, with both digits of the checksum.
def IsComplete (remaining : List Byte) : Prop :=
  5 ≤ remaining.length ∧ ofString "+$" <+: remaining ∧ ofChar '#' ∈ remaining ∧
  hashIndex remaining + 3 ≤ remaining.length

instance : DecidablePred IsComplete :=
  fun _ => inferInstanceAs <| Decidable (_ ∧ _)

-- The message at the beginning of the data and what remains behind it.
def token : List Byte → Option (DebuggingProtocolResponse × List Byte)
  | []              => none
  | first :: behind =>
    let remaining := first :: behind
    if first = ofChar '+' then
      if IsComplete remaining then
        some ({
          success := true
          data    := (remaining.take <| hashIndex remaining).drop 2
          rxCksum := (remaining.drop <| hashIndex remaining).take 2
        }, remaining.drop <| hashIndex remaining + 3)
      else
        none
    else if first = ofChar '-' then
      some ({ success := false, data := none, rxCksum := none }, behind)
    else
      some ({ success := false, data := some [first], rxCksum := none }, behind)

theorem token_length_lt {data remaining : List Byte} {msg : DebuggingProtocolResponse}
    (h : token data = some (msg, remaining)) : remaining.length < data.length := by
  cases data
  case nil => cases h
  case cons first behind =>
    simp only [token] at h
    split_ifs at h <;> obtain ⟨-, rfl⟩ := Prod.mk.inj <| Option.some.inj h
    case pos => rw [List.length_drop, List.length_cons]; omega
    all_goals exact Nat.lt_succ_self _

def tokenizer (data : List Byte) : List DebuggingProtocolResponse × List Byte :=
  match h : token data with
  | some (msg, remaining) =>
    have : remaining.length < data.length := token_length_lt h
    let (msgs, remaining) := tokenizer remaining
    (msg :: msgs, remaining)
  | none => ([], data)
termination_by data.length

end DebuggingProtocol

-- The buffer of received bytes and the queue of the messages that are already delivered.
structure RXBuffer where
  buffer : List Byte
  msgs   : List DebuggingProtocolResponse
deriving DecidableEq

namespace RXBuffer

def init : RXBuffer where
  buffer := []
  msgs   := []

def put (rx : RXBuffer) (data : List Byte) : RXBuffer :=
  let (msgs, buffer) := DebuggingProtocol.tokenizer (rx.buffer ++ data)
  { buffer, msgs := rx.msgs ++ msgs }

end RXBuffer

-- The server at the other end of the connection. It counts its reads.
structure Target (U : Type) where
  ctx   : EmuCtx U
  reads : Nat

-- What may keep a request from returning.
inductive Fault
  | undefined (e : Undefined)
  | exit
  | exception
deriving DecidableEq

namespace DebuggingProtocol

variable {U α : Type} (host : Callbacks U) (md5 : Md5) (stale : Nat → List Byte)

def orRaise : Option α → Program (Target U) Fault α
  | some a => pure a
  | none   => Program.checked <| .error .exception

-- The frame is the only thing that the server reads at a time, and the message that is waited for is
-- the first one of its answer. The buffer of the server holds `stale n` before the read number `n`.
def sendCmd (strCommand : List Byte) : Program (Target U) Fault DebuggingProtocolResponse :=
  fun t =>
    match PyText.ascii strCommand with
    | none         => .error .exception
    | some command =>
      match interpretRxdata host md5 (rxBuffer (stale t.reads) (frame command)) t.ctx with
      | .error e                 => .error <| .undefined e
      | .ok (.exit, _)           => .error .exit
      | .ok (.reply tx _, ctx) =>
        match (tokenizer tx).1 with
        | []         => .error .exception
        | reply :: _ => .ok (reply, { ctx, reads := t.reads + 1 })

def singlestep : Program (Target U) Fault Unit := do
  let _ ← sendCmd host md5 stale <| ofString "vCont;s:1;c"

-- The arguments of a request of memory.
def rangeText (startAddress length : Nat) : List Byte :=
  Hex.digits startAddress ++ ofString "," ++ Hex.digits length

-- The method `_read_memory`.
def readMemoryChunk (startAddress length : Nat) : Program (Target U) Fault (List Byte) := do
  let data ← sendCmd host md5 stale <| ofString "m" ++ rangeText startAddress length
  orRaise <| data.text.bind PyText.fromHex

def maxMemrequestChunk : Nat :=
  2048

-- Neither argument is negative.
def InAddressSpace (startAddress length : Nat) : Prop :=
  startAddress ≤ 0xffffffff ∧ 0 < length ∧ startAddress + length ≤ 0x100000000

instance (startAddress length : Nat) : Decidable (InAddressSpace startAddress length) :=
  inferInstanceAs <| Decidable (_ ∧ _)

-- The numbers of `range(start, stop, step)`.
def pyRange (start stop step : Nat) : List Nat :=
  (List.range <| (stop - start + (step - 1)) / step).map fun i => start + step * i

-- The body of the loop of `read_memory`.
def appendChunk (startAddress length : Nat) (result : List Byte) (offset : Nat) :
    Program (Target U) Fault (List Byte) := do
  let chunkLength := startAddress + length - offset
  let chunkLength := if maxMemrequestChunk < chunkLength then maxMemrequestChunk else chunkLength
  return result ++ (← readMemoryChunk host md5 stale offset chunkLength)

def readMemory (startAddress length : Nat) : Program (Target U) Fault (List Byte) :=
  if InAddressSpace startAddress length then
    (pyRange startAddress (startAddress + length) maxMemrequestChunk).foldlM
      (appendChunk host md5 stale startAddress length) []
  else
    orRaise none

def hashMemory (startAddress length : Nat) : Program (Target U) Fault (List Byte) :=
  if InAddressSpace startAddress length then do
    let hashValue ← sendCmd host md5 stale <| ofString "qmemhash:" ++ rangeText startAddress length
    orRaise <| hashValue.text.bind PyText.fromHex
  else
    orRaise none

end DebuggingProtocol

-- The dictionary of the registers, with the keys `r0` to `r15` and `psr`.
structure RegDict where
  r   : Fin 16 → Nat
  psr : Nat

namespace ARMDebuggingProtocol

-- As numbers of Python have infinitely many sign bits, the lowest byte is a remainder.
def byteorder (value : Int) : Nat :=
  let byte (n : Nat) : Nat := (value >>> n % 0x100).toNat
  byte 0 <<< 24 ||| byte 8 <<< 16 ||| byte 16 <<< 8 ||| byte 24 <<< 0

-- The numbers of eight digits each.
def values (text : List Byte) : Option (List Int) :=
  (DebuggingProtocol.pyRange 0 text.length 8).mapM fun i => PyText.int16 <| (text.drop i).take 8

-- An index that is too large raises an exception.
def regDict (values : List Int) : Option RegDict :=
  if 41 < values.length then
    some {
      r   := fun i => byteorder <| values.getD i 0
      psr := byteorder <| values.getD 41 0
    }
  else
    none

variable {U : Type} (host : Callbacks U) (md5 : Md5) (stale : Nat → List Byte)

def getRegs : Program (Target U) Fault RegDict := do
  let reply ← DebuggingProtocol.sendCmd host md5 stale <| ofString "g"
  DebuggingProtocol.orRaise <| (reply.text.bind values).bind regDict

end ARMDebuggingProtocol
