import Thumb2Sim.Lib.Base64
import Thumb2Sim.Qemu.DebuggingProtocol

open Ascii

-- What the recorder asks of the target. Every request has a result that depends on nothing but the
-- state of the target.
structure TraceTarget (σ : Type) where
  singlestep : σ → σ
  getRegs    : σ → RegDict
  readMemory : σ → Nat → Nat → List Byte
  hashMemory : σ → Nat → Nat → Vector Byte 16

inductive Emulator
  | t2sim
  | qemu
  | user
deriving DecidableEq

structure TraceArgs where
  includeRawData : Bool
  emulator       : Emulator

-- What a component of a tracepoint is the digest of. Only its value is looked at when traces are
-- compared.
inductive TraceType
  | registerHash
  | memoryHash (address length : Nat)

namespace TraceType

-- The registers are packed as `< 17L`. Each of them has 32 bits.
def pack (regs : RegDict) : List Byte :=
  ((List.finRange 16).flatMap fun i => Bytes.ofNat 4 (regs.r i)) ++
    Bytes.ofNat 4 (regs.psr &&& 0xf0000000)

variable {σ : Type} (target : TraceTarget σ) (md5 : Md5) (args : TraceArgs)

def get (state : σ) : TraceType → Vector Byte 16
  | registerHash              => md5 <| pack <| target.getRegs state
  | memoryHash address length =>
    if args.includeRawData ∨ args.emulator = .qemu then
      md5 <| target.readMemory state address length
    else
      target.hashMemory state address length

end TraceType

structure Tracepoint where
  executedInsns : Nat
  components    : List (Vector Byte 16)
  stateHash     : Vector Byte 16
  didStep       : Bool

structure TraceWriter where
  previousState     : Vector Byte 16
  trace             : List Tracepoint
  executedInsnCount : Nat

-- The choice of the points that are recorded.
structure Sampling where
  decimation      : Int
  minifyTracefile : Bool

namespace TraceWriter

def init : TraceWriter where
  previousState     := Vector.replicate 16 0
  trace             := []
  executedInsnCount := 0

variable {σ : Type} (target : TraceTarget σ) (md5 : Md5) (args : TraceArgs)
  (tracetypes : List TraceType)

def recordState (w : TraceWriter) (state : σ) (appendToTrace doStep : Bool) : TraceWriter × σ :=
  let state := if doStep then target.singlestep state else state
  let executedInsnCount := if doStep then w.executedInsnCount + 1 else w.executedInsnCount
  let components := w.previousState :: tracetypes.map (TraceType.get target md5 args state)
  let stateHash := md5 <| components.flatMap Vector.toList
  let tracepoint := {
    executedInsns := executedInsnCount
    components
    stateHash
    didStep       := doStep
  }
  ({
    previousState := if doStep then stateHash else w.previousState
    trace         := if appendToTrace then w.trace ++ [tracepoint] else w.trace
    executedInsnCount
  }, state)

variable (maxInsnCnt : Int) (sampling : Sampling)

-- The loop of the recording in at most the given number of steps. A decimation of zero raises an
-- exception.
def recordLoop : Nat → Option Nat → TraceWriter → σ → Option (TraceWriter × σ)
  | 0,         _,      _, _     => none
  | steps + 1, lastPc, w, state =>
    if sampling.decimation = 0 then
      none
    else
      let appendToTrace := w.executedInsnCount % sampling.decimation = 0 ∧ ¬sampling.minifyTracefile
      let (w, state) := recordState target md5 args tracetypes w state appendToTrace true
      let currentPc := (target.getRegs state).r 15
      if lastPc = some currentPc then
        some (w, state)
      else if maxInsnCnt ≠ 0 ∧ maxInsnCnt ≤ w.executedInsnCount then
        some (w, state)
      else
        recordLoop steps (some currentPc) w state

-- The recording of `run_testcase`: the initial state, the steps, and the final state.
def runTestcase (steps : Nat) (state : σ) : Option (List Tracepoint) := do
  let (w, state) := recordState target md5 args tracetypes init state true false
  let (w, state) ← recordLoop target md5 args tracetypes maxInsnCnt sampling steps none w state
  let (w, _) := recordState target md5 args tracetypes w state true false
  return w.trace

end TraceWriter

-- The encoding of bytes as text in a file. What is done to more than 16 bytes is left open.
structure TraceEncoding where
  encodeLong : List Byte → List Byte
  decodeLong : List Byte → Option (List Byte)

namespace TraceEncoding

variable (encoding : TraceEncoding)

-- The method `default` of `CustomJSONEncoder`.
def encode (data : List Byte) : List Byte :=
  if data.length ≤ 16 then
    ofString ">" ++ Hex.ofBytes data
  else
    encoding.encodeLong data

def getbytes (text : List Byte) : Option (List Byte) :=
  if ofString ">" <+: text then
    PyText.fromHex <| text.drop 1
  else
    encoding.decodeLong text

end TraceEncoding

inductive BinFormat
  | b64
  | hex
deriving DecidableEq

-- The options of a recording that the encoding depends on.
structure FormatArgs where
  binFormat     : BinFormat
  noCompression : Bool

-- What is written down about the encoding in the field `meta` of a trace.
structure FormatMeta where
  compression  : Bool
  binaryFormat : BinFormat

-- The functions `zlib.compress` and `zlib.decompress`.
structure Zlib where
  compress   : List Byte → List Byte
  decompress : List Byte → Option (List Byte)

def FormatArgs.fileMeta (args : FormatArgs) : FormatMeta where
  compression  := !args.noCompression
  binaryFormat := args.binFormat

def FormatArgs.encodeLong (zlib : Zlib) (args : FormatArgs) (data : List Byte) : List Byte :=
  let data := if !args.noCompression then zlib.compress data else data
  match args.binFormat with
  | .b64 => Base64.encode data
  | .hex => Hex.ofBytes data

def FormatMeta.decodeLong (zlib : Zlib) (fileMeta : FormatMeta) (text : List Byte) :
    Option (List Byte) := do
  let data ← match fileMeta.binaryFormat with
    | .hex => PyText.fromHex text
    | .b64 => Base64.decode text
  if fileMeta.compression then zlib.decompress data else return data

-- A trace is read with what its own recording has written down.
def FormatArgs.encoding (zlib : Zlib) (args : FormatArgs) : TraceEncoding where
  encodeLong := args.encodeLong zlib
  decodeLong := args.fileMeta.decodeLong zlib

-- A tracepoint in a file. The fields that the comparison does not look at are left out.
structure FilePoint where
  executedInsns : Nat
  components    : List (List Byte)

inductive TraceError
  | deviation
  | exception
deriving DecidableEq

namespace TraceReader

-- The loop of `align`. Nothing else is done to the rest of the longer trace. The monad is the one of
-- what the callback does.
def align {m : Type → Type} [Monad m] (callback : FilePoint → FilePoint → m Unit) :
    List FilePoint → List FilePoint → m Unit
  | [],         _          => return
  | _,          []         => return
  | pt₁ :: pts₁, pt₂ :: pts₂ =>
    if pt₁.executedInsns = pt₂.executedInsns then do
      callback pt₁ pt₂
      align callback pts₁ pts₂
    else if pt₁.executedInsns < pt₂.executedInsns then
      align callback pts₁ (pt₂ :: pts₂)
    else
      align callback (pt₁ :: pts₁) pts₂
termination_by pts₁ pts₂ => pts₁.length + pts₂.length

end TraceReader

namespace TraceComparator

variable (encoding₁ encoding₂ : TraceEncoding)

-- The output of the deviating components is left out. For a constant value it comes to a method
-- `get_bytes` that does not exist, so that the code fails with an `AttributeError` there.
def compareTracepoint (pt₁ pt₂ : FilePoint) : Except TraceError Unit :=
  let values := (pt₁.components.zip pt₂.components).mapM fun (comp₁, comp₂) => do
    return (← encoding₁.getbytes comp₁, ← encoding₂.getbytes comp₂)
  match values with
  | some values => if values.any fun (v₁, v₂) => v₁ ≠ v₂ then .error .deviation else .ok ()
  | none        => .error .exception

-- A trace as it is written to the file.
def fileTrace (encoding : TraceEncoding) (trace : List Tracepoint) : List FilePoint :=
  trace.map fun pt => ⟨pt.executedInsns, pt.components.map fun v => encoding.encode v.toList⟩

def compare (trace₁ trace₂ : List Tracepoint) : Except TraceError Unit :=
  TraceReader.align (compareTracepoint encoding₁ encoding₂) (fileTrace encoding₁ trace₁)
    (fileTrace encoding₂ trace₂)

end TraceComparator
