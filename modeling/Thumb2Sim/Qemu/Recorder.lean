import Thumb2Sim.Qemu.Trace

-- The requests that the recorder sends to a target, which it sees nothing else of.
structure Debugger (τ ε : Type) where
  singlestep : Program τ ε Unit
  getRegs    : Program τ ε RegDict
  readMemory : Nat → Nat → Program τ ε (List Byte)
  hashMemory : Nat → Nat → Program τ ε (List Byte)

-- The target is at the other end of a connection.
def ARMDebuggingProtocol.debugger {U : Type} (host : Callbacks U) (md5 : Md5)
    (stale : Nat → List Byte) : Debugger (Target U) Fault where
  singlestep := DebuggingProtocol.singlestep host md5 stale
  getRegs    := getRegs host md5 stale
  readMemory := DebuggingProtocol.readMemory host md5 stale
  hashMemory := DebuggingProtocol.hashMemory host md5 stale

-- A tracepoint with the bytes that have been received.
structure RecordedPoint where
  executedInsns : Nat
  components    : List (List Byte)
  stateHash     : List Byte
  didStep       : Bool

structure Recorder where
  previousState     : List Byte
  trace             : List RecordedPoint
  executedInsnCount : Nat

namespace Recorder

variable {τ ε : Type} (dbg : Debugger τ ε) (md5 : Md5) (args : TraceArgs)

-- The method `get` of a trace type. The results for output are left out.
def request : TraceType → Program τ ε (List Byte)
  | .registerHash              => do
    let regs ← dbg.getRegs
    return (md5 <| TraceType.pack regs).toList
  | .memoryHash address length =>
    if args.includeRawData ∨ args.emulator = .qemu then do
      let data ← dbg.readMemory address length
      return (md5 data).toList
    else
      dbg.hashMemory address length

def init : Recorder where
  previousState     := List.replicate 16 0
  trace             := []
  executedInsnCount := 0

variable (tracetypes : List TraceType)

def recordState (w : Recorder) (appendToTrace doStep : Bool) : Program τ ε Recorder := do
  Program.when doStep dbg.singlestep
  let executedInsnCount := if doStep then w.executedInsnCount + 1 else w.executedInsnCount
  let values ← tracetypes.mapM <| request dbg md5 args
  let components := w.previousState :: values
  let stateHash := (md5 components.flatten).toList
  let tracepoint := {
    executedInsns := executedInsnCount
    components
    stateHash
    didStep       := doStep
  }
  return {
    previousState := if doStep then stateHash else w.previousState
    trace         := if appendToTrace then w.trace ++ [tracepoint] else w.trace
    executedInsnCount
  }

variable (maxInsnCnt : Int) (sampling : Sampling)

-- The loop of the recording in at most the given number of steps. A decimation of zero raises an
-- exception.
def recordLoop : Nat → Option Nat → Recorder → Program τ ε (Option Recorder)
  | 0,         _,      _ => return none
  | steps + 1, lastPc, w => do
    if sampling.decimation = 0 then
      return none
    else
      let appendToTrace := w.executedInsnCount % sampling.decimation = 0 ∧ ¬sampling.minifyTracefile
      let w ← recordState dbg md5 args tracetypes w appendToTrace true
      let regs ← dbg.getRegs
      let currentPc := regs.r 15
      if lastPc = some currentPc then
        return some w
      else if maxInsnCnt ≠ 0 ∧ maxInsnCnt ≤ w.executedInsnCount then
        return some w
      else
        recordLoop steps (some currentPc) w

-- The recording of `run_testcase`, up to the request that ends the session.
def runTestcase (steps : Nat) : Program τ ε (Option (List RecordedPoint)) := do
  let w ← recordState dbg md5 args tracetypes init true false
  match ← recordLoop dbg md5 args tracetypes maxInsnCnt sampling steps none w with
  | some w => do
    let w ← recordState dbg md5 args tracetypes w true false
    return some w.trace
  | none   => return none

end Recorder
