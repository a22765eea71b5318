import Thumb2Sim.Disassembly.Callbacks
import Thumb2Sim.Execution.Basic

open Program Output Disassembly

-- The fields of the context that tell what is printed. What `decode_insn` itself prints about the
-- decoding is left out.
structure Debugging where
  printDisassembly         : Bool
  debugInstructionDecoding : Bool

-- The conversions of `printf` with a minimal width.

def padLeft (width : Nat) (s : String) : String :=
  String.ofList (List.replicate (width - s.length) ' ') ++ s

def padRight (width : Nat) (s : String) : String :=
  s ++ String.ofList (List.replicate (width - s.length) ' ')

namespace EmuCtx

variable {U B : Type}

-- The context in which `cpu_debug_insn` disassembles an instruction.
def disasCtx (ctx : EmuCtx U) (disasBuffer : B) : DisasCtx B where
  pc          := ctx.pc
  itState     := ctx.cpu.itState
  itCond      := ctx.cpu.itCond
  disasBuffer := disasBuffer

def flagChars (psr : Word) : String :=
  let flagChar (flag : Word) (c : String) := if psr &&& flag ≠ 0 then c else " "
  flagChar flagNegative "N" ++ flagChar flagZero "Z" ++ flagChar flagCarry "C" ++
    flagChar flagOverflow "V" ++ flagChar flagSaturation "Q"

-- The line for an instruction, with the text from the buffer.
def debugLine (ctx : EmuCtx U) (disassembly : String) : String :=
  "\n< " ++ padLeft 5 (decimal <| 1 + ctx.cpu.insnCtr) ++ " " ++ padLeft 8 (hex ctx.pc) ++ ": " ++
    padRight 30 disassembly ++ " [sp=" ++ hex (ctx.cpu.reg 13) ++ "] " ++ flagChars ctx.cpu.psr ++
    "\n"

def disasWarning (ctx : EmuCtx U) (insnWord : Word) : String :=
  s!"Warning: Cannot disassemble instruction 0x{hexPadded 8 insnWord} at 0x{hex ctx.pc}\n"

end EmuCtx

section

variable {U : Type}

-- The characters of the array `disasBuffer`.
abbrev DisasBuffer :=
  Buffer 128

-- Decodes again if nothing has been printed, in order to print information about the decoding.
def decodeAgain (d : Debugging) (insnWord : Word) (disasCtx : DisasCtx DisasBuffer) :
    Except Undefined (DisasCtx DisasBuffer) :=
  if d.debugInstructionDecoding then
    return disasCtx
  else do
    let (_, disasCtx) ← decodeInsn insnWord (some disassemblyCallbacks) disasCtx
    return disasCtx

-- The result is what is printed.
def cpuDebugInsn (d : Debugging) (ctx : EmuCtx U) (insnWord : Word) : Except Undefined String := do
  let (_, disasCtx) ←
    decodeInsn insnWord (some disassemblyCallbacks) (ctx.disasCtx <| Buffer.empty (by decide))
  if disasCtx.disasBuffer.text = "" then
    let disasCtx ← decodeAgain d insnWord disasCtx
    return ctx.disasWarning insnWord ++ ctx.debugLine disasCtx.disasBuffer.text
  else
    return ctx.debugLine disasCtx.disasBuffer.text

def debugOutput (d : Debugging) (ctx : EmuCtx U) (insnWord : Word) : Except Undefined String :=
  if d.printDisassembly then cpuDebugInsn d ctx insnWord else return ""

-- The function `cpu_single_step` with the output, which comes in front of the emulation.
def cpuSingleStepPrint (host : Callbacks U) (d : Debugging) (ctx : EmuCtx U) :
    Except Undefined (EmuCtx U × String) := do
  let insnWord ← ctx.insnWord
  let output ← debugOutput d ctx insnWord
  let (insnLength, insnCtx) ← decodeInsn insnWord (ctx.handlers host) ctx.insnCtx
  return (insnCtx.finish insnLength, output)

-- The callback that ends the emulation, if one is installed.
def pollEnd (endEmulationCallback : Option (EmuCtx U → EmuCtx U × Bool)) (ctx : EmuCtx U) :
    EmuCtx U × Bool :=
  match endEmulationCallback with
  | some callback => callback ctx
  | none          => (ctx, false)

-- The loop of `cpu_run` with at most `fuel` rounds. There is no result if it goes on behind them.
def cpuRun (host : Callbacks U) (d : Debugging)
    (endEmulationCallback : Option (EmuCtx U → EmuCtx U × Bool)) :
    Nat → EmuCtx U → Except Undefined (Option (EmuCtx U × String))
  | 0,        _   => return none
  | fuel + 1, ctx => do
    let polled := pollEnd endEmulationCallback ctx
    if polled.2 then
      return some (polled.1, "")
    else
      let (ctx, output) ← cpuSingleStepPrint host d polled.1
      let result ← cpuRun host d endEmulationCallback fuel ctx
      return result.map fun (ctx, rest) => (ctx, output ++ rest)

end
