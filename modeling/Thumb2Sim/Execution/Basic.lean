import Thumb2Sim.Convenience
import Thumb2Sim.Decoder.Decode
import Thumb2Sim.Emulation.Callbacks

def addrspaceReadInsnWord (as : Addrspace) (memory : HostMemory) (pc : Word) :
    Except Undefined Word := do
  let upper ← as.read16 memory pc
  let lower ← as.read16 memory (pc + 2)
  return upper.setWidth 32 <<< 16 ||| lower.setWidth 32

namespace EmuCtx

variable {U : Type}

def insnWord (ctx : EmuCtx U) : Except Undefined Word :=
  addrspaceReadInsnWord ctx.addrSpace ctx.memory ctx.pc

-- The context in which `cpu_single_step` emulates an instruction.
def insnCtx (ctx : EmuCtx U) : InsnEmuCtx U where
  emuCtx           := ctx
  countNextInsn    := true
  shiftInsnItState := true
  advancePc        := true

end EmuCtx

-- The value of PSR at the end of a step, with the state of the IT block.
def itPsr (itState itCond : Byte) (psr : Word) : Word :=
  let psr := psr &&& ~~~0xff00
  if itState = 0 then
    psr ||| 0x0100
  else
    let psr := psr ||| (0x0900#32 ||| itCond.setWidth 32 <<< 12)
    if itState = 5 then psr ||| 0x400 else psr

namespace InsnEmuCtx

variable {U : Type} (s : InsnEmuCtx U)

def nextItState : Byte :=
  if s.shiftInsnItState then s.emuCtx.cpu.itState >>> 2 else s.emuCtx.cpu.itState

def nextPc (insnLength : Nat) : Word :=
  if s.advancePc then s.emuCtx.pc + BitVec.ofNat 32 insnLength else s.emuCtx.pc

-- The part of `cpu_single_step` behind the emulation of the instruction.
def finish (insnLength : Nat) : EmuCtx U :=
  let cpu := s.emuCtx.cpu
  { s.emuCtx with
    cpu := {
      reg     := Function.update cpu.reg 15 (s.nextPc insnLength)
      psr     := itPsr s.nextItState cpu.itCond cpu.psr
      insnCtr := if s.countNextInsn then cpu.insnCtr + 1 else cpu.insnCtr
      itCond  := cpu.itCond
      itState := s.nextItState
    }
  }

end InsnEmuCtx

section

variable {U : Type} (host : Callbacks U) (ctx : EmuCtx U)

-- The handlers that `cpu_single_step` passes to `decode_insn`, or none if the instruction is not to
-- be executed.
def EmuCtx.handlers : Option (DecodingHandler (InsnEmuCtx U)) :=
  if emulatorShouldExecNextInsn ctx.cpu then some (emulationCallbacks host) else none

def cpuSingleStep : Except Undefined (EmuCtx U) := do
  let insnWord ← ctx.insnWord
  let (insnLength, insnCtx) ← decodeInsn insnWord (ctx.handlers host) ctx.insnCtx
  return insnCtx.finish insnLength

-- The state of the IT block is left as it is.
def cpuReset : Except Undefined (EmuCtx U) := do
  let sp ← ctx.addrSpace.read32 ctx.memory (ctx.ivtBaseAddress + 0)
  let pc ← ctx.addrSpace.read32 ctx.memory (ctx.ivtBaseAddress + 4)
  return { ctx with
    cpu.reg := fun
      | 13 => sp
      | 14 => 0xffffffff
      | 15 => pc &&& ~~~1
      | _  => 0
    cpu.psr     := 0x173
    cpu.insnCtr := 0
  }

end

-- The context that `init_cortexm` allocates, with the images loaded.
def HardwareParams.emuCtx {U : Type} (hw : HardwareParams) (rom ram : List Byte) (user : U) :
    EmuCtx U where
  cpu            := { reg := fun _ => 0, psr := 0, insnCtr := 0, itCond := 0, itState := 0 }
  addrSpace      := hw.addrSpace
  memory         := hw.memory rom ram
  ivtBaseAddress := hw.ivtBaseAddress
  user           := user

def initCortexm {U : Type} (hw : HardwareParams) (rom ram : List Byte) (user : U) :
    Except Undefined (EmuCtx U) :=
  cpuReset <| hw.emuCtx rom ram user
