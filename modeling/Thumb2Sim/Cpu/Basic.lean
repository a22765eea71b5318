import Thumb2Sim.AddressSpace.Basic
import Thumb2Sim.Lib.Program

-- Every number stands for a register, modulo 16.
instance neZeroSixteen : NeZero 16 :=
  ⟨by decide⟩

@[ext]
structure Cpu where
  reg     : Fin 16 → Word
  psr     : Word
  insnCtr : Word
  itCond  : Byte
  itState : Byte

-- The slices point into the memory of the host, which is part of the context here. The type `U` is
-- the one of the data behind the pointer `user`. The output for debugging is left out.
@[ext]
structure EmuCtx (U : Type) where
  cpu            : Cpu
  addrSpace      : Addrspace
  memory         : HostMemory
  ivtBaseAddress : Word
  user           : U

@[ext]
structure InsnEmuCtx (U : Type) where
  emuCtx           : EmuCtx U
  countNextInsn    : Bool
  shiftInsnItState : Bool
  advancePc        : Bool

-- What a build of the emulator makes of signed differences that do not fit into 32 bits, which C
-- leaves undefined: they wrap around (`-fwrapv`), or the compiler relies on it that there are none
-- (`-O3`, as in the Makefile).
inductive SignedOverflow
  | wraps
  | excluded
deriving DecidableEq

-- The functions that the host may install. They get at the whole context. The last field tells
-- which build of the emulator the host is linked with.
structure Callbacks (U : Type) where
  bkptCallback         : Option (EmuCtx U → Byte → EmuCtx U)
  emulatorSyscallRead  : Option (EmuCtx U → Option HostPtr → Word → EmuCtx U × Word)
  emulatorSyscallWrite : Option (EmuCtx U → Option HostPtr → Word → EmuCtx U)
  emulatorSyscallPuts  : Option (EmuCtx U → Option HostPtr → EmuCtx U)
  emulatorSyscallExit  : Option (EmuCtx U → Word → EmuCtx U)
  signedOverflow       : SignedOverflow

-- No function is installed, as `init_cortexm` leaves it.
def noHost {U : Type} : Callbacks U where
  bkptCallback         := none
  emulatorSyscallRead  := none
  emulatorSyscallWrite := none
  emulatorSyscallPuts  := none
  emulatorSyscallExit  := none
  signedOverflow       := .excluded

abbrev RegNo :=
  Byte

def regNo (r : Fin 16) : RegNo :=
  BitVec.ofNat 8 r

def regSp : RegNo :=
  13

def regLr : RegNo :=
  14

def regPc : RegNo :=
  15

def flagNegative : Word :=
  0x80000000

def flagZero : Word :=
  0x40000000

def flagCarry : Word :=
  0x20000000

def flagOverflow : Word :=
  0x10000000

def flagSaturation : Word :=
  0x08000000

def flagMask : Word :=
  flagNegative ||| flagZero ||| flagCarry ||| flagOverflow ||| flagSaturation

def typeLsl : Byte :=
  0

def typeLsr : Byte :=
  1

def typeAsr : Byte :=
  2

def typeRor : Byte :=
  3

def itNone : Byte :=
  0

def itThen : Byte :=
  1

def itElse : Byte :=
  2

namespace EmuCtx

variable {U : Type} (s : EmuCtx U)

def pc : Word :=
  s.cpu.reg 15

def setReg (r : Fin 16) (v : Word) : EmuCtx U :=
  { s with cpu.reg := Function.update s.cpu.reg r v }

def setPsr (psr : Word) : EmuCtx U :=
  { s with cpu.psr := psr }

end EmuCtx

-- The code that emulates an instruction.
abbrev Emu (U α : Type) :=
  Program (InsnEmuCtx U) Undefined α

namespace Emu

variable {U α : Type}

-- The array of registers has 16 entries.
def getReg (r : RegNo) : Emu U Word :=
  fun s => if h : r.toNat < 16 then .ok (s.emuCtx.cpu.reg ⟨r.toNat, h⟩, s) else .error .index

def setReg (r : RegNo) (v : Word) : Emu U Unit :=
  fun s =>
    if h : r.toNat < 16 then
      .ok ((), { s with emuCtx := s.emuCtx.setReg ⟨r.toNat, h⟩ v })
    else
      .error .index

def getPsr : Emu U Word :=
  fun s => .ok (s.emuCtx.cpu.psr, s)

def setPsr (psr : Word) : Emu U Unit :=
  fun s => .ok ((), { s with emuCtx := s.emuCtx.setPsr psr })

def getItState : Emu U Byte :=
  fun s => .ok (s.emuCtx.cpu.itState, s)

def setAdvancePc (b : Bool) : Emu U Unit :=
  fun s => .ok ((), { s with advancePc := b })

-- The accesses to the address space.
def load {α : Type} (f : Addrspace → HostMemory → Except Undefined α) : Emu U α :=
  fun s => do return (← f s.emuCtx.addrSpace s.emuCtx.memory, s)

def store (f : Addrspace → HostMemory → Except Undefined HostMemory) : Emu U Unit :=
  fun s => do
    let memory ← f s.emuCtx.addrSpace s.emuCtx.memory
    return ((), { s with emuCtx.memory := memory })

def read8 (address : Word) : Emu U Byte :=
  load fun as memory => as.read8 memory address

def read16 (address : Word) : Emu U (BitVec 16) :=
  load fun as memory => as.read16 memory address

def read32 (address : Word) : Emu U Word :=
  load fun as memory => as.read32 memory address

def write8 (address : Word) (value : Byte) : Emu U Unit :=
  store fun as memory => as.write8 memory address value

def write16 (address : Word) (value : BitVec 16) : Emu U Unit :=
  store fun as memory => as.write16 memory address value

def write32 (address value : Word) : Emu U Unit :=
  store fun as memory => as.write32 memory address value

variable {s : InsnEmuCtx U} {r : Fin 16} {v : Word}

theorem regNo_toNat (r : Fin 16) : (regNo r).toNat = r := by
  simp [regNo]
  omega

theorem getReg_regNo : getReg (regNo r) s = .ok (s.emuCtx.cpu.reg r, s) := by
  simp [getReg, regNo_toNat]

theorem setReg_regNo :
    setReg (regNo r) v s = .ok ((), { s with emuCtx := s.emuCtx.setReg r v }) := by
  simp [setReg, regNo_toNat]

end Emu
