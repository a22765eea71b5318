import Thumb2Sim.Emulation.Basic

open Program

namespace Emu

variable {U : Type}

def ldr (Rt : RegNo) (target : Word) : Emu U Unit := do
  setReg Rt (← read32 target)

def ldrb (Rt : RegNo) (target : Word) : Emu U Unit := do
  setReg Rt ((← read8 target).setWidth 32)

def ldrh (Rt : RegNo) (target : Word) : Emu U Unit := do
  setReg Rt ((← read16 target).setWidth 32)

def str (Rt : RegNo) (target : Word) : Emu U Unit := do
  write32 target (← getReg Rt)

def strb (Rt : RegNo) (target : Word) : Emu U Unit := do
  write8 target (((← getReg Rt) &&& 0xff).setWidth 8)

def strh (Rt : RegNo) (target : Word) : Emu U Unit := do
  write16 target (((← getReg Rt) &&& 0xffff).setWidth 16)

-- The signed offset `(U ? 1 : -1) * imm`.
def offset (U : Bool) (imm : Word) : Word :=
  (if U then 1 else -1) * imm

-- The address of an indexed access, `reg[Rn] + (P ? 1 : 0) * (U ? 1 : -1) * imm`.
def indexed (Rn : RegNo) (imm : Word) (P up : Bool) : Emu U Word := do
  return (← getReg Rn) + (if P then 1 else 0) * offset up imm

def writeback (Rn : RegNo) (imm : Word) (up W : Bool) : Emu U Unit :=
  when W do
    setReg Rn ((← getReg Rn) + offset up imm)

-- The base of an access relative to PC.
def literal (imm : Word) : Emu U Word := do
  return ((← getReg regPc) &&& ~~~3) + imm + 4

end Emu

namespace Emulation

open Emu

variable {U : Type}

-- Loads.

def i16LdrImmT1 (Rt Rn : RegNo) (imm : Byte) : Emu U Unit := do
  ldr Rt ((← getReg Rn) + 4 * imm.setWidth 32)

def i16LdrImmT2 (Rt : RegNo) (imm : Byte) : Emu U Unit := do
  ldr Rt ((← getReg regSp) + 4 * imm.setWidth 32 + 0)

def i32LdrImmT3 (Rt Rn : RegNo) (imm : BitVec 16) : Emu U Unit := do
  ldr Rt ((← getReg Rn) + imm.setWidth 32)

def i32LdrImmT4 (Rt Rn : RegNo) (imm : Byte) (P up W : Bool) : Emu U Unit := do
  ldr Rt (← indexed Rn (imm.setWidth 32) P up)
  writeback Rn (imm.setWidth 32) up W

def i16LdrLitT1 (Rt : RegNo) (imm : Byte) : Emu U Unit := do
  ldr Rt (← literal (imm.setWidth 32 * 4))
  setAdvancePc (Rt ≠ regPc)

def i32LdrLitT2 (Rt : RegNo) (imm : BitVec 16) (up : Bool) : Emu U Unit := do
  ldr Rt (← literal (offset up <| imm.setWidth 32))
  setAdvancePc (Rt ≠ regPc)

def i16LdrRegT1 (Rt Rn Rm : RegNo) : Emu U Unit := do
  ldr Rt ((← getReg Rn) + (← getReg Rm))

def i32LdrRegT2 (Rt Rn Rm : RegNo) (imm : Byte) : Emu U Unit := do
  ldr Rt ((← getReg Rn) + (← checked <| CInt.shl (← getReg Rm) imm.toNat))

def i16LdrbImmT1 (Rt Rn : RegNo) (imm : Byte) : Emu U Unit := do
  ldrb Rt ((← getReg Rn) + imm.setWidth 32)

def i32LdrbImmT2 (Rt Rn : RegNo) (imm : BitVec 16) : Emu U Unit := do
  ldrb Rt ((← getReg Rn) + imm.setWidth 32)

def i32LdrbImmT3 (Rt Rn : RegNo) (imm : Byte) (P up W : Bool) : Emu U Unit := do
  ldrb Rt (← indexed Rn (imm.setWidth 32) P up)
  writeback Rn (imm.setWidth 32) up W

def i16LdrbRegT1 (Rt Rn Rm : RegNo) : Emu U Unit := do
  ldrb Rt ((← getReg Rn) + (← getReg Rm))

-- The shift is applied to the byte that was read, not to the index.
def i32LdrbRegT2 (Rt Rn Rm : RegNo) (imm : Byte) : Emu U Unit := do
  let value := (← read8 ((← getReg Rn) + (← getReg Rm))).setWidth 32
  if imm ≠ 0 then
    let bsOut ← checked <| barrelShift value typeLsl imm
    setReg Rt bsOut.value
  else
    setReg Rt value

def i32LdrdImmT1 (Rt Rn Rtx : RegNo) (imm : Byte) (P up W : Bool) : Emu U Unit := do
  let target ← indexed Rn (4 * imm.setWidth 32) P up
  ldr Rt target
  ldr Rtx (target + 4)
  writeback Rn (4 * imm.setWidth 32) up W

def i16LdrhImmT1 (Rt Rn : RegNo) (imm : Byte) : Emu U Unit := do
  ldrh Rt ((← getReg Rn) + 2 * imm.setWidth 32)

def i32LdrhImmT2 (Rt Rn : RegNo) (imm : BitVec 16) : Emu U Unit := do
  ldrh Rt ((← getReg Rn) + imm.setWidth 32)

-- Stores.

def i16StrImmT1 (Rt Rn : RegNo) (imm : Byte) : Emu U Unit := do
  str Rt ((← getReg Rn) + 4 * imm.setWidth 32)

def i16StrImmT2 (Rt : RegNo) (imm : Byte) : Emu U Unit := do
  str Rt ((← getReg regSp) + 4 * imm.setWidth 32)

def i32StrImmT3 (Rt Rn : RegNo) (imm : BitVec 16) : Emu U Unit := do
  str Rt ((← getReg Rn) + imm.setWidth 32)

def i32StrImmT4 (Rt Rn : RegNo) (imm : Byte) (P up W : Bool) : Emu U Unit := do
  str Rt (← indexed Rn (imm.setWidth 32) P up)
  writeback Rn (imm.setWidth 32) up W

def i16StrRegT1 (Rt Rn Rm : RegNo) : Emu U Unit := do
  str Rt ((← getReg Rn) + (← getReg Rm))

def i32StrRegT2 (Rt Rn Rm : RegNo) (imm : Byte) : Emu U Unit := do
  str Rt ((← getReg Rn) + (← checked <| CInt.shl (← getReg Rm) imm.toNat))

def i16StrbImmT1 (Rt Rn : RegNo) (imm : Byte) : Emu U Unit := do
  strb Rt ((← getReg Rn) + imm.setWidth 32)

def i32StrbImmT2 (Rt Rn : RegNo) (imm : BitVec 16) : Emu U Unit := do
  strb Rt ((← getReg Rn) + imm.setWidth 32)

def i32StrbImmT3 (Rt Rn : RegNo) (imm : Byte) (P up W : Bool) : Emu U Unit := do
  strb Rt (← indexed Rn (imm.setWidth 32) P up)
  writeback Rn (imm.setWidth 32) up W

def i16StrbRegT1 (Rt Rn Rm : RegNo) : Emu U Unit := do
  strb Rt ((← getReg Rn) + (← getReg Rm))

-- The shift is added to the address.
def i32StrbRegT2 (Rt Rn Rm : RegNo) (imm : Byte) : Emu U Unit := do
  strb Rt ((← getReg Rn) + (← getReg Rm) + imm.setWidth 32)

def i32StrdImmT1 (Rt Rn Rtx : RegNo) (imm : Byte) (P up W : Bool) : Emu U Unit := do
  let target ← indexed Rn (4 * imm.setWidth 32) P up
  str Rt target
  str Rtx (target + 4)
  writeback Rn (4 * imm.setWidth 32) up W

def i16StrhImmT1 (Rt Rn : RegNo) (imm : Byte) : Emu U Unit := do
  strh Rt ((← getReg Rn) + 2 * imm.setWidth 32)

def i32StrhImmT2 (Rt Rn : RegNo) (imm : BitVec 16) : Emu U Unit := do
  strh Rt ((← getReg Rn) + imm.setWidth 32)

-- Lists of registers.

def i16LdmT1 (Rn : RegNo) (registerList : Byte) : Emu U Unit := do
  let bit ← checked <| CInt.shl (1 : Word) Rn.toNat
  loadRegisters Rn (registerList.setWidth 16) (registerList.setWidth 32 &&& bit = 0)

def withPc (registerList : BitVec 16) (P : Bool) : Emu U (BitVec 16) := do
  if P then
    setAdvancePc false
    return registerList ||| (1 : BitVec 16) <<< regPc.toNat
  else
    return registerList

def withLr (registerList : BitVec 16) (M : Bool) : BitVec 16 :=
  if M then registerList ||| (1 : BitVec 16) <<< regLr.toNat else registerList

def i32LdmT2 (Rn : RegNo) (registerList : BitVec 16) (P M W : Bool) : Emu U Unit := do
  let registerList ← withPc registerList P
  loadRegisters Rn (withLr registerList M) W

def i16PopT1 (registerList : Byte) (P : Bool) : Emu U Unit := do
  let regList ← withPc (registerList.setWidth 16) P
  loadRegisters regSp regList true

def i32PopT2 (registerList : BitVec 16) (P M : Bool) : Emu U Unit := do
  let registerList ← withPc registerList P
  loadRegisters regSp (withLr registerList M) true

def i32PopT3 (Rt : RegNo) : Emu U Unit := do
  let bit ← checked <| CInt.shl (1 : Word) Rt.toNat
  loadRegisters regSp (bit.setWidth 16) true
  setAdvancePc (Rt ≠ regPc)

def i16PushT1 (registerList : Byte) (M : Bool) : Emu U Unit :=
  storeRegisters regSp (withLr (registerList.setWidth 16) M) false true

def i32PushT2 (registerList : BitVec 16) (M : Bool) : Emu U Unit :=
  storeRegisters regSp (withLr registerList M) false true

def i16StmT1 (Rn : RegNo) (registerList : Byte) : Emu U Unit :=
  storeRegisters Rn (registerList.setWidth 16) true true

def i32StmT2 (Rn : RegNo) (registerList : BitVec 16) (M W : Bool) : Emu U Unit :=
  storeRegisters Rn (withLr registerList M) true W

def i32StmdbT1 (Rn : RegNo) (registerList : BitVec 16) (M W : Bool) : Emu U Unit :=
  storeRegisters Rn (withLr registerList M) false W

end Emulation
