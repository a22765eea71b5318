import Thumb2Sim.Emulation.Basic

open Program

namespace Emu

variable {U : Type}

-- The handlers that combine two operands, with the condition code of the operands set first.
def arithmetic (setCondCode : Word → Word → Emu U Unit) (op : Word → Word → Word) (Rd Rn : RegNo)
    (operand : Emu U Word) : Emu U Unit := do
  setCondCode (← getReg Rn) (← operand)
  setReg Rd (op (← getReg Rn) (← operand))

-- The handlers that write their result first and take the condition code from the destination.
def logical (setCondCode : Word → Emu U Unit) (op : Word → Word → Word) (Rd Rn : RegNo)
    (operand : Emu U Word) : Emu U Unit := do
  setReg Rd (op (← getReg Rn) (← operand))
  setCondCode (← getReg Rd)

-- The same for the handlers with one operand.
def move (setCondCode : Word → Emu U Unit) (Rd : RegNo) (operand : Emu U Word) : Emu U Unit := do
  setReg Rd (← operand)
  setCondCode (← getReg Rd)

def shiftReg (Rm : RegNo) (type imm : Byte) : Emu U BarrelshifterOutput := do
  checked <| barrelShift (← getReg Rm) type imm

end Emu

namespace Emulation

open Emu

variable {U : Type} (overflow : SignedOverflow)

-- Addition and subtraction.

def i32AdcImmT1 (Rd Rn : RegNo) (imm : Word) (S : Bool) : Emu U Unit := do
  let imm := imm + if (← getPsr) &&& flagCarry ≠ 0 then 1 else 0
  when S do
    setAddCondCode true (← getReg Rn) (imm + 1)
  setReg Rd ((← getReg Rn) + imm)

def i32AdcRegT2 (Rd Rn Rm : RegNo) (imm type : Byte) (S : Bool) : Emu U Unit := do
  let bsOut ← shiftReg Rm type imm
  let value := bsOut.value + if (← getPsr) &&& flagCarry ≠ 0 then 1 else 0
  when S do
    setAddCondCode true (← getReg Rd) value
  setReg Rd ((← getReg Rn) + value)

def i16AddSPiT1 (Rd : RegNo) (imm : Byte) : Emu U Unit := do
  setReg Rd ((← getReg regSp) + imm.setWidth 32 * 4)

def i16AddSPiT2 (imm : Byte) : Emu U Unit := do
  setReg regSp ((← getReg regSp) + imm.setWidth 32 * 4)

def i32AddSPiT3 (Rd : RegNo) (imm : Word) (S : Bool) : Emu U Unit :=
  arithmetic (fun x y => when S <| setAddCondCode true x y) (· + ·) Rd regSp (pure imm)

def i16AddSPrT1 (Rdm : RegNo) : Emu U Unit := do
  setReg Rdm ((← getReg Rdm) + (← getReg regSp))

def i32AddSPrT3 (Rd Rm : RegNo) (imm type : Byte) (S : Bool) : Emu U Unit := do
  let bsOut ← shiftReg Rm type imm
  arithmetic (fun x y => when S <| setAddCondCode true x y) (· + ·) Rd regSp (pure bsOut.value)

def i16AddImmT1 (Rd Rn : RegNo) (imm : Byte) : Emu U Unit :=
  arithmetic (setAddCondCode false) (· + ·) Rd Rn (pure <| imm.setWidth 32)

def i16AddImmT2 (Rdn : RegNo) (imm : Byte) : Emu U Unit :=
  arithmetic (setAddCondCode false) (· + ·) Rdn Rdn (pure <| imm.setWidth 32)

def i32AddImmT3 (Rd Rn : RegNo) (imm : Word) (S : Bool) : Emu U Unit :=
  arithmetic (fun x y => when S <| setAddCondCode true x y) (· + ·) Rd Rn (pure imm)

def i16AddRegT1 (Rd Rn Rm : RegNo) : Emu U Unit :=
  arithmetic (setAddCondCode false) (· + ·) Rd Rn (getReg Rm)

def i16AddRegT2 (Rdn Rm : RegNo) : Emu U Unit := do
  setReg Rdn ((← getReg Rdn) + (← getReg Rm))

def i32AddRegT3 (Rd Rn Rm : RegNo) (imm type : Byte) (S : Bool) : Emu U Unit := do
  let bsOut ← shiftReg Rm type imm
  arithmetic (fun x y => when S <| setAddCondCode true x y) (· + ·) Rd Rn (pure bsOut.value)

def i32RsbImmT2 (Rd Rn : RegNo) (imm : Word) (S : Bool) : Emu U Unit :=
  arithmetic (fun x y => when S <| setSubCondCode overflow true y x) (fun x y => y - x) Rd Rn
    (pure imm)

def i32RsbRegT1 (Rd Rn Rm : RegNo) (imm type : Byte) (S : Bool) : Emu U Unit := do
  let bsOut ← shiftReg Rm type imm
  arithmetic (fun x y => when S <| setSubCondCode overflow true y x) (fun x y => y - x) Rd Rn
    (pure bsOut.value)

def i16SubSPimmT1 (imm : Byte) : Emu U Unit := do
  setReg regSp ((← getReg regSp) - imm.setWidth 32 * 4)

def i16SubImmT1 (Rd Rn : RegNo) (imm : Byte) : Emu U Unit :=
  arithmetic (setSubCondCode overflow false) (· - ·) Rd Rn (pure <| imm.setWidth 32)

def i16SubImmT2 (Rdn : RegNo) (imm : Byte) : Emu U Unit :=
  arithmetic (setSubCondCode overflow false) (· - ·) Rdn Rdn (pure <| imm.setWidth 32)

def i32SubImmT3 (Rd Rn : RegNo) (imm : Word) (S : Bool) : Emu U Unit :=
  arithmetic (fun x y => when S <| setSubCondCode overflow true x y) (· - ·) Rd Rn (pure imm)

def i32SubImmT4 (Rd Rn : RegNo) (imm : BitVec 16) : Emu U Unit :=
  arithmetic (setSubCondCode overflow false) (· - ·) Rd Rn (pure <| imm.setWidth 32)

def i16SubRegT1 (Rd Rn Rm : RegNo) : Emu U Unit :=
  arithmetic (setSubCondCode overflow false) (· - ·) Rd Rn (getReg Rm)

def i32SubRegT2 (Rd Rn Rm : RegNo) (imm type : Byte) (S : Bool) : Emu U Unit := do
  let bsOut ← shiftReg Rm type imm
  arithmetic (fun x y => when S <| setSubCondCode overflow true x y) (· - ·) Rd Rn
    (pure bsOut.value)

-- Comparisons and tests.

def i16CmpImmT1 (Rn : RegNo) (imm : Byte) : Emu U Unit := do
  setSubCondCode overflow true (← getReg Rn) (imm.setWidth 32)

def i32CmpImmT2 (Rn : RegNo) (imm : Word) : Emu U Unit := do
  setSubCondCode overflow true (← getReg Rn) imm

def i16CmpRegT1 (Rn Rm : RegNo) : Emu U Unit := do
  setSubCondCode overflow true (← getReg Rn) (← getReg Rm)

def i16CmpRegT2 (Rn Rm : RegNo) : Emu U Unit := do
  setSubCondCode overflow true (← getReg Rn) (← getReg Rm)

def i32TstImmT1 (Rn : RegNo) (imm : Word) : Emu U Unit := do
  setMovCondCode true ((← getReg Rn) &&& imm)

def i16TstRegT1 (Rn Rm : RegNo) : Emu U Unit := do
  setMovCondCode true ((← getReg Rn) &&& (← getReg Rm))

-- Bitwise operations.

def i32AndImmT1 (Rd Rn : RegNo) (imm : Word) (S : Bool) : Emu U Unit := do
  if Rd = regPc ∧ S then
    setMovCondCode true ((← getReg Rn) &&& imm)
  else
    logical (fun v => when S <| setMovCondCode true v) (· &&& ·) Rd Rn (pure imm)

def i16AndRegT1 (Rdn Rm : RegNo) : Emu U Unit :=
  logical (setMovCondCode true) (· &&& ·) Rdn Rdn (getReg Rm)

def i32AndRegT2 (Rd Rn Rm : RegNo) (imm type : Byte) (S : Bool) : Emu U Unit := do
  if Rd ≠ regPc then
    let bsOut ← shiftReg Rm type imm
    logical (fun v => when S <| setMovCondCode true v) (· &&& ·) Rd Rn (pure bsOut.value)
  else
    return

def i32BicImmT1 (Rd Rn : RegNo) (imm : Word) (S : Bool) : Emu U Unit :=
  logical (fun v => when S <| setMovCondCode true v) (· &&& ~~~·) Rd Rn (pure imm)

def i32BicRegT2 (Rd Rn Rm : RegNo) (imm type : Byte) (S : Bool) : Emu U Unit := do
  if Rd ≠ regPc then
    let bsOut ← shiftReg Rm type imm
    logical (fun v => when S <| setMovCondCode true v) (· &&& ~~~·) Rd Rn (pure bsOut.value)
  else
    return

def i32EorImmT1 (Rd Rn : RegNo) (imm : Word) (S : Bool) : Emu U Unit :=
  logical (fun v => when S <| setMovCondCode true v) (· ^^^ ·) Rd Rn (pure imm)

def i16EorRegT1 (Rdn Rm : RegNo) : Emu U Unit :=
  logical (setMovCondCode false) (· ^^^ ·) Rdn Rdn (getReg Rm)

def i32EorRegT2 (Rd Rn Rm : RegNo) (imm type : Byte) (S : Bool) : Emu U Unit := do
  if Rd ≠ regPc then
    let bsOut ← shiftReg Rm type imm
    logical (fun v => when S <| setMovCondCode true v) (· ^^^ ·) Rd Rn (pure bsOut.value)
  else
    return

def i32OrnRegT1 (Rd Rn Rm : RegNo) (imm type : Byte) (S : Bool) : Emu U Unit := do
  let bsOut ← shiftReg Rm type imm
  logical (fun v => when S <| setMovCondCode true v) (· ||| ~~~·) Rd Rn (pure bsOut.value)

def i32OrrImmT1 (Rd Rn : RegNo) (imm : Word) (S : Bool) : Emu U Unit :=
  logical (fun v => when S <| setMovCondCode true v) (· ||| ·) Rd Rn (pure imm)

def i16OrrRegT1 (Rdn Rm : RegNo) : Emu U Unit :=
  logical (setMovCondCode false) (· ||| ·) Rdn Rdn (getReg Rm)

def i32OrrRegT2 (Rd Rn Rm : RegNo) (imm type : Byte) (S : Bool) : Emu U Unit := do
  let bsOut ← shiftReg Rm type imm
  let setCondCode v := when S <| setLslCondCode true v bsOut.carry
  if Rn ≠ 0x0f then
    logical setCondCode (· ||| ·) Rd Rn (pure bsOut.value)
  else
    move setCondCode Rd (pure bsOut.value)

-- Moves.

def conditionForExecutionSatisfied : Bool :=
  true

def i16MovImmT1 (Rd : RegNo) (imm : Byte) : Emu U Unit :=
  when conditionForExecutionSatisfied do
    setReg Rd (imm.setWidth 32)
    setMovCondCode false (imm.setWidth 32)

def i32MovImmT2 (Rd : RegNo) (imm : Word) (S : Bool) : Emu U Unit := do
  setReg Rd imm
  when S do
    setMovCondCode true imm

def i32MovImmT3 (Rd : RegNo) (imm : BitVec 16) : Emu U Unit :=
  setReg Rd (imm.setWidth 32)

def i16MovRegT1 (Rd Rm : RegNo) : Emu U Unit := do
  setReg Rd (← getReg Rm)
  when (Rm = regPc) do
    setReg Rd ((← getReg Rd) + 4)

def i16MovRegT2 (Rd Rm : RegNo) : Emu U Unit := do
  setReg Rd (← getReg Rm)

def i32MovtT1 (Rd : RegNo) (imm : BitVec 16) : Emu U Unit := do
  setReg Rd ((← getReg Rd) &&& 0xffff)
  setReg Rd ((← getReg Rd) ||| imm.setWidth 32 <<< 16)

def i32MvnImmT1 (Rd : RegNo) (imm : Word) (S : Bool) : Emu U Unit := do
  setReg Rd (~~~imm)
  when S do
    setMovCondCode true imm

def i16MvnRegT1 (Rd Rm : RegNo) : Emu U Unit :=
  move (setMovCondCode true) Rd do return ~~~(← getReg Rm)

def i32MvnRegT2 (Rd Rm : RegNo) (imm : Word) (type : Byte) (S : Bool) : Emu U Unit := do
  let bsOut ← shiftReg Rm type (imm.setWidth 8)
  move (fun v => when S <| setMovCondCode true v) Rd (pure (~~~bsOut.value))

-- Shifts.

def i16AsrImmT1 (Rd Rm : RegNo) (imm : Byte) : Emu U Unit := do
  let carry := (← getReg Rm) &&& (← checked <| CInt.shl (1 : Word) (imm.toNat - 1))
  setReg Rd (← checked <| CInt.sar (← getReg Rm) imm.toNat)
  setLslCondCode false (← getReg Rd) (carry ≠ 0)

def i16LslImmT1 (Rd Rm : RegNo) (imm : Byte) : Emu U Unit := do
  let wide ← checked <| CInt.shl ((← getReg Rm).setWidth 64) imm.toNat
  let carry := wide &&& 0x100000000
  setReg Rd (← checked <| CInt.shl (← getReg Rm) imm.toNat)
  setLslCondCode false (← getReg Rd) (carry ≠ 0)

def i32LslImmT2 (Rd Rm : RegNo) (imm : Byte) (S : Bool) : Emu U Unit := do
  let bsOut ← shiftReg Rm typeLsl imm
  move (fun v => when S <| setLslCondCode true v bsOut.carry) Rd (pure bsOut.value)

def i16LslRegT1 (Rdn Rm : RegNo) : Emu U Unit := do
  let bsOut ← shiftReg Rdn typeLsl ((← getReg Rm).setWidth 8)
  move (setLslCondCode false · bsOut.carry) Rdn (pure bsOut.value)

def i32LslRegT2 (Rd Rn Rm : RegNo) (S : Bool) : Emu U Unit := do
  let bsOut ← shiftReg Rm typeLsl ((← getReg Rn).setWidth 8)
  move (fun v => when S <| setLslCondCode true v bsOut.carry) Rd (pure bsOut.value)

def i16LsrImmT1 (Rd Rm : RegNo) (imm : Byte) : Emu U Unit := do
  let carry := (← getReg Rm) &&& (← checked <| CInt.shl (1 : Word) (imm.toNat - 1))
  setReg Rd (← checked <| CInt.shr (← getReg Rm) imm.toNat)
  setLslCondCode false (← getReg Rd) (carry ≠ 0)

def i32LsrImmT2 (Rd Rm : RegNo) (imm : Byte) (S : Bool) : Emu U Unit := do
  let carry := (← getReg Rm) &&& (← checked <| CInt.shl (1 : Word) (imm.toNat - 1))
  setReg Rd (← checked <| CInt.shr (← getReg Rm) imm.toNat)
  when S do
    setLslCondCode false (← getReg Rd) (carry ≠ 0)

-- The count of the first shift is unsigned.
def lsrCarry (value count : Word) : Except Undefined Bool := do
  return value &&& (← CInt.shl (1 : Word) (count - 1).toNat) ≠ 0

def i16LsrRegT1 (Rdn Rm : RegNo) : Emu U Unit := do
  let count ← getReg Rm
  let value ← getReg Rdn
  let carry ← checked <| if count ≠ 0 then lsrCarry value count else return false
  setReg Rdn (← checked <| CInt.shr value count.toNat)
  setLslCondCode true (← getReg Rdn) carry

def i32LsrRegT2 (Rd Rn Rm : RegNo) (S : Bool) : Emu U Unit := do
  let count ← getReg Rm
  let value ← getReg Rn
  let carry ← checked <| lsrCarry value count
  setReg Rd (← checked <| CInt.shr value count.toNat)
  when S do
    setLslCondCode true (← getReg Rd) carry

def i32RorImmT1 (Rd Rm : RegNo) (imm : Byte) (S : Bool) : Emu U Unit := do
  let bsOut ← shiftReg Rm typeRor imm
  move (fun v => when S <| setLslCondCode true v bsOut.carry) Rd (pure bsOut.value)

-- Bit fields and extensions.

def i32BfiT1 (Rd Rn : RegNo) (imm msb : Byte) : Emu U Unit := do
  let srcMask := (← checked <| CInt.shl (1 : Word) msb.toNat) - 1
  let destMask ← checked <| CInt.shl srcMask imm.toNat
  setReg Rd ((← getReg Rd) &&& ~~~destMask)
  let bits ← checked <| CInt.shl ((← getReg Rn) &&& srcMask) imm.toNat
  setReg Rd ((← getReg Rd) ||| bits)

def i32UbfxT1 (Rd Rn : RegNo) (imm width : Byte) : Emu U Unit := do
  let bits ← checked <| CInt.shr (← getReg Rn) imm.toNat
  setReg Rd (bits &&& ((← checked <| CInt.shl (1 : Word) width.toNat) - 1))

-- The loop over `i`, with `mask` shifted along.
def leadingZeros (value : Word) : List Nat → Word → Word
  | [],     _    => 32
  | i :: l, mask =>
    if mask &&& value ≠ 0 then BitVec.ofNat 32 i else leadingZeros value l (mask >>> 1)

def i32ClzT1 (Rd Rm _Rmx : RegNo) : Emu U Unit := do
  setReg Rd (leadingZeros (← getReg Rm) (List.range 32) ((1 : Word) <<< 31))

def i16SxtbT1 (Rd Rm : RegNo) : Emu U Unit := do
  setReg Rd (((← getReg Rm).setWidth 8).signExtend 32)

def i16UxtbT1 (Rd Rm : RegNo) : Emu U Unit := do
  setReg Rd ((← getReg Rm) &&& 0xff)

def i32UxtbT2 (Rd Rm : RegNo) (rotate : Byte) : Emu U Unit := do
  if rotate = 0 then
    setReg Rd (← checked <| CInt.shl ((← getReg Rm) &&& 0xff) (8 * rotate.toNat))
  else
    return

def i16UxthT1 (Rd Rm : RegNo) : Emu U Unit := do
  setReg Rd ((← getReg Rm) &&& 0xffff)

-- Multiplication and division.

def i32MulT2 (Rd Rn Rm : RegNo) : Emu U Unit := do
  setReg Rd ((← getReg Rn) * (← getReg Rm))

def i32SdivT1 (Rd Rn Rm : RegNo) : Emu U Unit := do
  if (← getReg Rm) = 0 then
    setReg Rd 0
  else
    setReg Rd (← checked <| CInt.sdiv (← getReg Rn) (← getReg Rm))

def i32UmullT1 (Rn Rm RdLo RdHi : RegNo) : Emu U Unit := do
  let result := (← getReg Rn).setWidth 64 * (← getReg Rm).setWidth 64
  setReg RdLo (result.setWidth 32)
  setReg RdHi ((result >>> 32).setWidth 32)

end Emulation
