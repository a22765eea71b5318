import Thumb2Sim.Cpu.Basic
import Thumb2Sim.Lib.Shift

namespace Shift

-- The text of a shift behind the register that is shifted.
def text : Shift → String
  | lsl n => ", lsl #" ++ n.repr
  | lsr n => ", lsr #" ++ n.repr
  | asr n => ", asr #" ++ n.repr
  | ror n => ", ror #" ++ n.repr
  | rrx   => ", rrx"

theorem digits_injective : Function.Injective (Nat.toDigits 10) := by
  intro m n h
  rw [← Nat.ofDigitChars_ten_toDigits (n := m), h, Nat.ofDigitChars_ten_toDigits]

-- A text tells the shift that it is printed for.
theorem text_injective : Function.Injective text := by
  intro x y h
  have h := congrArg String.toList h
  cases x <;> cases y <;> simp [text] at h <;>
    first | rfl | exact congrArg _ (digits_injective h)

end Shift

def printS (aType aImm : Byte) : String :=
  if aType = typeLsl then
    ", lsl #" ++ aImm.toNat.repr
  else if aType = typeLsr then
    let aImm := if aImm = 0 then 32 else aImm
    ", lsr #" ++ aImm.toNat.repr
  else if aType = typeAsr then
    let aImm := if aImm = 0 then 32 else aImm
    ", asr #" ++ aImm.toNat.repr
  else
    if aImm = 0 then
      ", rrx"
    else
      ", ror #" ++ aImm.toNat.repr

-- The shift that the printed text stands for.
def printedShift (aType aImm : Byte) : Shift :=
  if aType = typeLsl then
    .lsl aImm.toNat
  else if aType = typeLsr then
    .lsr (if aImm = 0 then 32 else aImm.toNat)
  else if aType = typeAsr then
    .asr (if aImm = 0 then 32 else aImm.toNat)
  else
    if aImm = 0 then .rrx else .ror aImm.toNat

theorem printS_eq (aType aImm : Byte) : printS aType aImm = (printedShift aType aImm).text := by
  unfold printS printedShift
  split_ifs <;> rfl
