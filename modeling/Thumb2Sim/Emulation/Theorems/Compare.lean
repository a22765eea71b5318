import Thumb2Sim.Emulation.DataProcessing
import Thumb2Sim.Emulation.Theorems.Condition

namespace ItCond

-- What a condition says about two words after they have been compared. The overflow conditions tell
-- whether the signed difference of the words is representable in 32 bits.
def Compares (a b : Word) : ItCond → Prop
  | eq => a = b
  | ne => ¬a = b
  | cs => a.toNat ≥ b.toNat
  | cc => ¬a.toNat ≥ b.toNat
  | mi => (a - b).getLsbD 31 = true
  | pl => ¬(a - b).getLsbD 31 = true
  | vs => ¬(-2 ^ 31 ≤ a.toInt - b.toInt ∧ a.toInt - b.toInt < 2 ^ 31)
  | vc => ¬¬(-2 ^ 31 ≤ a.toInt - b.toInt ∧ a.toInt - b.toInt < 2 ^ 31)
  | hi => a.toNat > b.toNat
  | ls => ¬a.toNat > b.toNat
  | ge => a.toInt ≥ b.toInt
  | lt => ¬a.toInt ≥ b.toInt
  | gt => a.toInt > b.toInt
  | le => ¬a.toInt > b.toInt
  | al => True

end ItCond

section

variable {psr a b : Word} {overflow : SignedOverflow}

theorem flags_setCondCode (value : Word) :
    flags (psr &&& ~~~flagMask ||| value) = flags value := by
  have h : ∀ i ∈ [31, 30, 29, 28], (~~~flagMask).getLsbD i = false := by decide
  simp only [flags, BitVec.getLsbD_or, BitVec.getLsbD_and, h, List.mem_cons, true_or, or_true,
    Bool.and_false, Bool.false_or]

-- The formula for the overflow of a subtraction is right if differences wrap around. Otherwise it
-- never holds, since signed words of different signs are in the opposite order as unsigned ones.
theorem sub_overflow_iff :
    ¬(a.toInt ≥ 0 ↔ b.toInt ≥ 0) ∧ (overflow.differs a b ↔ b > a) ↔ overflow = .wraps ∧
    ¬(-2 ^ 31 ≤ a.toInt - b.toInt ∧ a.toInt - b.toInt < 2 ^ 31) := by
  have ha := a.isLt
  have hb := b.isLt
  cases overflow
  case wraps =>
    simp only [SignedOverflow.differs, decide_eq_true_eq, BitVec.toInt_eq_toNat_cond,
      BitVec.toNat_sub, gt_iff_lt, BitVec.lt_def, BitVec.reduceToNat, true_and]
    split <;> split <;> split <;> omega
  case excluded =>
    simp only [SignedOverflow.differs, decide_eq_true_eq, BitVec.toInt_eq_toNat_cond, gt_iff_lt,
      BitVec.lt_def, reduceCtorEq, false_and, iff_false]
    split <;> split <;> omega

theorem getLsbD_31_iff : a.getLsbD 31 = true ↔ a.toInt < 0 := by
  have h : a.msb = a.getLsbD 31 := BitVec.msb_eq_getLsbD_last a
  rw [← h, BitVec.msb_eq_toInt, decide_eq_true_iff]

-- The sign of the difference is the right one exactly if there is no overflow.
theorem sub_sign_iff :
    ((a - b).toInt < 0 ↔ ¬(-2 ^ 31 ≤ a.toInt - b.toInt ∧ a.toInt - b.toInt < 2 ^ 31)) ↔
    a.toInt ≥ b.toInt := by
  have ha := a.isLt
  have hb := b.isLt
  simp only [BitVec.toInt_eq_toNat_cond, BitVec.toNat_sub]
  split <;> split <;> split <;> omega

theorem flags_subCondCode : flags (subCondCode overflow a b) = {
    n := (a - b).toInt < 0
    z := a = b
    c := a.toNat ≥ b.toNat
    v := overflow = .wraps ∧ ¬(-2 ^ 31 ≤ a.toInt - b.toInt ∧ a.toInt - b.toInt < 2 ^ 31)
  } := by
  have h : subCondCode overflow a b = Flags.toPsr {
      n := (a - b).toInt < 0
      z := a = b
      c := a ≥ b
      v := ¬(a.toInt ≥ 0 ↔ b.toInt ≥ 0) ∧ (overflow.differs a b ↔ b > a)
    } := by simp only [subCondCode, Flags.toPsr, decide_eq_true_eq]
  rw [h, flags_toPsr, Flags.mk.injEq]
  exact ⟨rfl, rfl, rfl, decide_eq_decide.mpr sub_overflow_iff⟩

-- A sum overflows if its sign differs from the one that both operands have.
theorem add_overflow_iff :
    (a.getLsbD 31 = b.getLsbD 31 ∧ a.getLsbD 31 ≠ (a + b).getLsbD 31) ↔
    ¬(-2 ^ 31 ≤ a.toInt + b.toInt ∧ a.toInt + b.toInt < 2 ^ 31) := by
  have ha := a.isLt
  have hb := b.isLt
  have h : (a.getLsbD 31 = b.getLsbD 31 ∧ a.getLsbD 31 ≠ (a + b).getLsbD 31) ↔
      (a.toInt < 0 ↔ b.toInt < 0) ∧ ¬(a.toInt < 0 ↔ (a + b).toInt < 0) := by
    rw [← getLsbD_31_iff, ← getLsbD_31_iff, ← getLsbD_31_iff, ← Bool.eq_iff_iff,
      ← Bool.eq_iff_iff]
  rw [h]
  simp only [BitVec.toInt_eq_toNat_cond, BitVec.toNat_add]
  split <;> split <;> split <;> omega

theorem flags_addCondCode : flags (addCondCode a b) = {
    n := (a + b).getLsbD 31
    z := a + b = 0
    c := 2 ^ 32 ≤ a.toNat + b.toNat
    v := ¬(-2 ^ 31 ≤ a.toInt + b.toInt ∧ a.toInt + b.toInt < 2 ^ 31)
  } := by
  have hbit (x : Word) : x &&& 0x80000000 = if x.getLsbD 31 then 0x80000000 else 0 :=
    BitVec.and_twoPow x 31
  have heq (x y : Word) : x &&& 0x80000000 = y &&& 0x80000000 ↔ x.getLsbD 31 = y.getLsbD 31 := by
    rw [hbit, hbit]
    cases x.getLsbD 31 <;> cases y.getLsbD 31 <;> decide
  have hc : a + b < a ∨ a + b < b ↔ 2 ^ 32 ≤ a.toNat + b.toNat := by
    have ha := a.isLt
    have hb := b.isLt
    simp only [BitVec.lt_def, BitVec.toNat_add]
    omega
  have h : addCondCode a b = Flags.toPsr {
      n := (a + b).toInt < 0
      z := a + b = 0
      c := a + b < a ∨ a + b < b
      v := a.getLsbD 31 = b.getLsbD 31 ∧ a.getLsbD 31 ≠ (a + b).getLsbD 31
    } := by
    simp only [addCondCode, Flags.toPsr, decide_eq_true_eq, heq, ne_eq, ← ite_and]
    rw [BitVec.or_comm (if a + b = 0 then flagZero else 0)]
  rw [h, flags_toPsr, Flags.mk.injEq]
  refine ⟨?_, rfl, decide_eq_decide.mpr hc, decide_eq_decide.mpr add_overflow_iff⟩
  rw [Bool.eq_iff_iff, decide_eq_true_iff, getLsbD_31_iff]

-- The conditions on the flags of a comparison are the conditions on its operands.
theorem holds_subCondCode_iff {c : ItCond} :
    c.Holds (flags (subCondCode .wraps a b)) ↔ c.Compares a b := by
  rw [flags_subCondCode]
  cases c <;> simp only [ItCond.Holds, ItCond.Compares, decide_eq_true_eq, decide_eq_decide,
    getLsbD_31_iff, sub_sign_iff, ne_eq, true_and]
  case hi | ls => rw [← BitVec.toNat_inj]; omega
  case gt | le => rw [← BitVec.toInt_inj]; omega

end

namespace Emulation

-- The comparisons of a register with an immediate or with another register.
inductive Comparison
  | immT1 (Rn : Fin 16) (imm : Byte)
  | immT2 (Rn : Fin 16) (imm : Word)
  | regT1 (Rn Rm : Fin 16)
  | regT2 (Rn Rm : Fin 16)

namespace Comparison

variable {U : Type}

def handler (overflow : SignedOverflow) : Comparison → Emu U Unit
  | immT1 Rn imm => i16CmpImmT1 overflow (regNo Rn) imm
  | immT2 Rn imm => i32CmpImmT2 overflow (regNo Rn) imm
  | regT1 Rn Rm  => i16CmpRegT1 overflow (regNo Rn) (regNo Rm)
  | regT2 Rn Rm  => i16CmpRegT2 overflow (regNo Rn) (regNo Rm)

def first (cpu : Cpu) : Comparison → Word
  | immT1 Rn _ | immT2 Rn _ | regT1 Rn _ | regT2 Rn _ => cpu.reg Rn

def second (cpu : Cpu) : Comparison → Word
  | immT1 _ imm => imm.setWidth 32
  | immT2 _ imm => imm
  | regT1 _ Rm | regT2 _ Rm => cpu.reg Rm

theorem handler_eq (c : Comparison) (overflow : SignedOverflow) (s : InsnEmuCtx U) :
    c.handler overflow s =
      Emu.setSubCondCode overflow true (c.first s.emuCtx.cpu) (c.second s.emuCtx.cpu) s := by
  cases c
  case immT1 => exact Program.bind_of_ok Emu.getReg_regNo
  case immT2 => exact Program.bind_of_ok Emu.getReg_regNo
  all_goals
    simp only [handler, i16CmpRegT1, i16CmpRegT2]
    rw [Program.bind_of_ok Emu.getReg_regNo, Program.bind_of_ok Emu.getReg_regNo]
    rfl

-- A comparison changes nothing but the flags, and then every condition answers the question about
-- the operands that it stands for, if differences wrap around.
theorem condSatisfied_handler (c : Comparison) (s : InsnEmuCtx U) :
    ∃ psr, c.handler .wraps s = .ok ((), { s with emuCtx := s.emuCtx.setPsr psr }) ∧
      ∀ cond : ItCond, condSatisfied psr cond.number ↔
        cond.Compares (c.first s.emuCtx.cpu) (c.second s.emuCtx.cpu) := by
  refine ⟨_, (c.handler_eq .wraps s).trans rfl, fun cond => ?_⟩
  rw [condSatisfied_iff, flags_setCondCode, holds_subCondCode_iff]

end Comparison

end Emulation
