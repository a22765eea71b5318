import Thumb2Sim.Emulation.Theorems.Evaluation

open Program Emu

namespace Emulation

variable {U : Type} {s : InsnEmuCtx U} {Rd Rn Rm : Fin 16} {v : Word} {i j k l : Nat}

-- The number of zeros in front of the highest bit that is set.
def IsLeadingZeros (v : Word) (k : Nat) : Prop :=
  if v = 0 then k = 32 else k < 32 ∧ 2 ^ (31 - k) ≤ v.toNat ∧ v.toNat < 2 ^ (32 - k)

theorem isLeadingZeros_zero : IsLeadingZeros 0 k ↔ k = 32 := by
  rw [IsLeadingZeros, if_pos rfl]

theorem isLeadingZeros_of_ne (h : v ≠ 0) :
    IsLeadingZeros v k ↔ k < 32 ∧ 2 ^ (31 - k) ≤ v.toNat ∧ v.toNat < 2 ^ (32 - k) := by
  rw [IsLeadingZeros, if_neg h]

theorem IsLeadingZeros.unique (hk : IsLeadingZeros v k) (hl : IsLeadingZeros v l) : k = l := by
  by_cases hv : v = 0
  case pos =>
    subst hv
    exact (isLeadingZeros_zero.mp hk).trans (isLeadingZeros_zero.mp hl).symm
  case neg =>
    have ⟨hk, hk₁, hk₂⟩ := isLeadingZeros_of_ne hv |>.mp hk
    have ⟨hl, hl₁, hl₂⟩ := isLeadingZeros_of_ne hv |>.mp hl
    have h₁ : 31 - k < 32 - l := Nat.pow_lt_pow_iff_right Nat.one_lt_two |>.mp <| hk₁.trans_lt hl₂
    have h₂ : 31 - l < 32 - k := Nat.pow_lt_pow_iff_right Nat.one_lt_two |>.mp <| hl₁.trans_lt hk₂
    omega

theorem mask_and_ne_zero (hi : i < 32) :
    (1 : Word) <<< 31 >>> i &&& v ≠ 0 ↔ v.getLsbD (31 - i) := by
  have hm : ∀ i < 32, (1 : Word) <<< 31 >>> i = (1 : Word) <<< (31 - i) := by decide
  rw [hm i hi, BitVec.and_comm, Bits.and_bit_ne_zero (by omega)]

-- The bit `j` of a value that has no higher ones.
theorem getLsbD_iff_le (h : v.toNat < 2 ^ (j + 1)) : v.getLsbD j ↔ 2 ^ j ≤ v.toNat := by
  have hd : v.toNat / 2 ^ j < 2 := Nat.div_lt_of_lt_mul <| Nat.pow_succ 2 j ▸ h
  have hp : 1 ≤ v.toNat / 2 ^ j ↔ 2 ^ j ≤ v.toNat := by
    rw [Nat.le_div_iff_mul_le (Nat.two_pow_pos j), Nat.one_mul]
  rw [BitVec.getLsbD, Nat.testBit_eq_decide_div_mod_eq, decide_eq_true_iff, Nat.mod_eq_of_lt hd,
    ← hp]
  omega

-- In front of the pass `i` the `i` highest bits are known to be zero.
theorem isLeadingZeros_loop (hi : i + l = 32) (h : v.toNat < 2 ^ (32 - i)) :
    IsLeadingZeros v (leadingZeros v (List.range' i l) ((1 : Word) <<< 31 >>> i)).toNat := by
  induction l generalizing i
  case zero =>
    obtain rfl : v = 0 := BitVec.eq_of_toNat_eq <| by
      rw [show i = 32 from hi, Nat.sub_self, Nat.pow_zero] at h
      exact Nat.lt_one_iff.mp h
    exact isLeadingZeros_zero.mpr rfl
  case succ l hl =>
    have he : 32 - i = 31 - i + 1 := by omega
    have hb := getLsbD_iff_le (he ▸ h)
    rw [List.range'_succ, leadingZeros]
    by_cases hm : (1 : Word) <<< 31 >>> i &&& v ≠ 0
    case pos =>
      have hle := hb.mp <| mask_and_ne_zero (by omega) |>.mp hm
      have hv : v ≠ 0 := by
        rintro rfl
        exact absurd hle <| Nat.not_le_of_lt <| Nat.two_pow_pos _
      rw [if_pos hm, BitVec.toNat_ofNat, Nat.mod_eq_of_lt (by omega), isLeadingZeros_of_ne hv]
      exact ⟨by omega, hle, h⟩
    case neg =>
      have hlt : v.toNat < 2 ^ (31 - i) :=
        Nat.lt_of_not_le fun hle => hm <| mask_and_ne_zero (by omega) |>.mpr <| hb.mpr hle
      rw [if_neg hm, ← BitVec.shiftRight_add]
      exact hl (by omega) <| by rwa [show 32 - (i + 1) = 31 - i by omega]

-- The loop stops at the highest bit that is set.
theorem i32ClzT1_isLeadingZeros (Rmx : RegNo) :
    (∃! k, IsLeadingZeros (s.emuCtx.cpu.reg Rm) k) ∧
    ∀ k, IsLeadingZeros (s.emuCtx.cpu.reg Rm) k →
      i32ClzT1 (regNo Rd) (regNo Rm) Rmx s = .ok ((), s.setReg Rd (BitVec.ofNat 32 k)) := by
  have hl := isLeadingZeros_loop (v := s.emuCtx.cpu.reg Rm) (Nat.zero_add 32) (BitVec.isLt _)
  refine ⟨⟨_, hl, fun k hk => hk.unique hl⟩, fun k hk => ?_⟩
  rw [i32ClzT1, bind_of_ok getReg_eq, setReg_eq, hk.unique hl, BitVec.ofNat_toNat,
    BitVec.setWidth_eq, List.range_eq_range']
  rfl

-- The quotient rounded towards zero. The only one that does not fit is read modulo `2 ^ 32`.
def quotient (x y : Word) : Word :=
  if y = 0 then 0 else BitVec.ofInt 32 (x.toInt.tdiv y.toInt)

example : quotient 0x80000000 0xffffffff = 0x80000000 := by decide

-- The destination has the quotient afterwards, and nothing else has changed.
def DividesSigned (s : InsnEmuCtx U) (Rd Rn Rm : Fin 16) : Prop :=
  i32SdivT1 (regNo Rd) (regNo Rn) (regNo Rm) s =
    .ok ((), s.setReg Rd (quotient (s.emuCtx.cpu.reg Rn) (s.emuCtx.cpu.reg Rm)))

theorem sdiv_eq_quotient {x y : Word} (h₀ : y ≠ 0) (h : ¬(x = BitVec.intMin 32 ∧ y = -1)) :
    x.sdiv y = quotient x y := by
  rw [quotient, if_neg h₀, ← BitVec.toInt_sdiv_of_ne_or_ne x y (not_and_or.mp h),
    BitVec.ofInt_toInt]

theorem i32SdivT1_of_ne (h₀ : s.emuCtx.cpu.reg Rm ≠ 0) :
    i32SdivT1 (regNo Rd) (regNo Rn) (regNo Rm) s =
      (checked (CInt.sdiv (s.emuCtx.cpu.reg Rn) (s.emuCtx.cpu.reg Rm)) >>= setReg (regNo Rd)) s := by
  rw [i32SdivT1, bind_of_ok getReg_eq, if_neg h₀, bind_of_ok getReg_eq, bind_of_ok getReg_eq]

theorem dividesSigned_of_not
    (h : ¬(s.emuCtx.cpu.reg Rn = BitVec.intMin 32 ∧ s.emuCtx.cpu.reg Rm = -1)) :
    DividesSigned s Rd Rn Rm := by
  rw [DividesSigned]
  by_cases h₀ : s.emuCtx.cpu.reg Rm = 0
  case pos => rw [i32SdivT1, bind_of_ok getReg_eq, if_pos h₀, setReg_eq, quotient, if_pos h₀]
  case neg =>
    rw [i32SdivT1_of_ne h₀, CInt.sdiv, if_neg <| not_or.mpr ⟨h₀, h⟩, sdiv_eq_quotient h₀ h]
    exact setReg_eq

theorem not_dividesSigned (hn : s.emuCtx.cpu.reg Rn = BitVec.intMin 32)
    (hm : s.emuCtx.cpu.reg Rm = -1) : ¬DividesSigned s Rd Rn Rm := by
  have h₀ : s.emuCtx.cpu.reg Rm ≠ 0 := fun h => absurd (h.symm.trans hm) (by decide)
  rw [DividesSigned, i32SdivT1_of_ne h₀, CInt.sdiv, if_pos <| .inr ⟨hn, hm⟩]
  exact nofun

-- The division runs into the only quotient that does not fit.
theorem dividesSigned_iff : DividesSigned s Rd Rn Rm ↔
    ¬(s.emuCtx.cpu.reg Rn = BitVec.intMin 32 ∧ s.emuCtx.cpu.reg Rm = -1) :=
  ⟨fun h ⟨hn, hm⟩ => not_dividesSigned hn hm h, dividesSigned_of_not⟩

-- `sdiv r0, r1, r2`
theorem not_forall_dividesSigned :
    ¬∀ (s : InsnEmuCtx Unit) (Rd Rn Rm : Fin 16), DividesSigned s Rd Rn Rm :=
  fun h => not_dividesSigned rfl rfl <| h (cpuWith [0, 0x80000000, 0xffffffff]) 0 1 2

end Emulation
