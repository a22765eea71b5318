import Thumb2Sim.Decoder.Decode

open Pattern

-- The words with the bits 31 to 27 equal to 11110 and bit 15 set.
def branchSpace : Pattern 32 :=
  ⟨0xf8008000, 0xf0008000⟩

-- The branch instruction that a word of the branch space is meant to encode. The bits 25 to 22 hold
-- the condition of `b_T3`, which must not be 111x.
def wideBranch (w : Word) : Option Variant :=
  match w.getLsbD 14, w.getLsbD 12 with
  | true,  true  => some .blT1
  | false, true  => some .bT4
  | false, false => if w.getLsbD 25 && w.getLsbD 24 && w.getLsbD 23 then none else some .bT3
  | true,  false => none

def TakesWideBranch (w : Word) : Prop :=
  ∀ v, wideBranch w = some v → (decode w).map Opcode.variant = some v

-- The encoding of `cmp_imm_T2`, which leaves bit 15 open.
def cmpImmT2Pattern : Pattern 32 :=
  ⟨0xfbf00f00, 0xf1b00f00⟩

-- The words of the branch space with the given bits 14 and 12.
def branchForm (b14 b12 : Bool) : Pattern 32 :=
  branchSpace.meet (bit 14 b14) |>.meet (bit 12 b12)

-- A condition of `b_T3` has a zero among its bits 3 to 1, the first of which is looked for.
def branchRules : List DecodeRule := [
  ⟨branchForm true true, [cmpImmT2Pattern], .blT1⟩,
  ⟨branchForm false true, [cmpImmT2Pattern], .bT4⟩,
  ⟨branchForm false false |>.meet (bit 25 false), [cmpImmT2Pattern], .bT3⟩,
  ⟨branchForm false false |>.meet (bit 25 true) |>.meet (bit 24 false), [cmpImmT2Pattern], .bT3⟩,
  ⟨branchForm false false |>.meet (bit 25 true) |>.meet (bit 24 true) |>.meet (bit 23 false),
    [cmpImmT2Pattern], .bT3⟩,
  ⟨branchSpace.meet cmpImmT2Pattern, [], .cmpImmT2⟩
]

theorem branchRules_hold : ∀ r ∈ branchRules, r.Holds := by
  decide +kernel

variable {w : Word}

theorem decode_bT3 (hb : (branchForm false false).Matches w)
    (hc : ¬(w.getLsbD 25 && w.getLsbD 24 && w.getLsbD 23))
    (ho : ∀ q ∈ [cmpImmT2Pattern], ¬q.Matches w) :
    (decode w).map Opcode.variant = some .bT3 := by
  have h25 := hb.meet <| matches_bit 25
  cases b25 : w.getLsbD 25 <;> rw [b25] at h25
  case false => exact DecodeRule.decode_of_mem branchRules_hold (by simp [branchRules]) h25 ho
  case true =>
    have h24 := h25.meet <| matches_bit 24
    cases b24 : w.getLsbD 24 <;> rw [b24] at h24
    case false => exact DecodeRule.decode_of_mem branchRules_hold (by simp [branchRules]) h24 ho
    case true =>
      have h23 := h24.meet <| matches_bit 23
      have b23 : w.getLsbD 23 = false := by simpa [b25, b24] using hc
      rw [b23] at h23
      exact DecodeRule.decode_of_mem branchRules_hold (by simp [branchRules]) h23 ho

theorem takesWideBranch_of_not_cmpImmT2 (hw : branchSpace.Matches w)
    (hc : ¬cmpImmT2Pattern.Matches w) : TakesWideBranch w := by
  intro v hv
  have ho : ∀ q ∈ [cmpImmT2Pattern], ¬q.Matches w := by simpa using hc
  have hb : (branchForm _ _).Matches w := hw.meet (matches_bit 14) |>.meet <| matches_bit 12
  unfold wideBranch at hv
  split at hv <;> rename_i b14 b12 <;> rw [b14, b12] at hb
  case h_1 => cases hv; exact DecodeRule.decode_of_mem branchRules_hold (by simp [branchRules]) hb ho
  case h_2 => cases hv; exact DecodeRule.decode_of_mem branchRules_hold (by simp [branchRules]) hb ho
  case h_3 =>
    split at hv
    case isTrue => simp at hv
    case isFalse hn => cases hv; exact decode_bT3 hb hn ho
  case h_4 => simp at hv

-- The words of the branch space that `cmp_imm_T2` captures.
theorem decode_cmpImmT2 (hw : branchSpace.Matches w) (hc : cmpImmT2Pattern.Matches w) :
    (decode w).map Opcode.variant = some .cmpImmT2 := by
  have ho : ∀ q ∈ ([] : List (Pattern 32)), ¬q.Matches w := by simp
  exact DecodeRule.decode_of_mem branchRules_hold (by simp [branchRules]) (hw.meet hc) ho

theorem cmpImmT2_cond (hc : cmpImmT2Pattern.Matches w) : w.getLsbD 25 = false := by
  have h := congrArg (·.getLsbD 25) hc
  simpa [cmpImmT2Pattern] using h

-- A word of the branch space takes its branch unless it has the form of `cmp_imm_T2`, except that
-- no branch is expected with bit 14 set and bit 12 clear.
theorem takesWideBranch_iff (hw : branchSpace.Matches w) :
    TakesWideBranch w ↔
    ¬cmpImmT2Pattern.Matches w ∨ (w.getLsbD 14 = true ∧ w.getLsbD 12 = false) where
  mp h := by
    by_contra hn
    simp only [not_or, not_not, not_and, Bool.not_eq_false] at hn
    have ⟨hc, h12⟩ := hn
    have hd := decode_cmpImmT2 hw hc
    have h25 := cmpImmT2_cond hc
    cases b14 : w.getLsbD 14 <;> cases b12 : w.getLsbD 12
    case true.false => exact absurd (h12 b14) (by rw [b12]; decide)
    case true.true =>
      have := h .blT1 (by rw [wideBranch, b14, b12])
      simp [hd] at this
    case false.true =>
      have := h .bT4 (by rw [wideBranch, b14, b12])
      simp [hd] at this
    case false.false =>
      have := h .bT3 (by rw [wideBranch, b14, b12, h25]; rfl)
      simp [hd] at this
  mpr h := by
    cases h
    case inl hc => exact takesWideBranch_of_not_cmpImmT2 hw hc
    case inr hb => intro v hv; rw [wideBranch, hb.left, hb.right] at hv; simp at hv

theorem takesWideBranch_iff_bl :
    TakesWideBranch 0xf000d000 ↔ ¬cmpImmT2Pattern.Matches 0xf000d000 ∨
      ((0xf000d000 : Word).getLsbD 14 = true ∧ (0xf000d000 : Word).getLsbD 12 = false) :=
  takesWideBranch_iff (by decide)

theorem not_forall_takesWideBranch : ¬∀ w, branchSpace.Matches w → TakesWideBranch w := by
  intro h
  have hd := h 0xf1b0df00 (by decide) .blT1 (by decide)
  rw [decode_cmpImmT2 (by decide) (by decide)] at hd
  cases hd
