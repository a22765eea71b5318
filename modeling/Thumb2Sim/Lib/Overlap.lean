import Thumb2Sim.Lib.Pattern

-- How the words of several patterns overlap. A pattern matches its own value unless the value has
-- bits outside of the mask.
namespace Pattern

variable {w : Nat} {p q : Pattern w} {x : BitVec w}

theorem matches_iff_getLsbD :
    p.Matches x ↔ ∀ i, (x.getLsbD i && p.mask.getLsbD i) = p.cmp.getLsbD i := by
  simp only [← BitVec.getLsbD_and]
  constructor
  case mp  => exact fun h i => congrArg (·.getLsbD i) h
  case mpr => exact fun h => BitVec.eq_of_getLsbD_eq fun i _ => h i

theorem implies_iff_forall (hp : p.Matches p.cmp) :
    p.implies q ↔ ∀ x, p.Matches x → q.Matches x := by
  constructor
  case mp => exact fun h _ hx => hx.of_implies h
  case mpr =>
    intro h
    -- The words with no bit and with all bits set that `p` does not fix.
    have hc := h _ hp
    have hm := h (p.cmp ||| ~~~p.mask) <| by
      rw [matches_iff_getLsbD] at hp ⊢
      intro i
      rw [← hp i, BitVec.getLsbD_or, BitVec.getLsbD_not]
      grind
    simp only [implies, Bool.and_eq_true, beq_iff_eq]
    refine ⟨?_, hc⟩
    rw [matches_iff_getLsbD] at hp hc hm
    ext i hi
    specialize hp i
    specialize hc i
    specialize hm i
    rw [BitVec.getLsbD_or, BitVec.getLsbD_not] at hm
    rw [BitVec.getElem_and, ← BitVec.getLsbD_eq_getElem, ← BitVec.getLsbD_eq_getElem]
    grind

-- The patterns fix no common bit to different values. The kernel computes this with numbers, which
-- is fast enough to compare all patterns of a large table.
def overlaps (p q : Pattern w) : Bool :=
  Nat.beq (Nat.land (Nat.land p.mask.toNat q.mask.toNat) (Nat.xor p.cmp.toNat q.cmp.toNat)) 0

theorem overlaps_eq : p.overlaps q = !p.disjoint q := by
  rw [Bool.eq_iff_iff, overlaps, Nat.beq_eq, disjoint, Bool.not_eq_true', bne_eq_false_iff_eq,
    ← BitVec.toNat_inj]
  rfl

section FirstMatch

variable {α : Type} {pattern : α → Pattern w} {l : List α} {a b : α}

-- No alternative comes before another one with a more special pattern.
def SpecificFirst (pattern : α → Pattern w) (l : List α) : Prop :=
  l.Pairwise fun a b => (pattern b).implies (pattern a) → (pattern a).implies (pattern b)

theorem SpecificFirst.firstMatch_ne (h : SpecificFirst pattern l) (hb : b ∈ l)
    (hba : (pattern b).implies (pattern a)) (hab : ¬(pattern a).implies (pattern b))
    (hx : (pattern b).Matches x) : firstMatch pattern l x ≠ some a := by
  intro hf
  have ⟨_, before, after, hl, hn⟩ := List.find?_eq_some_iff_append.mp hf
  rw [SpecificFirst, hl, List.pairwise_append, List.pairwise_cons] at h
  rw [hl, List.mem_append, List.mem_cons] at hb
  match hb with
  | .inl hb        => simpa [hx] using hn b hb
  | .inr (.inl hb) => exact hab (hb ▸ hba)
  | .inr (.inr hb) => exact hab <| h.right.left.left b hb hba

end FirstMatch

-- A word that matches `p` but none of the other patterns. For each of these a bit is looked for that
-- `p` does not fix yet.
def avoid (p : Pattern w) : List (Pattern w) → Option (BitVec w)
  | []     => some p.cmp
  | q :: l =>
    if p.disjoint q then
      avoid p l
    else
      (List.range w).findSome? fun i =>
        if q.mask.getLsbD i && !p.mask.getLsbD i then
          avoid (p.meet <| bit i !q.cmp.getLsbD i) l
        else
          none

theorem bit_mask_getLsbD {i j : Nat} {b : Bool} (hi : i < w) :
    (bit i b : Pattern w).mask.getLsbD j = decide (j = i) := by
  simp [bit, BitVec.getLsbD_twoPow, hi, eq_comm]

theorem bit_cmp_getLsbD {i j : Nat} {b : Bool} (hi : i < w) :
    (bit i b : Pattern w).cmp.getLsbD j = (decide (j = i) && b) := by
  cases b
  case false => simp [bit]
  case true  => simp [bit, BitVec.getLsbD_twoPow, hi, eq_comm]

-- Fixing a bit that `p` leaves open restricts the words of `p`.
theorem meet_bit_matches_iff {i : Nat} {b : Bool} (hi : i < w) (hp : p.Matches p.cmp)
    (hm : p.mask.getLsbD i = false) :
    (p.meet <| bit i b).Matches x ↔ p.Matches x ∧ x.getLsbD i = b := by
  simp only [matches_iff_getLsbD, meet, BitVec.getLsbD_or, bit_mask_getLsbD hi,
    bit_cmp_getLsbD hi] at hp ⊢
  have hc : p.cmp.getLsbD i = false := by simpa [hm] using (hp i).symm
  constructor
  case mp =>
    intro h
    have hb := h i
    simp only [hm, hc, decide_true, Bool.or_true, Bool.and_true, Bool.true_and, Bool.false_or] at hb
    refine ⟨fun j => ?_, hb⟩
    by_cases hj : j = i
    case pos => simp [hj, hm, hc]
    case neg => simpa [hj] using h j
  case mpr =>
    rintro ⟨h, hb⟩ j
    by_cases hj : j = i
    case pos => simp [hj, hc, hb]
    case neg => simpa [hj] using h j

theorem meet_bit_matches_cmp {i : Nat} {b : Bool} (hi : i < w) (hp : p.Matches p.cmp) :
    (p.meet <| bit i b).Matches (p.meet <| bit i b).cmp := by
  simp only [matches_iff_getLsbD, meet, BitVec.getLsbD_or, bit_mask_getLsbD hi,
    bit_cmp_getLsbD hi] at hp ⊢
  intro j
  specialize hp j
  by_cases hj : j = i
  case pos => simp [hj]
  case neg => simpa [hj] using hp

theorem avoid_some {l : List (Pattern w)} (hp : p.Matches p.cmp) (h : avoid p l = some x) :
    p.Matches x ∧ ∀ q ∈ l, ¬q.Matches x := by
  induction l generalizing p
  case nil =>
    cases h
    exact ⟨hp, by simp⟩
  case cons q l hi =>
    rw [avoid] at h
    split at h
    case isTrue hd =>
      have ⟨hx, hl⟩ := hi hp h
      exact ⟨hx, List.forall_mem_cons.mpr ⟨hx.not_of_disjoint hd, hl⟩⟩
    case isFalse =>
      have ⟨i, _, h⟩ := List.exists_of_findSome?_eq_some h
      split at h
      case isFalse => cases h
      case isTrue hm =>
        simp only [Bool.and_eq_true, Bool.not_eq_true'] at hm
        have hlt := BitVec.lt_of_getLsbD hm.left
        have ⟨hx, hl⟩ := hi (meet_bit_matches_cmp hlt hp) h
        have ⟨hx, hb⟩ := meet_bit_matches_iff hlt hp hm.right |>.mp hx
        refine ⟨hx, List.forall_mem_cons.mpr ⟨fun hq => ?_, hl⟩⟩
        have hq := matches_iff_getLsbD.mp hq i
        simp [hm.left, hb] at hq

-- Every pattern of the list has a word that no earlier pattern matches, or it is the same as the
-- pattern before it. The earlier patterns are in `before`, the last one first.
def allReached (before : List (Pattern w)) : List (Pattern w) → Bool
  | []     => true
  | p :: l =>
    ((p.avoid <| before.filter p.overlaps).isSome || before.head? == some p) &&
      allReached (p :: before) l

section AllReached

variable {before l r : List (Pattern w)}

theorem allReached_append :
    allReached before (l ++ r) ↔ allReached before l ∧ allReached (l.reverse ++ before) r := by
  induction l generalizing before
  case nil => simp [allReached]
  case cons p l hi =>
    rw [List.cons_append, allReached, Bool.and_eq_true, hi, allReached, Bool.and_eq_true, and_assoc,
      List.reverse_cons, List.append_assoc, List.singleton_append]

theorem exists_of_avoid (hp : p.Matches p.cmp)
    (h : (p.avoid <| before.filter p.overlaps).isSome) :
    ∃ x, p.Matches x ∧ ∀ q ∈ before, ¬q.Matches x := by
  have ⟨x, hx⟩ := Option.isSome_iff_exists.mp h
  have ⟨hm, hn⟩ := avoid_some hp hx
  refine ⟨x, hm, fun q hq => ?_⟩
  by_cases hd : p.disjoint q
  case pos => exact hm.not_of_disjoint hd
  case neg => exact hn q <| List.mem_filter.mpr ⟨hq, by simpa [overlaps_eq] using hd⟩

theorem exists_of_allReached (hp : p.Matches p.cmp) (h : allReached before (l ++ p :: r))
    (hb : p ∉ before) (hl : p ∉ l) :
    ∃ x, p.Matches x ∧ (∀ q ∈ before, ¬q.Matches x) ∧ ∀ q ∈ l, ¬q.Matches x := by
  induction l generalizing before
  case nil =>
    have hn : before.head? ≠ some p := fun hh => hb <| List.mem_of_mem_head? hh
    simp only [List.nil_append, allReached, Bool.and_eq_true, Bool.or_eq_true, beq_iff_eq, hn,
      or_false] at h
    have ⟨x, hx, hx'⟩ := exists_of_avoid hp h.left
    exact ⟨x, hx, hx', by simp⟩
  case cons q l hi =>
    rw [List.mem_cons, not_or] at hl
    rw [List.cons_append, allReached, Bool.and_eq_true] at h
    have ⟨x, hx, hn, hr⟩ := hi h.right (by simp [hl.left, hb]) hl.right
    rw [List.forall_mem_cons] at hn
    exact ⟨x, hx, hn.right, List.forall_mem_cons.mpr ⟨hn.left, hr⟩⟩

-- A pattern that some word reaches is not more special than an earlier one.
theorem SpecificFirst.of_allReached (hl : ∀ p ∈ l, p.Matches p.cmp) (h : allReached before l)
    (hb : SpecificFirst id before.reverse) : SpecificFirst id (before.reverse ++ l) := by
  induction l generalizing before
  case nil => simpa using hb
  case cons p l hi =>
    rw [List.forall_mem_cons] at hl
    simp only [allReached, Bool.and_eq_true, Bool.or_eq_true, beq_iff_eq] at h
    have hs : SpecificFirst id (p :: before).reverse := by
      rw [SpecificFirst, List.pairwise_reverse] at hb ⊢
      refine List.pairwise_cons.mpr ⟨fun a ha hpa => ?_, hb⟩
      cases h.left
      case inl hx =>
        have ⟨x, hx, hn⟩ := exists_of_avoid hl.left hx
        exact absurd (hx.of_implies hpa) (hn a ha)
      case inr hh =>
        have ⟨t, ht⟩ := List.head?_eq_some_iff.mp hh
        rw [ht, List.pairwise_cons] at hb
        rw [ht] at ha
        cases ha
        case head    => exact hpa
        case tail ha => exact hb.left a ha hpa
    simpa using hi hl.right h.right hs

end AllReached

end Pattern
