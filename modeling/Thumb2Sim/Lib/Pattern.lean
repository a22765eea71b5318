import Mathlib.Data.BitVec
import Mathlib.Data.List.Basic

-- A pattern fixes the bits of a word that its mask selects.
structure Pattern (w : Nat) where
  mask : BitVec w
  cmp  : BitVec w
deriving DecidableEq

namespace Pattern

variable {w : Nat} {p q : Pattern w} {x y : BitVec w}

def Matches (p : Pattern w) (x : BitVec w) : Prop :=
  x &&& p.mask = p.cmp

instance : Decidable (p.Matches x) :=
  inferInstanceAs <| Decidable (_ = _)

-- The patterns fix a common bit to different values.
def disjoint (p q : Pattern w) : Bool :=
  p.mask &&& q.mask &&& (p.cmp ^^^ q.cmp) != 0

-- Every bit that `q` fixes is fixed to the same value by `p`.
def implies (p q : Pattern w) : Bool :=
  p.mask &&& q.mask == q.mask && p.cmp &&& q.mask == q.cmp

theorem Matches.of_implies (h : p.implies q) (hx : p.Matches x) : q.Matches x := by
  simp only [implies, Bool.and_eq_true, beq_iff_eq] at h
  rw [Matches, ← h.left, ← BitVec.and_assoc, hx, h.right]

theorem not_matches_of_implies (h : p.implies q) (hx : ¬q.Matches x) : ¬p.Matches x :=
  fun hp => hx <| hp.of_implies h

theorem Matches.not_of_disjoint (h : p.disjoint q) (hx : p.Matches x) : ¬q.Matches x := by
  intro hy
  simp only [disjoint, bne_iff_ne, ne_eq] at h
  apply h
  rw [← hx, ← hy]
  ext i hi
  simp
  grind

-- The words that match both patterns.
def meet (p q : Pattern w) : Pattern w where
  mask := p.mask ||| q.mask
  cmp  := p.cmp ||| q.cmp

def bit (i : Nat) (b : Bool) : Pattern w where
  mask := BitVec.twoPow w i
  cmp  := if b then BitVec.twoPow w i else 0

theorem Matches.meet (hp : p.Matches x) (hq : q.Matches x) : (p.meet q).Matches x := by
  rw [Matches, Pattern.meet, BitVec.and_or_distrib_left, hp, hq]

theorem matches_bit (i : Nat) : (bit i (x.getLsbD i)).Matches x := by
  simp [Matches, bit, BitVec.and_twoPow]

-- A pattern only looks at the bits that its mask selects.
theorem matches_congr (h : x &&& p.mask = y &&& p.mask) : p.Matches x ↔ p.Matches y := by
  rw [Matches, Matches, h]

-- A list of alternatives with a pattern each, the first of which that matches a word is taken.
section FirstMatch

variable {α : Type} (pattern : α → Pattern w)

def firstMatch (l : List α) (x : BitVec w) : Option α :=
  l.find? fun a => (pattern a).Matches x

variable {pattern} {l l' : List α} {a : α}

theorem firstMatch_some (h : firstMatch pattern l x = some a) : a ∈ l ∧ (pattern a).Matches x :=
  ⟨List.mem_of_find?_eq_some h, by simpa using List.find?_some h⟩

-- Words on which all alternatives agree are matched alike.
theorem firstMatch_congr (h : ∀ a ∈ l, (pattern a).Matches x ↔ (pattern a).Matches y) :
    firstMatch pattern l x = firstMatch pattern l y := by
  induction l
  case nil => rfl
  case cons a l hi =>
    rw [List.forall_mem_cons] at h
    simp only [firstMatch, List.find?_cons, h.left]
    split
    case h_1 => rfl
    case h_2 => exact hi h.right

-- The alternative that is taken for all words that match `p` but none of the patterns `others`, if
-- the patterns alone tell which one that is.
def firstMatchOf (pattern : α → Pattern w) (p : Pattern w) (others : List (Pattern w)) :
    List α → Option α
  | []     => none
  | a :: l =>
    if p.disjoint (pattern a) || others.contains (pattern a) then
      firstMatchOf pattern p others l
    else if p.implies (pattern a) then
      some a
    else
      none

theorem firstMatch_eq_firstMatchOf {others : List (Pattern w)}
    (h : firstMatchOf pattern p others l = some a) (hp : p.Matches x)
    (ho : ∀ q ∈ others, ¬q.Matches x) : firstMatch pattern l x = some a := by
  induction l
  case nil => simp [firstMatchOf] at h
  case cons b l hi =>
    simp only [firstMatchOf, Bool.or_eq_true, List.contains_iff_mem] at h
    split at h
    case isTrue hb =>
      have hn : ¬(pattern b).Matches x := by
        cases hb
        case inl hd => exact hp.not_of_disjoint hd
        case inr hm => exact ho _ hm
      simp only [firstMatch, List.find?_cons, hn, decide_false]
      exact hi h
    case isFalse =>
      simp only [Option.ite_none_right_eq_some, Option.some.injEq] at h
      simp [firstMatch, ← h.right, hp.of_implies h.left]

end FirstMatch

end Pattern
