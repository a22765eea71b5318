import Mathlib.Algebra.GroupWithZero.Nat
import Mathlib.Order.Lattice
import Thumb2Sim.Lib.DecisionTree

namespace Partitioner

structure PartitionElement (ι : Type) where
  identifier : ι
  bitmask    : Nat
  bitvalue   : Nat
deriving DecidableEq

-- What is raised for an empty set, a set without a common mask, and a set that cannot be split.
inductive PartitionException
  | indexError
  | noCommonMask
  | attributeError
deriving DecidableEq

abbrev PartitionableSet (ι : Type) :=
  List (PartitionElement ι)

structure Partition (ι : Type) where
  criterion : Nat
  ifSet     : PartitionableSet ι
  elseSet   : PartitionableSet ι
deriving DecidableEq

-- The function `itertools.combinations`.
def combinations {α : Type} : Nat → List α → List (List α)
  | 0,     _      => [[]]
  | _ + 1, []     => []
  | i + 1, a :: l => (combinations i l).map (a :: ·) ++ combinations (i + 1) l

namespace PartitionableSet

variable {ι : Type} (s : PartitionableSet ι)

def commonmask : Except PartitionException Nat :=
  match s with
  | []     => .error .indexError
  | e :: _ => .ok <| s.foldl (fun mask element => mask &&& element.bitmask) e.bitmask

-- The loop of `_iterbits`.
def iterbits (value : Nat) (bitno : Nat) : List Nat :=
  if 0 < value then
    if value &&& 1 ≠ 0 then
      1 <<< bitno :: iterbits (value >>> 1) (bitno + 1)
    else
      iterbits (value >>> 1) (bitno + 1)
  else
    []
termination_by value
decreasing_by all_goals rw [Nat.shiftRight_eq_div_pow]; omega

def discriminatorcnt (mask : Nat) : Nat :=
  (s.filter fun element => element.bitvalue &&& mask = 0).length

def discriminate (mask : Nat) : PartitionableSet ι × PartitionableSet ι :=
  (s.filter fun element => element.bitvalue &&& mask = 0,
    s.filter fun element => element.bitvalue &&& mask ≠ 0)

-- No combination has all of the values.
def allCombinations {α : Type} (values : List α) : List (List α) :=
  (List.range' 1 (values.length - 1)).flatMap fun i => combinations i values

-- The division of numbers has a result of the type `F`, which stands for the one of floats.
variable {F : Type} [LinearOrder F] [NatCast F] (div : Nat → Nat → F)

def score (discriminatorcnt remaining : Nat) : F :=
  if discriminatorcnt ≥ remaining then div discriminatorcnt remaining
  else div remaining discriminatorcnt

-- The body of the loop over the masks, with the best score and its mask so far.
def improve (best : Option (F × Nat)) (mask : Nat) : Option (F × Nat) :=
  let discriminatorcnt := discriminatorcnt s mask
  let remaining := s.length - discriminatorcnt
  if discriminatorcnt = 0 ∨ remaining = 0 then
    best
  else
    let score := score div discriminatorcnt remaining
    match best with
    | none               => some (score, mask)
    | some (minscore, _) => if score < minscore then some (score, mask) else best

-- The loop over the masks that are made of the common bits.
def minmask (common : Nat) : Option (F × Nat) :=
  ((allCombinations <| iterbits common 0).map List.sum).foldl (improve s div) none

def partition : Except PartitionException (Option (Partition ι)) := do
  let common ← commonmask s
  if common = 0 then
    .error .noCommonMask
  else
    match minmask s div common with
    | some (minscore, minmask) =>
      if minscore < (65 : Nat) then
        let (ifpart, elsepart) := discriminate s minmask
        return some { criterion := minmask, ifSet := ifpart, elseSet := elsepart }
      else
        return none
    | none => return none

variable {s : PartitionableSet ι} {div : Nat → Nat → F} {p : Partition ι} {masks : List Nat}
  {best : Option (F × Nat)} {mask : Nat}

-- There are elements on both sides of a mask.
def Splits (s : PartitionableSet ι) (mask : Nat) : Prop :=
  discriminatorcnt s mask ≠ 0 ∧ s.length - discriminatorcnt s mask ≠ 0

omit [NatCast F] in
theorem improve_cases (s : PartitionableSet ι) (div : Nat → Nat → F) (best : Option (F × Nat))
    (mask : Nat) : improve s div best mask = best ∨
      Splits s mask ∧ (improve s div best mask).map Prod.snd = some mask := by
  unfold improve Splits
  by_cases h : discriminatorcnt s mask = 0 ∨ s.length - discriminatorcnt s mask = 0
  case pos => exact .inl <| if_pos h
  case neg =>
    rw [if_neg h]
    cases best
    case none => exact .inr ⟨not_or.mp h, rfl⟩
    case some best =>
      obtain hl | hl := em <| score div (discriminatorcnt s mask)
        (s.length - discriminatorcnt s mask) < best.1
      case inl => exact .inr ⟨not_or.mp h, congrArg (Option.map Prod.snd) <| if_pos hl⟩
      case inr => exact .inl <| if_neg hl

omit [NatCast F] in
theorem foldl_improve (h : (masks.foldl (improve s div) best).map Prod.snd = some mask) :
    best.map Prod.snd = some mask ∨ mask ∈ masks ∧ Splits s mask := by
  induction masks generalizing best
  case nil => exact .inl h
  case cons m masks hi =>
    obtain hb | ⟨hm, hs⟩ := hi h
    case inr => exact .inr ⟨List.mem_cons_of_mem _ hm, hs⟩
    case inl =>
      obtain he | ⟨hs, he⟩ := improve_cases s div best m
      case inl => exact .inl <| he ▸ hb
      case inr =>
        obtain rfl : m = mask := Option.some.inj <| he.symm.trans hb
        exact .inr ⟨List.mem_cons_self, hs⟩

-- A set is split into its elements on both sides of one of the masks.
theorem partition_some (h : partition s div = .ok (some p)) : ∃ common,
    commonmask s = .ok common ∧
    p.criterion ∈ (allCombinations <| iterbits common 0).map List.sum ∧ Splits s p.criterion ∧
    (p.ifSet, p.elseSet) = discriminate s p.criterion := by
  unfold partition at h
  cases hc : commonmask s
  case error e => rw [hc] at h; cases h
  case ok common =>
    simp only [hc, bind, Except.bind] at h
    split at h
    case isTrue => cases h
    case isFalse =>
      split at h
      case h_2 => cases h
      case h_1 hm =>
        split at h <;> cases h
        obtain hn | ⟨hm, hs⟩ := foldl_improve <| congrArg (Option.map Prod.snd) hm
        case inl => cases hn
        case inr => exact ⟨common, rfl, hm, hs, rfl⟩

theorem discriminate_perm (s : PartitionableSet ι) (mask : Nat) :
    ((discriminate s mask).1 ++ (discriminate s mask).2).Perm s := by
  have hp := List.filter_append_perm (fun element => decide (element.bitvalue &&& mask = 0)) s
  simpa only [discriminate, decide_not] using hp

theorem Splits.length_lt (h : Splits s mask) : (discriminate s mask).1.length < s.length ∧
    (discriminate s mask).2.length < s.length := by
  have hl := (discriminate_perm s mask).length_eq
  have hc : (discriminate s mask).1.length = discriminatorcnt s mask := rfl
  obtain ⟨h₁, h₂⟩ := h
  rw [List.length_append] at hl
  omega

theorem partition_length_lt (h : partition s div = .ok (some p)) :
    p.ifSet.length < s.length ∧ p.elseSet.length < s.length := by
  obtain ⟨_, -, -, hs, he⟩ := partition_some h
  obtain ⟨hi, he⟩ := Prod.mk.inj he
  exact hi ▸ he ▸ hs.length_lt

end PartitionableSet

variable {ι : Type} {F : Type} [LinearOrder F] [NatCast F] (div : Nat → Nat → F)

-- What becomes of one of the two sets of a partition. If it is split, the same is done to the sets
-- of the new partition.
def subpartition (s : PartitionableSet ι) :
    Except PartitionException (DecisionTree Nat (PartitionElement ι)) :=
  if 4 < s.length then
    match h : PartitionableSet.partition s div with
    | .error e           => .error e
    | .ok none           => return .leaf s
    | .ok (some subpart) => do
      have := PartitionableSet.partition_length_lt h
      let ifTree ← subpartition subpart.ifSet
      let elseTree ← subpartition subpart.elseSet
      return .node subpart.criterion ifTree elseTree
  else
    return .leaf s
termination_by s.length

def Partition.partition (p : Partition ι) :
    Except PartitionException (DecisionTree Nat (PartitionElement ι)) := do
  let ifTree ← subpartition div p.ifSet
  let elseTree ← subpartition div p.elseSet
  return .node p.criterion ifTree elseTree

-- If the set of all elements cannot be split, there is no partition to go on with.
def partition (rootset : PartitionableSet ι) :
    Except PartitionException (DecisionTree Nat (PartitionElement ι)) := do
  match ← PartitionableSet.partition rootset div with
  | some rootPartition => rootPartition.partition div
  | none               => .error .attributeError

end Partitioner
