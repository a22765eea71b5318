import Mathlib.Data.List.Basic

-- Trees in which every element of a collection is found by tests of criteria.
inductive DecisionTree (κ α : Type)
  | leaf (elements : List α)
  | node (criterion : κ) (ifTree elseTree : DecisionTree κ α)
deriving DecidableEq

namespace DecisionTree

variable {κ α : Type} {side : κ → α → Option Bool} {test : κ → Bool} {t : DecisionTree κ α} {a : α}

def leaves : DecisionTree κ α → List (List α)
  | leaf elements => [elements]
  | node _ t e    => t.leaves ++ e.leaves

def elements (t : DecisionTree κ α) : List α :=
  t.leaves.flatten

-- The leaf that is reached.
def walk (test : κ → Bool) : DecisionTree κ α → List α
  | leaf elements => elements
  | node c t e    => if test c then t.walk test else e.walk test

-- All criteria above an element decide for the side that it is on. A criterion does not have to
-- decide for the other elements.
def Sorted (side : κ → α → Option Bool) : DecisionTree κ α → Prop
  | leaf _     => True
  | node c t e =>
    (∀ a ∈ t.elements, side c a = some true) ∧ (∀ a ∈ e.elements, side c a = some false) ∧
    t.Sorted side ∧ e.Sorted side

theorem elements_leaf (l : List α) : (leaf l : DecisionTree κ α).elements = l :=
  List.flatten_singleton ..

theorem elements_node (c : κ) (t e : DecisionTree κ α) :
    (node c t e).elements = t.elements ++ e.elements :=
  List.flatten_append ..

-- Tests that are decided as for an element lead to it.
theorem Sorted.mem_walk (hs : t.Sorted side) (ha : a ∈ t.elements)
    (h : ∀ c b, side c a = some b → test c = b) : a ∈ t.walk test := by
  induction t
  case leaf l => rwa [elements_leaf] at ha
  case node c t e ht he =>
    obtain ⟨hit, hel, hst, hse⟩ := hs
    rw [elements_node] at ha
    cases List.mem_append.mp ha
    case inl ha =>
      rw [walk, if_pos <| h c true <| hit a ha]
      exact ht hst ha
    case inr ha =>
      rw [walk, if_neg <| Bool.eq_false_iff.mp <| h c false <| hel a ha]
      exact he hse ha

theorem countP_leaves_of_notMem [DecidableEq α] (h : a ∉ t.elements) :
    t.leaves.countP (·.contains a) = 0 := by
  refine List.countP_eq_zero.mpr fun l hl ha => h ?_
  exact List.mem_flatten_of_mem hl <| List.contains_iff_mem.mp ha

-- There is no element in more than one leaf.
theorem Sorted.countP_leaves [DecidableEq α] (hs : t.Sorted side) (ha : a ∈ t.elements) :
    t.leaves.countP (·.contains a) = 1 := by
  induction t
  case leaf l =>
    rw [elements_leaf] at ha
    rw [leaves, List.countP_singleton, if_pos <| List.contains_iff_mem.mpr ha]
  case node c t e ht he =>
    obtain ⟨hit, hel, hst, hse⟩ := hs
    rw [elements_node] at ha
    rw [leaves, List.countP_append]
    cases List.mem_append.mp ha
    case inl ha =>
      have hn : a ∉ e.elements := fun hm => nomatch (hit a ha).symm.trans (hel a hm)
      rw [ht hst ha, countP_leaves_of_notMem hn]
    case inr ha =>
      have hn : a ∉ t.elements := fun hm => nomatch (hit a hm).symm.trans (hel a ha)
      rw [he hse ha, countP_leaves_of_notMem hn]

end DecisionTree
