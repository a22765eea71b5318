import Mathlib.Data.Nat.BitIndices
import Mathlib.Algebra.Order.Field.Rat
import Thumb2Sim.Codegen.Partitioner

namespace Partitioner

variable {ι F : Type} [LinearOrder F] [NatCast F] {div : Nat → Nat → F} {s : PartitionableSet ι}
  {p : Partition ι} {e : PartitionElement ι} {t : DecisionTree Nat (PartitionElement ι)}
  {common mask : Nat}

theorem sublist_of_mem_combinations {α : Type} {i : Nat} {l values : List α}
    (h : l ∈ combinations i values) : l.Sublist values := by
  induction values generalizing i l
  case nil =>
    cases i
    case zero => exact List.mem_singleton.mp h ▸ .slnil
    case succ => cases h
  case cons a values hi =>
    cases i
    case zero => exact List.mem_singleton.mp h ▸ List.nil_sublist _
    case succ i =>
      cases List.mem_append.mp h
      case inl h =>
        obtain ⟨l, hl, rfl⟩ := List.mem_map.mp h
        exact (hi hl).cons_cons a
      case inr h => exact (hi h).cons a

namespace PartitionableSet

-- The places of the bits of a number are those of its half moved by one, and perhaps the lowest one.

theorem bitIndices_of_odd {value : Nat} (h : value &&& 1 ≠ 0) :
    value.bitIndices = 0 :: (value >>> 1).bitIndices.map (· + 1) := by
  have hv : 2 * (value >>> 1) + 1 = value := by
    rw [Nat.and_one_is_mod] at h
    rw [Nat.shiftRight_eq_div_pow]
    omega
  rw [← Nat.bitIndices_two_mul_add_one, hv]

theorem bitIndices_of_even {value : Nat} (h : ¬value &&& 1 ≠ 0) :
    value.bitIndices = (value >>> 1).bitIndices.map (· + 1) := by
  have hv : 2 * (value >>> 1) = value := by
    rw [Nat.and_one_is_mod] at h
    rw [Nat.shiftRight_eq_div_pow]
    omega
  rw [← Nat.bitIndices_two_mul, hv]

theorem map_two_pow_succ (l : List Nat) (bitno : Nat) :
    l.map (fun i => 2 ^ (i + (bitno + 1))) = (l.map (· + 1)).map fun i => 2 ^ (i + bitno) := by
  rw [List.map_map]
  exact List.map_congr_left fun i _ => congrArg (2 ^ ·) (Nat.add_right_comm i bitno 1)

theorem iterbits_eq (value bitno : Nat) :
    iterbits value bitno = value.bitIndices.map fun i => 2 ^ (i + bitno) := by
  induction value, bitno using iterbits.induct
  case case1 value bitno h₀ h₁ hi =>
    rw [iterbits, if_pos h₀, if_pos h₁, hi, bitIndices_of_odd h₁, List.map_cons, Nat.zero_add,
      Nat.one_shiftLeft, map_two_pow_succ]
  case case2 value bitno h₀ h₁ hi =>
    rw [iterbits, if_pos h₀, if_neg h₁, hi, bitIndices_of_even h₁, map_two_pow_succ]
  case case3 value bitno h₀ =>
    rw [iterbits, if_neg h₀, Nat.eq_zero_of_not_pos h₀]
    rfl

-- A sum of some of the bits of a number has no other bits.
theorem testBit_of_sublist {l : List Nat} {value i : Nat} (h : l.Sublist (iterbits value 0))
    (hi : l.sum.testBit i) : value.testBit i := by
  rw [iterbits_eq] at h
  obtain ⟨places, hp, rfl⟩ := List.sublist_map_iff.mp h
  have hs : places.SortedLT := (Nat.bitIndices_sorted.pairwise.sublist hp).sortedLT
  have hb := Nat.bitIndices_sum_map_two_pow hs
  have hm : i ∈ places := hb ▸ Nat.mem_bitIndices.mpr hi
  exact Nat.mem_bitIndices.mp <| hp.subset hm

theorem testBit_foldl {i : Nat} : ∀ {s : PartitionableSet ι} {mask : Nat},
    (s.foldl (fun mask element => mask &&& element.bitmask) mask).testBit i →
    mask.testBit i ∧ ∀ e ∈ s, e.bitmask.testBit i := by
  intro s
  induction s
  case nil => exact fun h => ⟨h, nofun⟩
  case cons e s hi =>
    intro mask h
    have ⟨hm, hs⟩ := hi h
    rw [Nat.testBit_and, Bool.and_eq_true] at hm
    exact ⟨hm.left, List.forall_mem_cons.mpr ⟨hm.right, hs⟩⟩

theorem testBit_commonmask {i : Nat} (h : commonmask s = .ok common) (hi : common.testBit i)
    (he : e ∈ s) : e.bitmask.testBit i := by
  cases s
  case nil => cases h
  case cons => cases h; exact (testBit_foldl hi).right e he

-- The criterion of a partition only has bits that are fixed in all elements.
theorem criterion_and (h : partition s div = .ok (some p)) (he : e ∈ s) :
    p.criterion &&& e.bitmask = p.criterion := by
  obtain ⟨common, hc, hm, -, -⟩ := partition_some h
  obtain ⟨l, hl, hs⟩ := List.mem_map.mp hm
  obtain ⟨n, -, hl⟩ := List.mem_flatMap.mp hl
  apply Nat.eq_of_testBit_eq
  intro i
  rw [Nat.testBit_and, Bool.and_eq_left_iff_imp, ← hs]
  intro hi
  exact testBit_commonmask hc (testBit_of_sublist (sublist_of_mem_combinations hl) hi) he

end PartitionableSet

-- The side of an element, if the criterion only has bits that are fixed in it.
def side (criterion : Nat) (e : PartitionElement ι) : Option Bool :=
  if criterion &&& e.bitmask = criterion then some (e.bitvalue &&& criterion = 0) else none

-- A word of the element is on the same side.
theorem and_criterion_of_side {w : Nat} {b : Bool} (hw : w &&& e.bitmask = e.bitvalue)
    (h : side mask e = some b) : decide (w &&& mask = 0) = b := by
  unfold side at h
  split at h
  case isFalse => cases h
  case isTrue hm =>
    have hv : e.bitvalue &&& mask = w &&& mask := by
      rw [← hw, Nat.and_assoc, Nat.and_comm e.bitmask, hm]
    rw [← hv]
    exact Option.some.inj h

-- What a tree of some elements is to be.
structure IsTree (s : PartitionableSet ι) (t : DecisionTree Nat (PartitionElement ι)) : Prop where
  perm   : t.elements.Perm s
  sorted : t.Sorted side

theorem isTree_leaf : IsTree s (.leaf s) where
  perm   := .of_eq <| DecisionTree.elements_leaf s
  sorted := trivial

theorem isTree_node {ifTree elseTree : DecisionTree Nat (PartitionElement ι)}
    (h : PartitionableSet.partition s div = .ok (some p)) (hi : IsTree p.ifSet ifTree)
    (he : IsTree p.elseSet elseTree) : IsTree s (.node p.criterion ifTree elseTree) := by
  obtain ⟨_, -, -, -, hd⟩ := PartitionableSet.partition_some h
  obtain ⟨hif, helse⟩ := Prod.mk.inj hd
  have hs (a) (ha : a ∈ s) : side p.criterion a = some (decide (a.bitvalue &&& p.criterion = 0)) :=
    if_pos <| PartitionableSet.criterion_and h ha
  have hp := PartitionableSet.discriminate_perm s p.criterion
  refine ⟨?_, fun a ha => ?_, fun a ha => ?_, hi.sorted, he.sorted⟩
  case refine_1 =>
    rw [DecisionTree.elements_node]
    exact (hi.perm.append he.perm).trans <| hif ▸ helse ▸ hp
  case refine_2 =>
    have hm : a ∈ s.filter _ := hif ▸ hi.perm.mem_iff.mp ha
    have ⟨hm, hv⟩ := List.mem_filter.mp hm
    rw [hs a hm, hv]
  case refine_3 =>
    have hm : a ∈ s.filter _ := helse ▸ he.perm.mem_iff.mp ha
    have ⟨hm, hv⟩ := List.mem_filter.mp hm
    rw [hs a hm, decide_eq_false <| of_decide_eq_true hv]

-- The ways in which a set may be left or split.

theorem subpartition_of_le (h : s.length ≤ 4) : subpartition div s = .ok (.leaf s) := by
  rw [subpartition, if_neg <| Nat.not_lt_of_le h]
  rfl

theorem subpartition_of_none (hl : 4 < s.length)
    (h : PartitionableSet.partition s div = .ok none) : subpartition div s = .ok (.leaf s) := by
  rw [subpartition, if_pos hl]
  split
  case h_2 => rfl
  all_goals rename_i h'; cases h.symm.trans h'

theorem subpartition_of_error {x : PartitionException} (hl : 4 < s.length)
    (h : PartitionableSet.partition s div = .error x) : subpartition div s = .error x := by
  rw [subpartition, if_pos hl]
  split
  case h_1 h' => cases h.symm.trans h'; rfl
  all_goals rename_i h'; cases h.symm.trans h'

theorem subpartition_of_some (hl : 4 < s.length)
    (h : PartitionableSet.partition s div = .ok (some p)) :
    subpartition div s = p.partition div := by
  rw [subpartition, if_pos hl]
  split
  case h_3 h' => cases h.symm.trans h'; rfl
  all_goals rename_i h'; cases h.symm.trans h'

theorem Partition.partition_ok_iff : p.partition div = .ok t ↔
    ∃ ifTree elseTree, subpartition div p.ifSet = .ok ifTree ∧
      subpartition div p.elseSet = .ok elseTree ∧ t = .node p.criterion ifTree elseTree := by
  unfold Partition.partition
  cases subpartition div p.ifSet <;> cases subpartition div p.elseSet <;>
    simp [bind, Except.bind, pure, Except.pure, eq_comm]

theorem isTree_subpartition (h : subpartition div s = .ok t) : IsTree s t := by
  induction hn : s.length using Nat.strong_induction_on generalizing s t
  case h n hi =>
    subst hn
    by_cases hl : s.length ≤ 4
    case pos =>
      cases (subpartition_of_le hl).symm.trans h
      exact isTree_leaf
    case neg =>
      have hl := Nat.lt_of_not_le hl
      cases hp : PartitionableSet.partition s div
      case error x => cases (subpartition_of_error hl hp).symm.trans h
      case ok subpart =>
        cases subpart
        case none =>
          cases (subpartition_of_none hl hp).symm.trans h
          exact isTree_leaf
        case some p =>
          rw [subpartition_of_some hl hp, Partition.partition_ok_iff] at h
          obtain ⟨ifTree, elseTree, hif, helse, rfl⟩ := h
          have ⟨hil, hel⟩ := PartitionableSet.partition_length_lt hp
          exact isTree_node hp (hi _ hil hif rfl) (hi _ hel helse rfl)

theorem partition_of_some (h : PartitionableSet.partition s div = .ok (some p)) :
    partition div s = p.partition div := by
  unfold partition
  rw [h]
  rfl

theorem isTree_partition (h : partition div s = .ok t) : IsTree s t := by
  cases hp : PartitionableSet.partition s div
  case error => unfold partition at h; rw [hp] at h; cases h
  case ok rootPartition =>
    cases rootPartition
    case none => unfold partition at h; rw [hp] at h; cases h
    case some p =>
      rw [partition_of_some hp] at h
      obtain ⟨ifTree, elseTree, hif, helse, rfl⟩ := Partition.partition_ok_iff.mp h
      exact isTree_node hp (isTree_subpartition hif) (isTree_subpartition helse)

-- Every element is in exactly one leaf, and all of its words lead to this leaf.
theorem partition_findable [DecidableEq ι] (h : partition div s = .ok t) : t.elements.Perm s ∧
    ∀ e ∈ s, t.leaves.countP (·.contains e) = 1 ∧
      ∀ w, w &&& e.bitmask = e.bitvalue → e ∈ t.walk fun criterion => w &&& criterion = 0 := by
  have ht := isTree_partition h
  refine ⟨ht.perm, fun e he => ?_⟩
  have hm := ht.perm.mem_iff.mpr he
  exact ⟨ht.sorted.countP_leaves hm, fun w hw => ht.sorted.mem_walk hm fun _ _ hs =>
    and_criterion_of_side hw hs⟩

-- Some of the narrow encodings, with rational numbers as the quotients.

def narrowElements : PartitionableSet String := [
  ⟨"lsl_imm_T1", 0xf800, 0x0000⟩, ⟨"lsr_imm_T1", 0xf800, 0x0800⟩, ⟨"asr_imm_T1", 0xf800, 0x1000⟩,
  ⟨"mov_imm_T1", 0xf800, 0x2000⟩, ⟨"cmp_imm_T1", 0xf800, 0x2800⟩, ⟨"add_imm_T2", 0xf800, 0x3000⟩,
  ⟨"sub_imm_T2", 0xf800, 0x3800⟩, ⟨"ldr_lit_T1", 0xf800, 0x4800⟩, ⟨"b_T2", 0xf800, 0xe000⟩
]

def rational (a b : Nat) : ℚ :=
  a / b

theorem partition_findable_narrowElements : ∃ t, partition rational narrowElements = .ok t ∧
    t.elements.Perm narrowElements ∧
    ∀ e ∈ narrowElements, t.leaves.countP (·.contains e) = 1 ∧
      ∀ w, w &&& e.bitmask = e.bitvalue → e ∈ t.walk fun criterion => w &&& criterion = 0 := by
  let split (s : PartitionableSet String) (mask : Nat) : Partition String :=
    ⟨mask, (s.discriminate mask).1, (s.discriminate mask).2⟩
  let root := split narrowElements 0x800
  let sub  := split root.ifSet 0x1000
  have hr : PartitionableSet.partition narrowElements rational = .ok (some root) := by
    decide +kernel
  have hs : PartitionableSet.partition root.ifSet rational = .ok (some sub) := by decide +kernel
  have hst : sub.partition rational = _ := Partition.partition_ok_iff.mpr ⟨_, _,
    subpartition_of_le (show sub.ifSet.length ≤ 4 by decide),
    subpartition_of_le (show sub.elseSet.length ≤ 4 by decide), rfl⟩
  have hrt : root.partition rational = _ := Partition.partition_ok_iff.mpr ⟨_, _,
    (subpartition_of_some (show 4 < root.ifSet.length by decide) hs).trans hst,
    subpartition_of_le (show root.elseSet.length ≤ 4 by decide), rfl⟩
  have h := (partition_of_some hr).trans hrt
  exact ⟨_, h, partition_findable h⟩

end Partitioner
