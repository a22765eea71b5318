import Mathlib.Data.List.Basic
import Mathlib.Data.List.TakeDrop
import Mathlib.Logic.Function.Basic
import Mathlib.Tactic.SplitIfs
import Thumb2Sim.Lib.Undefined

-- The memory of a C program as a family of separate allocations: `β` names the allocations and each
-- of them holds a list of cells, whose length never changes.
abbrev Heap (β α : Type) :=
  β → List α

@[ext]
structure Ptr (β : Type) where
  block : β
  offset : Nat
deriving DecidableEq

namespace Ptr

variable {β : Type}

def advance (p : Ptr β) (n : Nat) : Ptr β :=
  { p with offset := p.offset + n }

@[simp]
theorem advance_block (p : Ptr β) (n : Nat) : (p.advance n).block = p.block :=
  rfl

@[simp]
theorem advance_offset (p : Ptr β) (n : Nat) : (p.advance n).offset = p.offset + n :=
  rfl

theorem advance_advance (p : Ptr β) (m n : Nat) : (p.advance m).advance n = p.advance (m + n) := by
  ext1 <;> simp [Nat.add_assoc]

end Ptr

namespace Heap

variable {β α : Type} {m m' : Heap β α} {p q : Ptr β} {n : Nat} {xs : List α}

def cell (m : Heap β α) (p : Ptr β) : Option α :=
  (m p.block)[p.offset]?

-- The `n` cells from `p` on lie inside of the allocation that `p` points into.
def Valid (m : Heap β α) (p : Ptr β) (n : Nat) : Prop :=
  p.offset + n ≤ (m p.block).length

instance : Decidable (m.Valid p n) :=
  inferInstanceAs <| Decidable (_ ≤ _)

def load (m : Heap β α) (p : Ptr β) (n : Nat) : Except Undefined (List α) :=
  if m.Valid p n then .ok (((m p.block).drop p.offset).take n) else .error .access

variable [DecidableEq β]

def overwrite (m : Heap β α) (p : Ptr β) (xs : List α) : Heap β α :=
  Function.update m p.block <|
    (m p.block).take p.offset ++ xs ++ (m p.block).drop (p.offset + xs.length)

def store (m : Heap β α) (p : Ptr β) (xs : List α) : Except Undefined (Heap β α) :=
  if m.Valid p xs.length then .ok (m.overwrite p xs) else .error .access

omit [DecidableEq β] in
theorem load_eq_ok (h : m.Valid p n) : m.load p n = .ok (((m p.block).drop p.offset).take n) :=
  if_pos h

omit [DecidableEq β] in
theorem Valid.of_load (h : m.load p n = .ok xs) : m.Valid p n := by
  by_contra hn
  simp [load, hn] at h

omit [DecidableEq β] in
theorem load_length (h : m.load p n = .ok xs) : xs.length = n := by
  have hv := Valid.of_load h
  rw [load_eq_ok hv] at h
  cases h
  simp [Valid] at hv ⊢
  omega

omit [DecidableEq β] in
theorem load_getElem? (h : m.load p n = .ok xs) {i : Nat} (hi : i < n) :
    xs[i]? = m.cell (p.advance i) := by
  rw [load_eq_ok (Valid.of_load h)] at h
  cases h
  simp [cell, hi]

theorem store_eq_ok (h : m.Valid p xs.length) : m.store p xs = .ok (m.overwrite p xs) :=
  if_pos h

theorem store_ok_iff : m.store p xs = .ok m' ↔ m.Valid p xs.length ∧ m' = m.overwrite p xs := by
  unfold store
  split <;> simp [*, eq_comm]

theorem overwrite_block_length (h : m.Valid p xs.length) (b : β) :
    (m.overwrite p xs b).length = (m b).length := by
  by_cases hb : b = p.block
  case neg => simp [overwrite, hb]
  case pos =>
    subst hb
    simp [overwrite, Valid] at h ⊢
    omega

theorem overwrite_valid_iff (h : m.Valid p xs.length) :
    (m.overwrite p xs).Valid q n ↔ m.Valid q n := by
  simp [Valid, overwrite_block_length h]

-- The cells `[p, p + n)` of one allocation.
def InRange (p : Ptr β) (n : Nat) (q : Ptr β) : Prop :=
  q.block = p.block ∧ p.offset ≤ q.offset ∧ q.offset < p.offset + n

instance : Decidable (InRange p n q) :=
  inferInstanceAs <| Decidable (_ ∧ _)

theorem overwrite_cell (h : m.Valid p xs.length) (q : Ptr β) :
    (m.overwrite p xs).cell q =
      if InRange p xs.length q then xs[q.offset - p.offset]? else m.cell q := by
  by_cases hb : q.block = p.block
  case neg => simp [cell, overwrite, InRange, hb]
  case pos =>
    simp only [Valid] at h
    have hl : ((m p.block).take p.offset).length = p.offset := by simp; omega
    simp only [cell, overwrite, InRange, hb, Function.update_self, true_and, List.append_assoc]
    by_cases hlo : q.offset < p.offset
    case pos =>
      rw [List.getElem?_append_left (by omega), List.getElem?_take_of_lt hlo, if_neg (by omega)]
    case neg =>
      rw [List.getElem?_append_right (by omega), hl]
      by_cases hhi : q.offset < p.offset + xs.length
      case pos => rw [List.getElem?_append_left (by omega), if_pos (by omega)]
      case neg =>
        rw [List.getElem?_append_right (by omega), List.getElem?_drop, if_neg (by omega)]
        congr 1
        omega

theorem overwrite_cell_of_not_inRange (h : m.Valid p xs.length) (hq : ¬InRange p xs.length q) :
    (m.overwrite p xs).cell q = m.cell q := by
  rw [overwrite_cell h, if_neg hq]

omit [DecidableEq β] in
theorem ext_cell (h : ∀ p, m.cell p = m'.cell p) : m = m' := by
  funext b
  exact List.ext_getElem? fun i => h ⟨b, i⟩

theorem overwrite_nil : m.overwrite p [] = m := by
  simp [overwrite]

variable {ys zs : List α}

-- The order in which two ranges are overwritten does not matter if they have no cell in common.
theorem overwrite_comm (hx : m.Valid p xs.length) (hy : m.Valid q ys.length)
    (hd : ∀ r, InRange p xs.length r → ¬InRange q ys.length r) :
    (m.overwrite q ys).overwrite p xs = (m.overwrite p xs).overwrite q ys := by
  refine ext_cell fun r => ?_
  rw [overwrite_cell <| (overwrite_valid_iff hx).mpr hy,
    overwrite_cell <| (overwrite_valid_iff hy).mpr hx, overwrite_cell hx, overwrite_cell hy]
  by_cases hr : InRange p xs.length r
  case pos => rw [if_pos hr, if_pos hr, if_neg (hd r hr)]
  case neg => rw [if_neg hr, if_neg hr]

theorem overwrite_append (h : m.Valid p (xs.length + ys.length)) :
    m.overwrite p (xs ++ ys) = (m.overwrite p xs).overwrite (p.advance xs.length) ys := by
  have hl : (xs ++ ys).length = xs.length + ys.length := List.length_append
  have hx : m.Valid p xs.length := by simp only [Valid] at h ⊢; omega
  have hy : m.Valid (p.advance xs.length) ys.length := by simp only [Valid] at h ⊢; simp; omega
  refine ext_cell fun q => ?_
  rw [overwrite_cell (hl ▸ h), overwrite_cell <| (overwrite_valid_iff hx).mpr hy,
    overwrite_cell hx, hl]
  simp only [InRange, Ptr.advance_block, Ptr.advance_offset]
  by_cases hb : q.block = p.block
  case neg => simp [hb]
  case pos =>
    by_cases hlo : q.offset < p.offset + xs.length
    case pos =>
      have hn : ¬p.offset + xs.length ≤ q.offset := by omega
      simp only [hb, hlo, hn, true_and, and_true, false_and, if_false]
      by_cases hp : p.offset ≤ q.offset
      case neg => simp [hp]
      case pos =>
        rw [if_pos (by omega), if_pos hp, List.getElem?_append_left (by omega)]
    case neg =>
      have hn : p.offset + xs.length ≤ q.offset := by omega
      have hp : p.offset ≤ q.offset := by omega
      simp only [hb, hlo, hn, hp, true_and, and_false, if_false, Nat.add_assoc]
      rw [List.getElem?_append_right (by omega), Nat.sub_sub]

-- The other order of the two ranges.
theorem overwrite_append' (h : m.Valid p (xs.length + ys.length)) :
    m.overwrite p (xs ++ ys) = (m.overwrite (p.advance xs.length) ys).overwrite p xs := by
  have hx : m.Valid p xs.length := by simp only [Valid] at h ⊢; omega
  have hy : m.Valid (p.advance xs.length) ys.length := by simp only [Valid] at h ⊢; simp; omega
  rw [overwrite_append h, overwrite_comm hx hy]
  rintro r ⟨_, _, _⟩ ⟨_, hr, _⟩
  rw [Ptr.advance_offset] at hr
  omega

theorem load_overwrite (h : m.Valid p xs.length) : (m.overwrite p xs).load p xs.length = .ok xs := by
  have hl : ((m p.block).take p.offset).length = p.offset := by
    simp only [Valid] at h
    simp
    omega
  rw [load_eq_ok <| (overwrite_valid_iff h).mpr h, overwrite, Function.update_self, List.append_assoc,
    List.drop_append_of_le_length hl.ge, List.drop_of_length_le hl.le]
  simp

theorem load_overwrite_mid (h : m.Valid p (xs ++ ys ++ zs).length) :
    (m.overwrite p (xs ++ ys ++ zs)).load (p.advance xs.length) ys.length = .ok ys := by
  simp only [List.length_append] at h
  have hz : m.Valid (p.advance (xs ++ ys).length) zs.length := by
    simp only [Valid, List.length_append, Ptr.advance_block, Ptr.advance_offset] at h ⊢
    omega
  have hxy : (m.overwrite (p.advance (xs ++ ys).length) zs).Valid p (xs.length + ys.length) := by
    rw [overwrite_valid_iff hz]
    simp only [Valid] at h ⊢
    omega
  rw [overwrite_append' (by rwa [List.length_append]), overwrite_append hxy]
  refine load_overwrite ?_
  rw [overwrite_valid_iff] <;> simp only [Valid, Ptr.advance_block, Ptr.advance_offset] at hxy ⊢ <;>
    omega

end Heap
