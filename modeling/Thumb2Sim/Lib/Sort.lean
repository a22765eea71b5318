import Mathlib.Data.List.Sort
import Mathlib.Data.Prod.Lex
import Mathlib.Data.String.Basic

-- Sorting by keys that are all different. The sorted list is then determined by its elements, so
-- that it may be found in any other way.
section Keys

variable {α κ : Type} [LinearOrder κ] {key : α → κ} {le : α → α → Prop} [DecidableRel le]
  {l r : List α}

theorem insertionSort_eq_of_perm (hle : ∀ a b, le a b ↔ key a ≤ key b) (hp : r.Perm l)
    (hr : r.Pairwise fun a b => key a < key b) : l.insertionSort le = r := by
  have : Std.Total le := ⟨fun a b => by rw [hle, hle]; exact le_total _ _⟩
  have : IsTrans α le := ⟨fun a b c hab hbc => by
    rw [hle] at hab hbc ⊢
    exact hab.trans hbc⟩
  have hn : (r.map key).Nodup := List.pairwise_map.mpr <| hr.imp ne_of_lt
  have hi := (List.perm_insertionSort le l).trans hp.symm
  refine hi.eq_of_pairwise (fun a b ha hb hab hba => ?_) (List.pairwise_insertionSort le l) <|
    hr.imp fun h => (hle _ _).mpr h.le
  have hk : key a = key b := le_antisymm ((hle a b).mp hab) ((hle b a).mp hba)
  exact List.inj_on_of_nodup_map hn (hi.mem_iff.mp ha) hb hk

-- The elements with the values 0 to `n - 1` of a function, one value behind the other.
theorem flatMap_filter_perm (f : α → Nat) (n : Nat) :
    ((List.range n).flatMap fun k => (l.filter (f · = k)).insertionSort le).Perm
      (l.filter (f · < n)) := by
  induction n
  case zero => simp
  case succ n hi =>
    have hp := List.filter_append_perm (f · < n) (l.filter (f · < n + 1))
    have h₁ : (l.filter (f · < n + 1)).filter (f · < n) = l.filter (f · < n) := by
      rw [List.filter_filter]
      refine List.filter_congr fun a _ => ?_
      rw [Bool.and_eq_left_iff_imp, decide_eq_true_eq, decide_eq_true_eq]
      exact Nat.lt_succ_of_lt
    have h₂ : (l.filter (f · < n + 1)).filter (fun a => !decide (f a < n)) = l.filter (f · = n) := by
      rw [List.filter_filter]
      refine List.filter_congr fun a _ => ?_
      rw [Bool.eq_iff_iff]
      simp
      omega
    rw [h₁, h₂] at hp
    rw [List.range_succ, List.flatMap_append, List.flatMap_singleton]
    exact (hi.append <| List.perm_insertionSort _ _).trans hp

end Keys

-- An element of a list in ascending order stands behind the smaller ones.
theorem getElem?_countP_lt {α : Type} [LinearOrder α] {l : List α} {a : α}
    (hs : l.Pairwise (· < ·)) (h : a ∈ l) : l[l.countP (· < a)]? = some a := by
  induction l
  case nil => simp at h
  case cons b l hi =>
    have ⟨hb, hl⟩ := List.pairwise_cons.mp hs
    rw [List.countP_cons]
    cases List.mem_cons.mp h
    case inl he =>
      subst he
      have hz : l.countP (· < a) = 0 := by
        simpa [List.countP_eq_zero] using fun x hx => (hb x hx).le
      simp [hz]
    case inr hm =>
      have := hb a hm
      simpa [this] using hi hl hm

-- The bytes of a string as characters. The kernel computes them much faster than the characters
-- of the string, and for strings of ASCII characters there is no difference.
namespace String

variable {s t : String}

def byteChars (s : String) : List Char :=
  s.toByteArray.data.toList.map fun b => Char.ofNat b.toNat

theorem toList_eq_byteChars (h : ofList s.byteChars = s) : s.toList = s.byteChars := by
  rw [← congrArg toList h, toList_ofList]

theorem lt_iff_byteChars (hs : ofList s.byteChars = s) (ht : ofList t.byteChars = t) :
    s < t ↔ s.byteChars < t.byteChars := by
  rw [lt_iff_toList_lt, toList_eq_byteChars hs, toList_eq_byteChars ht]

end String
