import Mathlib.Data.Set.Basic
import Mathlib.Tactic.Positivity
import Thumb2Sim.Lib.Bytes

-- A partial map from addresses to bytes that is accessed by strings of bytes. An access takes place
-- only if all of its addresses lie in one and the same area.
def ByteMap :=
  Nat → Option (BitVec 8)

namespace ByteMap

structure Area where
  addresses : Set Nat
  writable  : Prop

def Area.Contains (area : Area) (address n : Nat) : Prop :=
  ∀ i < n, address + i ∈ area.addresses

def bytes (m : ByteMap) (address n : Nat) : List (BitVec 8) :=
  (List.range n).map fun i => (m (address + i)).getD 0

def update (m : ByteMap) (address : Nat) (bs : List (BitVec 8)) : ByteMap :=
  fun x => if address ≤ x ∧ x < address + bs.length then bs[x - address]? else m x

open Classical in
noncomputable def read (areas : List Area) (m : ByteMap) (address n : Nat) : Nat :=
  if ∃ area ∈ areas, area.Contains address n then Bytes.toNat (m.bytes address n) else 0

open Classical in
noncomputable def write
    (areas : List Area) (m : ByteMap) (address : Nat) (bs : List (BitVec 8)) : ByteMap :=
  if ∃ area ∈ areas, area.writable ∧ area.Contains address bs.length then m.update address bs else m

variable {areas : List Area} {area : Area} {m : ByteMap} {address n : Nat} {bs : List (BitVec 8)}

theorem read_of_contains (h : area ∈ areas) (hc : area.Contains address n) :
    read areas m address n = Bytes.toNat (m.bytes address n) :=
  if_pos ⟨area, h, hc⟩

theorem read_of_not_contains (h : ∀ area ∈ areas, ¬area.Contains address n) :
    read areas m address n = 0 :=
  if_neg fun ⟨_, ha, hc⟩ => h _ ha hc

theorem write_of_contains (h : area ∈ areas) (hw : area.writable)
    (hc : area.Contains address bs.length) : write areas m address bs = m.update address bs :=
  if_pos ⟨area, h, hw, hc⟩

theorem write_of_not_contains
    (h : ∀ area ∈ areas, area.writable → ¬area.Contains address bs.length) :
    write areas m address bs = m :=
  if_neg fun ⟨_, ha, hw, hc⟩ => h _ ha hw hc

theorem read_lt : read areas m address n < 256 ^ n := by
  unfold read
  split
  case isTrue => simpa [bytes] using Bytes.toNat_lt (m.bytes address n)
  case isFalse => positivity

theorem Area.Contains.sub {i k : Nat} (h : area.Contains address n) (hi : i + k ≤ n) :
    area.Contains (address + i) k := by
  intro j hj
  rw [Nat.add_assoc]
  exact h (i + j) (by omega)

theorem bytes_length : (m.bytes address n).length = n := by
  simp [bytes]

theorem bytes_add (k : Nat) :
    m.bytes address (n + k) = m.bytes address n ++ m.bytes (address + n) k := by
  simp [bytes, List.range_add, Nat.add_assoc]

theorem update_nil : m.update address [] = m := by
  funext x
  exact if_neg <| by simp

-- Two updates next to each other.
theorem update_append {bs' : List (BitVec 8)} :
    m.update address (bs ++ bs') = (m.update (address + bs.length) bs').update address bs := by
  funext x
  simp only [update, List.length_append]
  by_cases hx : address ≤ x ∧ x < address + bs.length
  case pos =>
    rw [if_pos hx, if_pos (by omega), List.getElem?_append_left (by omega)]
  case neg =>
    rw [if_neg hx]
    by_cases hx' : address + bs.length ≤ x ∧ x < address + bs.length + bs'.length
    case pos =>
      rw [if_pos hx', if_pos (by omega), List.getElem?_append_right (by omega), Nat.sub_sub]
    case neg => rw [if_neg hx', if_neg (by omega)]

-- What an update does not reach.

theorem bytes_update_of_disjoint {x k : Nat} (h : x + k ≤ address ∨ address + bs.length ≤ x) :
    (m.update address bs).bytes x k = m.bytes x k := by
  apply List.map_congr_left
  intro i hi
  have hk := List.mem_range.mp hi
  rw [update, if_neg (by omega)]

theorem read_update_of_disjoint {x k : Nat} (h : x + k ≤ address ∨ address + bs.length ≤ x) :
    read areas (m.update address bs) x k = read areas m x k := by
  unfold read
  rw [bytes_update_of_disjoint h]

end ByteMap
