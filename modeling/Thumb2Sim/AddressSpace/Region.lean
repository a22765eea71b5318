import Mathlib.Order.CompletePartialOrder
import Thumb2Sim.AddressSpace.Basic

-- The arguments of a call of `addRegion`.
structure Region where
  startAddr     : Word
  length        : Word
  data          : HostPtr
  readOnly      : Bool
  shadowMapping : Bool
deriving DecidableEq

namespace Region

def slice (r : Region) : AddressSlice where
  beginAddr     := r.startAddr
  endAddr       := r.startAddr + r.length
  data          := r.data
  readOnly      := r.readOnly
  shadowMapping := r.shadowMapping

-- The guest addresses of a region, as natural numbers.
def addresses (r : Region) : Set Nat :=
  { x | r.startAddr.toNat ≤ x ∧ x < r.startAddr.toNat + r.length.toNat }

instance (r : Region) (x : Nat) : Decidable (x ∈ r.addresses) :=
  inferInstanceAs <| Decidable (_ ∧ _)

theorem mem_addresses {r : Region} {x : Nat} :
    x ∈ r.addresses ↔ r.startAddr.toNat ≤ x ∧ x < r.startAddr.toNat + r.length.toNat :=
  Iff.rfl

-- The region does not reach past the end of the guest's address space. It may end exactly there, in
-- which case the end that its slice stores wraps around to zero.
def Fits (r : Region) : Prop :=
  r.startAddr.toNat + r.length.toNat ≤ 2 ^ 32

instance (r : Region) : Decidable r.Fits :=
  inferInstanceAs <| Decidable (_ ≤ _)

theorem slice_endAddr_toNat {r : Region} (h : r.Fits) :
    r.slice.endAddr.toNat = r.startAddr.toNat + r.length.toNat ∨ r.slice.endAddr.toNat = 0 := by
  simp only [slice, BitVec.toNat_add, Fits] at h ⊢
  omega

end Region

namespace Addrspace

def addRegions (as : Addrspace) : List Region → Option Addrspace
  | []      => some as
  | r :: rs => do
    let as' ← as.addRegion r.startAddr r.length r.data r.readOnly r.shadowMapping
    as'.addRegions rs

-- The address spaces that calls of `addRegion` build from the empty one.
def ofRegions (rs : List Region) : Option Addrspace :=
  init.addRegions rs

theorem addRegions_slices {as as' : Addrspace} {rs : List Region}
    (h : as.addRegions rs = some as') : as'.slices = as.slices ++ rs.map Region.slice := by
  induction rs generalizing as
  case nil => cases h; simp
  case cons r rs hi =>
    simp only [addRegions, addRegion, Option.bind_eq_bind, Option.bind_eq_some_iff,
      Option.dite_none_left_eq_some] at h
    obtain ⟨_, ⟨_, ⟨⟩⟩, h⟩ := h
    simp [hi h, Region.slice]

theorem ofRegions_slices {as : Addrspace} {rs : List Region} (h : ofRegions rs = some as) :
    as.slices = rs.map Region.slice := by
  simpa [init] using addRegions_slices h

theorem exists_region_of_getslice {as : Addrspace} {rs : List Region} {address length : Word}
    {slice : AddressSlice} (h : ofRegions rs = some as)
    (hs : as.getslice address length = some slice) : ∃ r ∈ rs, r.slice = slice := by
  have hm := (getslice_some hs).left
  rwa [ofRegions_slices h, List.mem_map] at hm

end Addrspace
