import Thumb2Sim.Convenience

-- The range lies inside of the slice, with the bounds compared as natural numbers.
def AddressSlice.Covers (slice : AddressSlice) (address length : Word) : Prop :=
  slice.beginAddr.toNat ≤ address.toNat ∧ address.toNat + length.toNat ≤ slice.endAddr.toNat

namespace Addrspace

variable {rs : List Region} {as : Addrspace} {address length : Word} {slice : AddressSlice}

-- The test of `getslice` computes the last address of the range modulo `2 ^ 32`. This is harmless
-- if the range does not wrap around, or if no slice that begins below it reaches past the wrapped
-- last address.
def NoWrap (as : Addrspace) (address length : Word) : Prop :=
  address.toNat + length.toNat ≤ 2 ^ 32 ∨
  ∀ slice ∈ as.slices, slice.beginAddr.toNat ≤ address.toNat →
    slice.endAddr.toNat ≤ address.toNat + length.toNat - 1 - 2 ^ 32

-- Every slice that is found for the range covers it, and so every byte that is handed out, read or
-- written lies inside of the data buffer of the slice's region.
structure InBounds (as : Addrspace) (rs : List Region) (address length : Word) : Prop where
  covers : ∀ slice, as.getslice address length = some slice → slice.Covers address length
  memptr : ∀ p, as.memptr address length = some p → ∃ r ∈ rs, ∃ offset,
    p = r.data.advance offset ∧ ∀ i < length.toNat, offset + i < r.length.toNat
  readN  : ∀ memory : HostMemory, (∀ r ∈ rs, memory.Valid r.data r.length.toNat) →
    ∃ v, as.readN memory address length = .ok v
  writeN : ∀ memory : HostMemory, (∀ r ∈ rs, memory.Valid r.data r.length.toNat) →
    ∀ value, ∃ memory', as.writeN memory address length value = .ok memory'

theorem last_toNat (hl : 1 ≤ length.toNat) :
    (address + length - 1).toNat = (address.toNat + length.toNat - 1) % 2 ^ 32 := by
  simp only [BitVec.toNat_sub, BitVec.toNat_add, BitVec.reduceToNat]
  omega

theorem covers_of_noWrap (hl : 1 ≤ length.toNat) (hw : as.NoWrap address length)
    (hs : as.getslice address length = some slice) : slice.Covers address length := by
  have ⟨hm, hb, he⟩ := getslice_some hs
  rw [BitVec.le_def] at hb
  rw [BitVec.lt_def, last_toNat hl] at he
  have := slice.endAddr.isLt
  have := length.isLt
  have := address.isLt
  cases hw
  case inl hw => exact ⟨hb, by omega⟩
  case inr hw =>
    have := hw slice hm hb
    exact ⟨hb, by omega⟩

theorem noWrap_of_covers (hl : 1 ≤ length.toNat)
    (hc : ∀ slice, as.getslice address length = some slice → slice.Covers address length) :
    as.NoWrap address length := by
  by_contra hn
  simp only [NoWrap, not_or, not_forall, not_le] at hn
  obtain ⟨hw, slice, hm, hb, he⟩ := hn
  have hf : (as.getslice address length).isSome := by
    refine List.find?_isSome.mpr ⟨slice, hm, ?_⟩
    have := address.isLt
    have := length.isLt
    simp only [Bool.and_eq_true, decide_eq_true_eq, BitVec.le_def, BitVec.lt_def, last_toNat hl]
    omega
  have ⟨slice', hs'⟩ := Option.isSome_iff_exists.mp hf
  have := (hc slice' hs').right
  have := slice'.endAddr.isLt
  omega

-- A covered range lies inside of the buffer of the region behind the slice.
theorem Covers.offset_lt {r : Region} (hf : r.Fits) (hl : 1 ≤ length.toNat)
    (hc : r.slice.Covers address length) :
    address.toNat - r.startAddr.toNat + length.toNat ≤ r.length.toNat := by
  have ⟨hb, he⟩ := hc
  have h := Region.slice_endAddr_toNat hf
  simp only [Region.slice] at hb he h
  omega

theorem inBounds_of_noWrap (h : ofRegions rs = some as) (hf : ∀ r ∈ rs, r.Fits)
    (hl : 1 ≤ length.toNat) (hw : as.NoWrap address length) : as.InBounds rs address length := by
  have hp : ∀ slice, as.getslice address length = some slice → ∃ r ∈ rs,
      slice.ptr address = r.data.advance (address.toNat - r.startAddr.toNat) ∧
      address.toNat - r.startAddr.toNat + length.toNat ≤ r.length.toNat := by
    intro slice hs
    obtain ⟨r, hr, rfl⟩ := exists_region_of_getslice h hs
    exact ⟨r, hr, rfl, Covers.offset_lt (hf r hr) hl (covers_of_noWrap hl hw hs)⟩
  have hv : ∀ memory : HostMemory, (∀ r ∈ rs, memory.Valid r.data r.length.toNat) →
      ∀ slice, as.getslice address length = some slice →
      memory.Valid (slice.ptr address) length.toNat := by
    intro memory hm slice hs
    have ⟨r, hr, hp, ho⟩ := hp slice hs
    have := hm r hr
    simp only [hp, Heap.Valid, Ptr.advance_block, Ptr.advance_offset] at this ⊢
    omega
  constructor
  case covers => exact fun _ => covers_of_noWrap hl hw
  case memptr =>
    intro p hm
    obtain ⟨slice, hs, rfl⟩ := Option.map_eq_some_iff.mp hm
    have ⟨r, hr, hp, ho⟩ := hp slice hs
    exact ⟨r, hr, _, hp, fun i hi => by omega⟩
  case readN =>
    intro memory hm
    unfold readN
    split
    case h_1 slice hs => split <;> simp [Heap.load_eq_ok (hv memory hm slice hs)]
    case h_2 => exact ⟨0, rfl⟩
  case writeN =>
    intro memory hm value
    unfold writeN
    split
    case h_1 slice hs =>
      have hv := hv memory hm slice hs
      split
      case isTrue => exact ⟨_, rfl⟩
      case isFalse =>
        split
        case isTrue => exact ⟨_, Heap.store_eq_ok (by simpa using hv)⟩
        case isFalse => exact ⟨_, rfl⟩
    case h_2 => exact ⟨_, rfl⟩

theorem inBounds_iff_noWrap (h : ofRegions rs = some as) (hf : ∀ r ∈ rs, r.Fits)
    (hl : 1 ≤ length.toNat) : as.InBounds rs address length ↔ as.NoWrap address length where
  mp  := fun hb => noWrap_of_covers hl hb.covers
  mpr := inBounds_of_noWrap h hf hl

theorem inBounds_iff_noWrap_default :
    defaultParameters.addrSpace.InBounds defaultParameters.regions 0x2001fffc 4 ↔
    defaultParameters.addrSpace.NoWrap 0x2001fffc 4 :=
  inBounds_iff_noWrap defaultParameters.ofRegions_regions (by decide) (by decide)

-- With the default parameters, a word at the end of the guest's address space is found in the ROM:
-- its last byte has the address two.
theorem not_forall_inBounds :
    ¬∀ rs as (address length : Word), ofRegions rs = some as → (∀ r ∈ rs, r.Fits) →
      1 ≤ length.toNat → as.InBounds rs address length := by
  intro h
  have hb := h _ _ 0xffffffff 4 defaultParameters.ofRegions_regions (by decide) (by decide)
  have hc := hb.covers defaultParameters.rom.slice (by decide)
  exact absurd hc.right (by decide)

end Addrspace
