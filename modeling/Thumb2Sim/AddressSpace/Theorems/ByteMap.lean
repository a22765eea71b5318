import Mathlib.Data.Set.Disjoint
import Thumb2Sim.Convenience
import Thumb2Sim.Lib.ByteMap

open Addrspace

-- The calls by which the emulator accesses an address space.
inductive Access
  | read8   (address : Word)
  | read16  (address : Word)
  | read32  (address : Word)
  | write8  (address : Word) (value : Byte)
  | write16 (address : Word) (value : BitVec 16)
  | write32 (address : Word) (value : Word)
deriving DecidableEq

namespace Access

def address : Access → Word
  | read8 a | read16 a | read32 a | write8 a _ | write16 a _ | write32 a _ => a

def size : Access → Nat
  | read8 _  | write8 ..  => 1
  | read16 _ | write16 .. => 2
  | read32 _ | write32 .. => 4

def NoOverflow (a : Access) : Prop :=
  a.address.toNat + a.size ≤ 2 ^ 32

instance (a : Access) : Decidable a.NoOverflow :=
  inferInstanceAs <| Decidable (_ ≤ _)

-- The result of an access, if it is a read, and the memory after it.
def perform (as : Addrspace) (memory : HostMemory) :
    Access → Except Undefined (Option Word × HostMemory)
  | read8 a     => do return (some <| (← as.read8 memory a).setWidth 32, memory)
  | read16 a    => do return (some <| (← as.read16 memory a).setWidth 32, memory)
  | read32 a    => do return (some <| ← as.read32 memory a, memory)
  | write8 a v  => do return (none, ← as.write8 memory a v)
  | write16 a v => do return (none, ← as.write16 memory a v)
  | write32 a v => do return (none, ← as.write32 memory a v)

def performAll (as : Addrspace) :
    HostMemory → List Access → Except Undefined (List (Option Word) × HostMemory)
  | memory, []     => return ([], memory)
  | memory, a :: l => do
    let (v, memory) ← a.perform as memory
    let (vs, memory) ← performAll as memory l
    return (v :: vs, memory)

-- What the accesses are meant to do, on a partial map from addresses to bytes.
noncomputable def reference (areas : List ByteMap.Area) (m : ByteMap) :
    Access → Option Word × ByteMap
  | read8 a     => (some <| BitVec.ofNat 32 <| m.read areas a.toNat 1, m)
  | read16 a    => (some <| BitVec.ofNat 32 <| m.read areas a.toNat 2, m)
  | read32 a    => (some <| BitVec.ofNat 32 <| m.read areas a.toNat 4, m)
  | write8 a v  => (none, m.write areas a.toNat <| Bytes.ofNat 1 v.toNat)
  | write16 a v => (none, m.write areas a.toNat <| Bytes.ofNat 2 v.toNat)
  | write32 a v => (none, m.write areas a.toNat <| Bytes.ofNat 4 v.toNat)

noncomputable def referenceAll (areas : List ByteMap.Area) :
    ByteMap → List Access → List (Option Word) × ByteMap
  | m, []     => ([], m)
  | m, a :: l =>
    let (v, m)  := a.reference areas m
    let (vs, m) := referenceAll areas m l
    (v :: vs, m)

end Access

namespace Region

def area (r : Region) : ByteMap.Area where
  addresses := r.addresses
  writable  := r.readOnly = false

-- Two regions that share neither guest addresses nor a data buffer.
structure Apart (r s : Region) : Prop where
  disjoint : Disjoint r.addresses s.addresses
  block_ne : r.data.block ≠ s.data.block

instance : Std.Symm Apart where
  symm _ _ a := ⟨a.disjoint.symm, a.block_ne.symm⟩

end Region

-- The regions do not overlap, end below `2 ^ 32`, and each of them has its own data buffer.
structure Layout (rs : List Region) (memory : HostMemory) : Prop where
  apart  : rs.Pairwise Region.Apart
  end_lt : ∀ r ∈ rs, r.startAddr.toNat + r.length.toNat < 2 ^ 32
  buffer : ∀ r ∈ rs, memory.Valid r.data r.length.toNat

-- The partial map that the data buffers hold.
def contents (rs : List Region) (memory : HostMemory) : ByteMap :=
  fun x =>
    (rs.find? (x ∈ ·.addresses)).bind fun r =>
      memory.cell <| r.data.advance <| x - r.startAddr.toNat

namespace Layout

variable {rs : List Region} {as : Addrspace} {memory : HostMemory} {r s : Region} {x : Nat}
  {address length value : Word} {bs : List Byte}

theorem eq_of_mem (l : Layout rs memory) (hr : r ∈ rs) (hs : s ∈ rs) (hxr : x ∈ r.addresses)
    (hxs : x ∈ s.addresses) : r = s := by
  by_contra hn
  exact Set.disjoint_left.mp (l.apart.forall hr hs hn).disjoint hxr hxs

theorem contents_eq (l : Layout rs memory) (hr : r ∈ rs) (hx : x ∈ r.addresses) :
    contents rs memory x = memory.cell (r.data.advance (x - r.startAddr.toNat)) := by
  have hf : (rs.find? (x ∈ ·.addresses)).isSome := List.find?_isSome.mpr ⟨r, hr, by simpa using hx⟩
  have ⟨s, hs⟩ := Option.isSome_iff_exists.mp hf
  have hxs := List.find?_some hs
  cases l.eq_of_mem (List.mem_of_find?_eq_some hs) hr (by simpa using hxs) hx
  simp [contents, hs]

theorem overwrite (l : Layout rs memory) {p : HostPtr} (hv : memory.Valid p bs.length) :
    Layout rs (memory.overwrite p bs) where
  apart  := l.apart
  end_lt := l.end_lt
  buffer := fun r hr => Heap.overwrite_valid_iff hv |>.mpr <| l.buffer r hr

-- Without wrap-around, the test of `getslice` asks for a region that contains the whole access.
theorem getslice_test_iff (l : Layout rs memory) (hr : r ∈ rs) (hl : 1 ≤ length.toNat)
    (ho : address.toNat + length.toNat ≤ 2 ^ 32) :
    (r.slice.beginAddr ≤ address ∧ address + length - 1 < r.slice.endAddr) ↔
    r.area.Contains address.toNat length.toNat := by
  have he := l.end_lt r hr
  have hlast : (address + length - 1).toNat = address.toNat + length.toNat - 1 := by
    simp only [BitVec.toNat_sub, BitVec.toNat_add, BitVec.reduceToNat]
    omega
  have hend : (r.startAddr + r.length).toNat = r.startAddr.toNat + r.length.toNat := by
    rw [BitVec.toNat_add]
    omega
  simp only [BitVec.le_def, BitVec.lt_def, hlast, hend, Region.slice, Region.area,
    ByteMap.Area.Contains, Region.mem_addresses]
  constructor
  case mp  => rintro ⟨hb, hl⟩ i hi; omega
  case mpr =>
    intro h
    have := h 0 (by omega)
    have := h (length.toNat - 1) (by omega)
    omega

theorem getslice_of_contains (l : Layout rs memory) (h : ofRegions rs = some as) (hr : r ∈ rs)
    (hl : 1 ≤ length.toNat) (ho : address.toNat + length.toNat ≤ 2 ^ 32)
    (hc : r.area.Contains address.toNat length.toNat) :
    as.getslice address length = some r.slice := by
  have ht := l.getslice_test_iff hr hl ho |>.mpr hc
  have hf : (as.getslice address length).isSome := by
    refine List.find?_isSome.mpr ⟨r.slice, ?_, by simpa using ht⟩
    rw [ofRegions_slices h]
    exact List.mem_map_of_mem hr
  have ⟨slice, hs⟩ := Option.isSome_iff_exists.mp hf
  obtain ⟨s, hsm, rfl⟩ := exists_region_of_getslice h hs
  have hc' := l.getslice_test_iff hsm hl ho |>.mp (getslice_some hs).right
  have hx := hc 0 (by omega)
  have hx' := hc' 0 (by omega)
  rw [hs, l.eq_of_mem hsm hr hx' hx]

theorem getslice_of_not_contains (l : Layout rs memory) (h : ofRegions rs = some as)
    (hl : 1 ≤ length.toNat) (ho : address.toNat + length.toNat ≤ 2 ^ 32)
    (hc : ∀ r ∈ rs, ¬r.area.Contains address.toNat length.toNat) :
    as.getslice address length = none := by
  cases hs : as.getslice address length
  case none => rfl
  case some =>
    obtain ⟨r, hr, rfl⟩ := exists_region_of_getslice h hs
    exact absurd (l.getslice_test_iff hr hl ho |>.mp (getslice_some hs).right) (hc r hr)

theorem bytes_contents (l : Layout rs memory) (hr : r ∈ rs) {n : Nat}
    (hc : r.area.Contains address.toNat n) (h : memory.load (r.slice.ptr address) n = .ok bs) :
    (contents rs memory).bytes address.toNat n = bs := by
  apply List.ext_getElem?
  intro i
  by_cases hi : i < n
  case neg => simp [ByteMap.bytes, hi, Heap.load_length h]
  case pos =>
    have hb : r.startAddr.toNat ≤ address.toNat := (hc 0 (by omega)).left
    have hp : (r.slice.ptr address).advance i =
        r.data.advance (address.toNat + i - r.startAddr.toNat) := by
      simp only [AddressSlice.ptr, Region.slice, Ptr.advance_advance]
      congr 1
      omega
    have hg := Heap.load_getElem? h hi
    have hm := hg ▸ List.getElem?_eq_getElem (Heap.load_length h ▸ hi)
    rw [hp] at hm
    simp [ByteMap.bytes, hi, l.contents_eq hr (hc i hi), hm, Heap.load_length h]

theorem contents_overwrite (l : Layout rs memory) (hr : r ∈ rs)
    (hc : r.area.Contains address.toNat bs.length)
    (hv : memory.Valid (r.slice.ptr address) bs.length) :
    contents rs (memory.overwrite (r.slice.ptr address) bs) =
    (contents rs memory).update address.toNat bs := by
  funext x
  by_cases hx : ∃ s ∈ rs, x ∈ s.addresses
  case neg =>
    simp only [not_exists, not_and] at hx
    have hf : rs.find? (x ∈ ·.addresses) = none := by simpa using hx
    have hn : ¬(address.toNat ≤ x ∧ x < address.toNat + bs.length) := by
      rintro ⟨hlo, hhi⟩
      have := hc (x - address.toNat) (by omega)
      rw [Nat.add_sub_cancel' hlo] at this
      exact hx r hr this
    simp [contents, ByteMap.update, hf, hn]
  case pos =>
    obtain ⟨s, hs, hx⟩ := hx
    rw [(l.overwrite hv).contents_eq hs hx, Heap.overwrite_cell hv, ByteMap.update,
      l.contents_eq hs hx]
    by_cases he : s = r
    case neg =>
      -- Another region has another buffer and no address of the access.
      have ha := l.apart.forall hs hr he
      have hn : ¬(address.toNat ≤ x ∧ x < address.toNat + bs.length) := by
        rintro ⟨hlo, hhi⟩
        have hxr := hc (x - address.toNat) (by omega)
        rw [Nat.add_sub_cancel' hlo] at hxr
        exact he <| l.eq_of_mem hs hr hx hxr
      rw [if_neg hn, if_neg]
      exact fun hi => ha.block_ne hi.left
    case pos =>
      subst he
      by_cases hb : bs.length = 0
      case pos =>
        have hr : ¬Heap.InRange (s.slice.ptr address) bs.length
            (s.data.advance (x - s.startAddr.toNat)) := by
          rintro ⟨_, _, _⟩
          omega
        rw [if_neg hr, if_neg (by omega)]
      case neg =>
        have ha : s.startAddr.toNat ≤ address.toNat := (hc 0 (by omega)).left
        have hx := hx.left
        simp only [Heap.InRange, AddressSlice.ptr, Region.slice, Ptr.advance_block,
          Ptr.advance_offset, true_and]
        congr 1
        · simp only [eq_iff_iff]; omega
        · congr 1; omega

-- The bytes of a contained range lie inside of the buffer of the region.
theorem valid_of_contains (l : Layout rs memory) (hr : r ∈ rs) {n : Nat} (hn : 1 ≤ n)
    (hc : r.area.Contains address.toNat n) : memory.Valid (r.slice.ptr address) n := by
  have hb := l.buffer r hr
  have ⟨_, _⟩ := hc 0 (by omega)
  have ⟨_, _⟩ := hc (n - 1) (by omega)
  simp only [Heap.Valid, AddressSlice.ptr, Region.slice, Ptr.advance_block,
    Ptr.advance_offset] at hb ⊢
  omega

theorem readN_reference (l : Layout rs memory) (h : ofRegions rs = some as)
    (hn : length = 1 ∨ length = 2 ∨ length = 4)
    (ho : address.toNat + length.toNat ≤ 2 ^ 32) :
    as.readN memory address length = .ok (BitVec.ofNat 32 <|
      (contents rs memory).read (rs.map Region.area) address.toNat length.toNat) := by
  have hl : 1 ≤ length.toNat := by rcases hn with rfl | rfl | rfl <;> decide
  by_cases hc : ∃ r ∈ rs, r.area.Contains address.toNat length.toNat
  case neg =>
    simp only [not_exists, not_and] at hc
    rw [ByteMap.read_of_not_contains (by simpa using hc)]
    simp [readN, l.getslice_of_not_contains h hl ho hc]
  case pos =>
    obtain ⟨r, hr, hc⟩ := hc
    have hv := l.valid_of_contains hr hl hc
    have hb := l.bytes_contents hr hc (Heap.load_eq_ok hv)
    rw [ByteMap.read_of_contains (List.mem_map_of_mem hr) hc, hb, readN,
      l.getslice_of_contains h hr hl ho hc]
    simp only [if_pos hn, Heap.load_eq_ok hv]
    rfl

theorem writeN_reference (l : Layout rs memory) (h : ofRegions rs = some as)
    (hn : length = 1 ∨ length = 2 ∨ length = 4)
    (ho : address.toNat + length.toNat ≤ 2 ^ 32) :
    ∃ memory', as.writeN memory address length value = .ok memory' ∧ Layout rs memory' ∧
      contents rs memory' = (contents rs memory).write (rs.map Region.area) address.toNat
        (Bytes.ofNat length.toNat value.toNat) := by
  have hl : 1 ≤ length.toNat := by rcases hn with rfl | rfl | rfl <;> decide
  have hlen := Bytes.ofNat_length length.toNat value.toNat
  by_cases hc : ∃ r ∈ rs, r.area.Contains address.toNat length.toNat
  case neg =>
    simp only [not_exists, not_and] at hc
    refine ⟨memory, writeN_of_none <| l.getslice_of_not_contains h hl ho hc, l, ?_⟩
    rw [ByteMap.write_of_not_contains]
    simpa [hlen] using fun r hr _ => hc r hr
  case pos =>
    obtain ⟨r, hr, hc⟩ := hc
    have hg := l.getslice_of_contains h hr hl ho hc
    cases hro : r.readOnly
    case true =>
      refine ⟨memory, writeN_of_readOnly hg hro, l, ?_⟩
      rw [ByteMap.write_of_not_contains]
      simp only [List.mem_map, forall_exists_index, and_imp, hlen]
      rintro _ s hs rfl hw hc'
      -- A writable region that contains the range would be the read-only one.
      cases l.eq_of_mem hs hr (hc' 0 hl) (hc 0 hl)
      simp [Region.area, hro] at hw
    case false =>
      rw [← hlen] at hl hc
      have hv := l.valid_of_contains hr hl hc
      refine ⟨_, ?_, l.overwrite hv, ?_⟩
      · simp only [writeN, hg, Region.slice, hro, if_pos hn]
        exact Heap.store_eq_ok hv
      · rw [l.contents_overwrite hr hc hv]
        exact ByteMap.write_of_contains (List.mem_map_of_mem hr) hro hc |>.symm

-- A narrow value keeps its number on the way through the 32-bit parameter and result.
theorem setWidth_ofNat_read {n w : Nat} {m : ByteMap} {areas : List ByteMap.Area}
    (hw : w ≤ 32) (hn : 256 ^ n ≤ 2 ^ w) :
    ((BitVec.ofNat 32 (m.read areas address.toNat n)).setWidth w).setWidth 32 =
    BitVec.ofNat 32 (m.read areas address.toNat n) := by
  have hr : m.read areas address.toNat n < 2 ^ w := Nat.lt_of_lt_of_le ByteMap.read_lt hn
  have hp : 2 ^ w ≤ 2 ^ 32 := Nat.pow_le_pow_right (by decide) hw
  apply BitVec.eq_of_toNat_eq
  simp only [BitVec.toNat_setWidth, BitVec.toNat_ofNat]
  rw [Nat.mod_eq_of_lt (Nat.lt_of_lt_of_le hr hp), Nat.mod_eq_of_lt hr]
  exact Nat.mod_eq_of_lt (Nat.lt_of_lt_of_le hr hp)

theorem perform_reference (l : Layout rs memory) (h : ofRegions rs = some as) {a : Access}
    (ho : a.NoOverflow) :
    ∃ v memory', a.perform as memory = .ok (v, memory') ∧ Layout rs memory' ∧
      (v, contents rs memory') = a.reference (rs.map Region.area) (contents rs memory) := by
  cases a
  case read8 a =>
    have hr : as.readN memory a 1 = .ok _ := l.readN_reference h (.inl rfl) ho
    refine ⟨_, memory, by simp only [Access.perform, read8, hr]; rfl, l, ?_⟩
    simp only [Access.reference, Prod.mk.injEq, Option.some.injEq, and_true]
    exact setWidth_ofNat_read (by decide) (by decide)
  case read16 a =>
    have hr : as.readN memory a 2 = .ok _ := l.readN_reference h (.inr <| .inl rfl) ho
    refine ⟨_, memory, by simp only [Access.perform, read16, hr]; rfl, l, ?_⟩
    simp only [Access.reference, Prod.mk.injEq, Option.some.injEq, and_true]
    exact setWidth_ofNat_read (by decide) (by decide)
  case read32 a =>
    have hr : as.readN memory a 4 = .ok _ := l.readN_reference h (.inr <| .inr rfl) ho
    exact ⟨_, memory, by simp only [Access.perform, read32, hr]; rfl, l, rfl⟩
  case write8 a v =>
    have ⟨memory', hw, l', hc⟩ :
        ∃ memory', as.writeN memory a 1 (v.setWidth 32) = .ok memory' ∧ _ :=
      l.writeN_reference h (.inl rfl) ho
    rw [BitVec.toNat_setWidth_of_le (by decide)] at hc
    exact ⟨none, memory', by simp only [Access.perform, write8, hw]; rfl, l', by rw [hc]; rfl⟩
  case write16 a v =>
    have ⟨memory', hw, l', hc⟩ :
        ∃ memory', as.writeN memory a 2 (v.setWidth 32) = .ok memory' ∧ _ :=
      l.writeN_reference h (.inr <| .inl rfl) ho
    rw [BitVec.toNat_setWidth_of_le (by decide)] at hc
    exact ⟨none, memory', by simp only [Access.perform, write16, hw]; rfl, l', by rw [hc]; rfl⟩
  case write32 a v =>
    have ⟨memory', hw, l', hc⟩ : ∃ memory', as.writeN memory a 4 v = .ok memory' ∧ _ :=
      l.writeN_reference h (.inr <| .inr rfl) ho
    exact ⟨none, memory', by simp only [Access.perform, write32, hw]; rfl, l', by rw [hc]; rfl⟩

-- The address space refines the byte map: every sequence of accesses succeeds, returns what the
-- byte map returns, and leaves the buffers holding what the byte map holds.
theorem performAll_reference (l : Layout rs memory) (h : ofRegions rs = some as)
    {accesses : List Access} (ho : ∀ a ∈ accesses, a.NoOverflow) :
    ∃ vs memory', Access.performAll as memory accesses = .ok (vs, memory') ∧
      (vs, contents rs memory') =
        Access.referenceAll (rs.map Region.area) (contents rs memory) accesses := by
  induction accesses generalizing memory
  case nil => exact ⟨[], memory, rfl, rfl⟩
  case cons a accesses hi =>
    rw [List.forall_mem_cons] at ho
    have ⟨v, memory₁, hp, l₁, hr⟩ := l.perform_reference h ho.left
    have ⟨vs, memory₂, hps, hrs⟩ := hi l₁ ho.right
    have hc : Access.performAll as memory (a :: accesses) = .ok (v :: vs, memory₂) := by
      simp only [Access.performAll, hp, bind, Except.bind, hps]
      rfl
    exact ⟨v :: vs, memory₂, hc, by simp only [Access.referenceAll, ← hr, ← hrs]⟩

end Layout

theorem defaultParameters_layout {rom ram : List Byte} :
    Layout defaultParameters.regions (defaultParameters.memory rom ram) where
  apart := by
    have hd : Disjoint defaultParameters.rom.addresses defaultParameters.ram.addresses := by
      simp [Set.disjoint_left, Region.addresses, HardwareParams.rom, HardwareParams.ram,
        defaultParameters]
      omega
    exact List.pairwise_pair.mpr ⟨hd, by decide⟩
  end_lt := by decide
  buffer := by
    simp [HardwareParams.regions, HardwareParams.rom, HardwareParams.ram, Heap.Valid,
      HardwareParams.memory, loadFile_length]

-- A store to the ROM has no effect, and a read across the end of the RAM returns zero.
theorem performAll_reference_default :
    let rs       := defaultParameters.regions
    let memory   := defaultParameters.memory [] []
    let accesses := [.write32 0x20000002 0xdeadbeef, .read16 0x20000003, .write8 0x10 0xff,
      .read32 0x2001fffd]
    ∃ vs memory', Access.performAll defaultParameters.addrSpace memory accesses =
      .ok (vs, memory') ∧ (vs, contents rs memory') =
        Access.referenceAll (rs.map Region.area) (contents rs memory) accesses :=
  defaultParameters_layout.performAll_reference defaultParameters.ofRegions_regions (by decide)
