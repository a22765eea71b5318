import Mathlib.Data.List.GetD
import Thumb2Sim.AddressSpace.Basic

-- No slice reaches up to this address, as the end of a slice is an address, too.
def lastAddress : Word :=
  0xffffffff

theorem lastAddress_toNat : lastAddress.toNat = 2 ^ 32 - 1 :=
  rfl

namespace Addrspace

variable {as : Addrspace} {memory : HostMemory} {address : Word} {slice : AddressSlice} {b : Byte}

-- The data of the slices is as long as their ranges of addresses.
def Buffered (as : Addrspace) (memory : HostMemory) : Prop :=
  ∀ slice ∈ as.slices, memory.Valid slice.data (slice.endAddr.toNat - slice.beginAddr.toNat)

-- The byte lies in a slice that may be written to.
def Writable (as : Addrspace) (address : Word) : Prop :=
  ∃ slice, as.getslice address 1 = some slice ∧ slice.readOnly = false

theorem getslice_byte (h : as.getslice address 1 = some slice) :
    slice.beginAddr.toNat ≤ address.toNat ∧ address.toNat < slice.endAddr.toNat := by
  have ⟨_, hb, he⟩ := getslice_some h
  rw [BitVec.add_sub_cancel] at he
  exact ⟨hb, he⟩

theorem getslice_lastAddress : as.getslice lastAddress 1 = none := by
  cases h : as.getslice lastAddress 1
  case none => rfl
  case some slice =>
    have he := (getslice_byte h).right
    have := slice.endAddr.isLt
    rw [lastAddress_toNat] at he
    omega

theorem Writable.ne_lastAddress (h : as.Writable address) : address ≠ lastAddress := by
  intro ha
  obtain ⟨slice, h, _⟩ := ha ▸ h
  cases getslice_lastAddress.symm.trans h

theorem Buffered.valid (hb : as.Buffered memory) (h : as.getslice address 1 = some slice) :
    memory.Valid (slice.ptr address) 1 := by
  have ⟨_, _⟩ := getslice_byte h
  have hv := hb slice (getslice_some h).left
  simp only [Heap.Valid, AddressSlice.ptr, Ptr.advance_block, Ptr.advance_offset] at hv ⊢
  omega

theorem write8_of_valid (h : as.getslice address 1 = some slice) (hr : slice.readOnly = false)
    (hv : memory.Valid (slice.ptr address) 1) :
    as.write8 memory address b = .ok (memory.overwrite (slice.ptr address) [b]) := by
  have hb : Bytes.ofNat 1 (b.setWidth 32).toNat = [b] := by
    rw [BitVec.toNat_setWidth_of_le (by decide), Bytes.ofNat, Bytes.ofNat, BitVec.ofNat_toNat,
      BitVec.setWidth_eq]
  rw [write8, writeN]
  simp only [h, hr, true_or, if_true]
  exact hb ▸ Heap.store_eq_ok hv

theorem read8_of_load (h : as.getslice address 1 = some slice)
    (hl : memory.load (slice.ptr address) 1 = .ok [b]) : as.read8 memory address = .ok b := by
  rw [read8, readN]
  simp only [h, true_or, if_true]
  change (memory.load _ 1 >>= _) >>= _ = _
  rw [hl]
  change Except.ok ((BitVec.ofNat 32 (Bytes.toNat [b])).setWidth 8) = _
  rw [Bytes.toNat, Bytes.toNat, Nat.mul_zero, Nat.add_zero, BitVec.setWidth_ofNat_of_le (by decide),
    BitVec.ofNat_toNat, BitVec.setWidth_eq]

theorem read8_lastAddress : as.read8 memory lastAddress = .ok 0 := by
  rw [read8, readN, getslice_lastAddress]
  rfl

theorem Buffered.write8_ok (hb : as.Buffered memory) :
    ∃ memory', as.write8 memory address b = .ok memory' := by
  cases hs : as.getslice address 1
  case none => exact ⟨memory, writeN_of_none hs⟩
  case some slice =>
    by_cases hr : slice.readOnly
    case pos => exact ⟨memory, writeN_of_readOnly hs hr⟩
    case neg => exact ⟨_, write8_of_valid hs (Bool.eq_false_iff.mpr hr) <| hb.valid hs⟩

-- A byte that is written is read again.
theorem read8_write8 (hb : as.Buffered memory) (hw : as.Writable address) :
    ∃ memory', as.write8 memory address b = .ok memory' ∧ as.read8 memory' address = .ok b := by
  obtain ⟨slice, h, hr⟩ := hw
  have hv : memory.Valid (slice.ptr address) [b].length := hb.valid h
  exact ⟨_, write8_of_valid h hr hv, read8_of_load h <| Heap.load_overwrite hv⟩

-- One slice for all addresses but the last one.
def flat : Addrspace where
  slices    := [{
    beginAddr     := 0
    endAddr       := lastAddress
    data          := ⟨0, 0⟩
    readOnly      := false
    shadowMapping := false
  }]
  length_le := by decide

theorem toNat_lt_lastAddress (h : address ≠ lastAddress) : address.toNat < lastAddress.toNat := by
  have := address.isLt
  have := BitVec.toNat_ne_iff_ne.mpr h
  rw [lastAddress_toNat] at this ⊢
  omega

theorem getslice_flat (h : address ≠ lastAddress) :
    ∃ slice, flat.getslice address 1 = some slice ∧ slice.readOnly = false ∧
      slice.ptr address = ⟨0, address.toNat⟩ := by
  refine ⟨_, List.find?_cons_of_pos ?_, rfl, ?_⟩
  case refine_1 =>
    simp only [BitVec.add_sub_cancel, Bool.and_eq_true, decide_eq_true_eq]
    exact ⟨Nat.zero_le _, toNat_lt_lastAddress h⟩
  case refine_2 => simp [AddressSlice.ptr, Ptr.advance]

-- The bytes of the slice. There is nothing behind them, at the last address.

theorem read8_flat (hl : (memory 0).length = lastAddress.toNat) :
    flat.read8 memory address = .ok ((memory 0).getD address.toNat 0) := by
  by_cases h : address = lastAddress
  case pos =>
    rw [h, List.getD_eq_default _ _ hl.le, read8_lastAddress]
  case neg =>
    obtain ⟨slice, hs, -, hp⟩ := getslice_flat h
    have ha : address.toNat < (memory 0).length := hl ▸ toNat_lt_lastAddress h
    have hv : memory.Valid ⟨0, address.toNat⟩ 1 := ha
    refine read8_of_load hs ?_
    rw [hp, Heap.load_eq_ok hv, List.drop_eq_getElem_cons ha, List.take_succ_cons, List.take_zero,
      List.getD_eq_getElem _ _ ha]

theorem write8_flat (hl : (memory 0).length = lastAddress.toNat) :
    flat.write8 memory address b =
      .ok (Function.update memory 0 ((memory 0).set address.toNat b)) := by
  by_cases h : address = lastAddress
  case pos =>
    rw [h, List.set_eq_of_length_le hl.le, Function.update_eq_self]
    exact writeN_of_none getslice_lastAddress
  case neg =>
    obtain ⟨slice, hs, hr, hp⟩ := getslice_flat h
    have ha : address.toNat < (memory 0).length := hl ▸ toNat_lt_lastAddress h
    rw [write8_of_valid hs hr <| hp ▸ ha, hp, Heap.overwrite, List.set_eq_take_append_cons_drop,
      if_pos ha, List.append_assoc]
    rfl

-- A memory in which all bytes of the slice are the same.
def uniform (b : Byte) : HostMemory :=
  fun _ => List.replicate lastAddress.toNat b

theorem uniform_length : (uniform b 0).length = lastAddress.toNat :=
  List.length_replicate

theorem buffered_uniform : flat.Buffered (uniform b) := by
  intro slice hs
  cases List.mem_singleton.mp hs
  exact uniform_length (b := b).ge

theorem writable_flat (h : address ≠ lastAddress) : flat.Writable address := by
  have ⟨slice, hs, hr, _⟩ := getslice_flat h
  exact ⟨slice, hs, hr⟩

theorem read8_uniform :
    flat.read8 (uniform b) address = .ok (if address = lastAddress then 0 else b) := by
  rw [read8_flat uniform_length]
  by_cases h : address = lastAddress
  case pos => rw [if_pos h, h, List.getD_eq_default _ _ uniform_length.le]
  case neg => rw [if_neg h, uniform, List.getD_replicate _ <| toNat_lt_lastAddress h]

-- The bytes behind a write.
theorem write8_uniform (b v : Byte) (address : Word) :
    ∃ memory, flat.write8 (uniform b) address v = .ok memory ∧ ∀ a, flat.read8 memory a =
      .ok (if a = lastAddress then 0 else if a = address then v else b) := by
  refine ⟨_, write8_flat uniform_length, fun a => ?_⟩
  have hl : ((uniform b 0).set address.toNat v).length = lastAddress.toNat := by
    rw [List.length_set, uniform_length]
  rw [read8_flat (by rwa [Function.update_self]), Function.update_self]
  by_cases h : a = lastAddress
  case pos => rw [if_pos h, h, List.getD_eq_default _ _ hl.le]
  case neg =>
    have ha := toNat_lt_lastAddress h
    rw [if_neg h, List.getD_eq_getElem _ _ (hl ▸ ha), List.getElem_set]
    simp only [uniform, List.getElem_replicate, BitVec.toNat_inj, eq_comm]

end Addrspace
