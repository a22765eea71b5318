import Thumb2Sim.AddressSpace.Basic

open Addrspace

-- The `n` words from an address on lie in a slice that may be written to, and do not wrap around.
-- The data of the slice is as long as its range of addresses.
structure LiesIn (as : Addrspace) (memory : HostMemory) (slice : AddressSlice) (addr : Word)
    (n : Nat) : Prop where
  noWrap   : addr.toNat + 4 * n ≤ 2 ^ 32
  words    : ∀ k < n, as.getslice (addr + 4 * BitVec.ofNat 32 k) 4 = some slice
  writable : slice.readOnly = false
  buffer   : memory.Valid slice.data (slice.endAddr.toNat - slice.beginAddr.toNat)

namespace LiesIn

variable {as : Addrspace} {memory : HostMemory} {slice : AddressSlice} {addr : Word} {n k : Nat}
  {bs : List Byte} {v : Word} {p : HostPtr}

theorem toNat_addr (h : addr.toNat + 4 * n ≤ 2 ^ 32) (hk : k < n) :
    (addr + 4 * BitVec.ofNat 32 k).toNat = addr.toNat + 4 * k := by
  simp only [BitVec.toNat_add, BitVec.toNat_mul, BitVec.toNat_ofNat, BitVec.reduceToNat]
  omega

theorem addr_zero : addr + 4 * BitVec.ofNat 32 0 = addr :=
  BitVec.add_zero addr

theorem addr_succ : addr + 4 * BitVec.ofNat 32 (k + 1) = addr + 4 + 4 * BitVec.ofNat 32 k := by
  have h : (4 : Word) * BitVec.ofNat 32 1 = 4 := BitVec.mul_one 4
  rw [BitVec.ofNat_add, BitVec.mul_add, h, BitVec.add_comm (4 * _), BitVec.add_assoc]

theorem addr_one : addr + 4 * BitVec.ofNat 32 1 = addr + 4 := by
  rw [addr_succ, addr_zero]

theorem bounds (l : LiesIn as memory slice addr n) (hn : 0 < n) :
    slice.beginAddr.toNat ≤ addr.toNat ∧ addr.toNat + 4 * n ≤ slice.endAddr.toNat := by
  have ⟨_, hb, _⟩ := getslice_some <| l.words 0 hn
  have ⟨_, _, he⟩ := getslice_some <| l.words (n - 1) (by omega)
  have hw := l.noWrap
  have h₀ := toNat_addr hw hn
  have h₁ := toNat_addr hw (show n - 1 < n by omega)
  rw [BitVec.le_def] at hb
  rw [BitVec.lt_def, BitVec.toNat_sub, BitVec.toNat_add, h₁] at he
  simp only [BitVec.reduceToNat] at he
  omega

theorem valid (l : LiesIn as memory slice addr n) (hn : 0 < n) :
    memory.Valid (slice.ptr addr) (4 * n) := by
  have ⟨_, _⟩ := l.bounds hn
  have hb := l.buffer
  simp only [Heap.Valid, AddressSlice.ptr, Ptr.advance_block, Ptr.advance_offset] at hb ⊢
  omega

theorem valid_word (l : LiesIn as memory slice addr n) (hk : k < n) :
    memory.Valid ((slice.ptr addr).advance (4 * k)) 4 := by
  have hv := l.valid (Nat.zero_lt_of_lt hk)
  simp only [Heap.Valid, Ptr.advance_block, Ptr.advance_offset] at hv ⊢
  omega

theorem ptr_add (l : LiesIn as memory slice addr n) (hk : k ≤ n) (hn : 0 < n) :
    slice.ptr (addr + 4 * BitVec.ofNat 32 k) = (slice.ptr addr).advance (4 * k) := by
  have ⟨_, _⟩ := l.bounds hn
  have ha : (addr + 4 * BitVec.ofNat 32 k).toNat = addr.toNat + 4 * k := by
    simp only [BitVec.toNat_add, BitVec.toNat_mul, BitVec.toNat_ofNat, BitVec.reduceToNat]
    omega
  rw [AddressSlice.ptr, AddressSlice.ptr, Ptr.advance_advance, ha]
  congr 1
  omega

-- The words in front of the last one, and those behind the first one.

theorem init (l : LiesIn as memory slice addr (n + 1)) : LiesIn as memory slice addr n where
  noWrap   := by have := l.noWrap; omega
  words    := fun k hk => l.words k (by omega)
  writable := l.writable
  buffer   := l.buffer

theorem tail (l : LiesIn as memory slice addr (n + 1)) : LiesIn as memory slice (addr + 4) n where
  noWrap := by
    have ⟨_, _⟩ := l.bounds (Nat.succ_pos n)
    have := toNat_addr l.noWrap (show 0 < n + 1 by omega)
    simp only [BitVec.toNat_add, BitVec.reduceToNat]
    omega
  words := fun k hk => by
    have hw := l.words (k + 1) (by omega)
    rwa [addr_succ] at hw
  writable := l.writable
  buffer   := l.buffer

theorem overwrite (l : LiesIn as memory slice addr n) (hv : memory.Valid p bs.length) :
    LiesIn as (memory.overwrite p bs) slice addr n where
  noWrap   := l.noWrap
  words    := l.words
  writable := l.writable
  buffer   := Heap.overwrite_valid_iff hv |>.mpr l.buffer

theorem write32_eq (l : LiesIn as memory slice addr n) (hk : k < n) :
    as.write32 memory (addr + 4 * BitVec.ofNat 32 k) v = .ok
      (memory.overwrite ((slice.ptr addr).advance (4 * k)) (Bytes.ofNat 4 v.toNat)) := by
  rw [write32, writeN]
  simp only [l.words k hk, l.writable, l.ptr_add hk.le (Nat.zero_lt_of_lt hk), or_true, if_true]
  exact Heap.store_eq_ok <| l.valid_word hk

-- The first word.

theorem ptr_add_four (l : LiesIn as memory slice addr (n + 1)) :
    slice.ptr (addr + 4) = (slice.ptr addr).advance 4 := by
  have hp := l.ptr_add (show 1 ≤ n + 1 by omega) (Nat.succ_pos n)
  rwa [addr_one] at hp

theorem write32_head (l : LiesIn as memory slice addr (n + 1)) :
    as.write32 memory addr v =
      .ok (memory.overwrite (slice.ptr addr) (Bytes.ofNat 4 v.toNat)) := by
  have hw := l.write32_eq (v := v) (Nat.succ_pos n)
  rwa [addr_zero] at hw

theorem read32_eq (l : LiesIn as memory slice addr n) (hk : k < n)
    (h : memory.load ((slice.ptr addr).advance (4 * k)) 4 = .ok (Bytes.ofNat 4 v.toNat)) :
    as.read32 memory (addr + 4 * BitVec.ofNat 32 k) = .ok v := by
  rw [read32, readN]
  simp only [l.words k hk, l.ptr_add hk.le (Nat.zero_lt_of_lt hk), or_true, if_true]
  change (memory.load _ 4 >>= _) = _
  rw [h]
  change Except.ok (BitVec.ofNat 32 (Bytes.toNat _)) = _
  have hv : v.toNat % 256 ^ 4 = v.toNat := Nat.mod_eq_of_lt v.isLt
  rw [Bytes.toNat_ofNat, hv, BitVec.ofNat_toNat, BitVec.setWidth_eq]

end LiesIn
