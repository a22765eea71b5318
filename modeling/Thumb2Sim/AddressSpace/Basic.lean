import Thumb2Sim.Lib.Bytes
import Thumb2Sim.Lib.Heap

abbrev Byte :=
  BitVec 8

abbrev Word :=
  BitVec 32

-- The memory of the host process. Its allocations are numbered.
abbrev HostMemory :=
  Heap Nat Byte

abbrev HostPtr :=
  Ptr Nat

structure AddressSlice where
  beginAddr     : Word
  endAddr       : Word
  data          : HostPtr
  readOnly      : Bool
  shadowMapping : Bool
deriving DecidableEq

-- The host pointer for a guest address that is not below the slice. `memptr` adds the difference
-- `address - begin` to `data`, whereas `readN` and `writeN` add `address` first and then subtract
-- `begin`. Both are the same number of bytes behind `data`.
def AddressSlice.ptr (slice : AddressSlice) (address : Word) : HostPtr :=
  slice.data.advance (address.toNat - slice.beginAddr.toNat)

def maxAddressSlices : Nat :=
  4

-- The first `slice_cnt` entries of the array of slices.
structure Addrspace where
  slices     : List AddressSlice
  length_le  : slices.length ≤ maxAddressSlices

namespace Addrspace

def init : Addrspace where
  slices    := []
  length_le := by simp

-- The process exits if the slices are exhausted.
def addRegion (as : Addrspace) (startAddr length : Word) (data : HostPtr)
    (readOnly shadowMapping : Bool) : Option Addrspace :=
  if h : as.slices.length = maxAddressSlices then
    none
  else
    some {
      slices := as.slices ++ [{
        beginAddr     := startAddr
        endAddr       := startAddr + length
        data          := data
        readOnly      := readOnly
        shadowMapping := shadowMapping
      }]
      length_le := by
        have := as.length_le
        simp
        omega
    }

def getslice (as : Addrspace) (address length : Word) : Option AddressSlice :=
  as.slices.find? fun slice =>
    slice.beginAddr ≤ address && address + length - 1 < slice.endAddr

def memptr (as : Addrspace) (address length : Word) : Option HostPtr :=
  (as.getslice address length).map (·.ptr address)

def readN (as : Addrspace) (memory : HostMemory) (address length : Word) : Except Undefined Word :=
  match as.getslice address length with
  | some slice =>
    if length = 1 ∨ length = 2 ∨ length = 4 then do
      let bytes ← memory.load (slice.ptr address) length.toNat
      return BitVec.ofNat 32 (Bytes.toNat bytes)
    else
      .ok 0
  | none => .ok 0

def writeN (as : Addrspace) (memory : HostMemory) (address length value : Word) :
    Except Undefined HostMemory :=
  match as.getslice address length with
  | some slice =>
    if slice.readOnly then
      .ok memory
    else if length = 1 ∨ length = 2 ∨ length = 4 then
      memory.store (slice.ptr address) (Bytes.ofNat length.toNat value.toNat)
    else
      .ok memory
  | none => .ok memory

variable (as : Addrspace) (memory : HostMemory) (address : Word)

def read8 : Except Undefined Byte := do
  return (← as.readN memory address 1).setWidth 8

def read16 : Except Undefined (BitVec 16) := do
  return (← as.readN memory address 2).setWidth 16

def read32 : Except Undefined Word :=
  as.readN memory address 4

def write8 (value : Byte) : Except Undefined HostMemory :=
  as.writeN memory address 1 (value.setWidth 32)

def write16 (value : BitVec 16) : Except Undefined HostMemory :=
  as.writeN memory address 2 (value.setWidth 32)

def write32 (value : Word) : Except Undefined HostMemory :=
  as.writeN memory address 4 value

variable {as memory address} {length value : Word} {slice : AddressSlice} {memory' : HostMemory}

theorem getslice_some (h : as.getslice address length = some slice) :
    slice ∈ as.slices ∧ slice.beginAddr ≤ address ∧ address + length - 1 < slice.endAddr := by
  have hp := List.find?_some h
  simp only [Bool.and_eq_true, decide_eq_true_eq] at hp
  exact ⟨List.mem_of_find?_eq_some h, hp⟩

theorem writeN_of_none (h : as.getslice address length = none) :
    as.writeN memory address length value = .ok memory := by
  simp [writeN, h]

theorem writeN_of_readOnly (h : as.getslice address length = some slice) (hr : slice.readOnly) :
    as.writeN memory address length value = .ok memory := by
  simp [writeN, h, hr]

-- Accesses go wrong in one way only.

theorem readN_error {e : Undefined} (h : as.readN memory address length = .error e) :
    e = .access := by
  unfold readN Heap.load at h
  split at h
  case h_2 => cases h
  case h_1 =>
    split_ifs at h <;> cases h
    rfl

theorem writeN_error {e : Undefined} (h : as.writeN memory address length value = .error e) :
    e = .access := by
  unfold writeN Heap.store at h
  split at h
  case h_2 => cases h
  case h_1 =>
    split_ifs at h
    cases h
    rfl

-- The host addresses that are overwritten if a range of guest addresses is resolved to a slice that
-- may be written to.
def Writes (as : Addrspace) (address length : Word) (q : HostPtr) : Prop :=
  ∃ slice, as.getslice address length = some slice ∧ slice.readOnly = false ∧
    Heap.InRange (slice.ptr address) length.toNat q

-- A write changes no other cell of the memory.
theorem writeN_cell (h : as.writeN memory address length value = .ok memory') {q : HostPtr}
    (hq : ¬as.Writes address length q) : memory'.cell q = memory.cell q := by
  unfold writeN at h
  split at h
  case h_2 => cases h; rfl
  case h_1 slice hs =>
    split at h
    case isTrue => cases h; rfl
    case isFalse hr =>
      split at h
      case isFalse => cases h; rfl
      case isTrue =>
        obtain ⟨hv, rfl⟩ := Heap.store_ok_iff.mp h
        refine Heap.overwrite_cell_of_not_inRange hv fun hi => hq ⟨slice, hs, by simpa using hr, ?_⟩
        rwa [Bytes.ofNat_length] at hi

end Addrspace
