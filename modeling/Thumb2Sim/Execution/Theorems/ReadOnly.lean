import Thumb2Sim.Execution.Theorems.Step

open Program Emu Emulation

namespace AddressSlice

variable {slice : AddressSlice} {address : Word} {n : Nat}

-- The buffer of a slice has a byte for every address of the slice.
def size (slice : AddressSlice) : Nat :=
  (slice.endAddr - slice.beginAddr).toNat

-- The number of the byte of the buffer for an address that is not below the slice.
def index (slice : AddressSlice) (address : Word) : Nat :=
  address.toNat - slice.beginAddr.toNat

-- The `n` bytes from `p` on lie inside of the buffer of the slice.
def Holds (slice : AddressSlice) (p : HostPtr) (n : Nat) : Prop :=
  p.block = slice.data.block ∧ slice.data.offset ≤ p.offset ∧
  p.offset + n ≤ slice.data.offset + slice.size

theorem holds_ptr_iff : slice.Holds (slice.ptr address) n ↔
    slice.index address + n ≤ slice.size := by
  simp only [Holds, ptr, index, Ptr.advance_block, Ptr.advance_offset, true_and]
  omega

end AddressSlice

namespace Addrspace

variable {as : Addrspace} {q : HostPtr} {address length : Word}

theorem holds_ptr {slice : AddressSlice} (h : as.getslice address length = some slice)
    (hw : address.toNat + length.toNat ≤ 2 ^ 32 ∨ slice.endAddr < slice.beginAddr) :
    slice.Holds (slice.ptr address) length.toNat := by
  have ⟨_, hb, he⟩ := getslice_some h
  rw [BitVec.le_def] at hb
  rw [BitVec.lt_def, BitVec.toNat_sub, BitVec.toNat_add] at he
  have h₁ : (1 : Word).toNat = 1 := rfl
  rw [h₁] at he
  rw [BitVec.lt_def] at hw
  have := address.isLt
  have := length.isLt
  have := slice.endAddr.isLt
  have := slice.beginAddr.isLt
  rw [AddressSlice.holds_ptr_iff, AddressSlice.size, AddressSlice.index, BitVec.toNat_sub]
  omega

end Addrspace

variable {U : Type}

namespace Callbacks

-- The context in which a system call is made.
def afterBkpt (host : Callbacks U) (ctx : EmuCtx U) (imm : Byte) : EmuCtx U :=
  match host.bkptCallback with
  | some bkpt => bkpt ctx imm
  | none      => ctx

end Callbacks

section

variable {host : Callbacks U} {ctx ctx' : EmuCtx U} {s s' : InsnEmuCtx U} {q : HostPtr}
  {imm : Byte} {r : Nat → EmuCtx U} {n : Nat}

-- The slices and the cell `q` are as they were.
structure KeepsCell (q : HostPtr) (ctx ctx' : EmuCtx U) : Prop where
  addrSpace : ctx'.addrSpace = ctx.addrSpace
  cell      : ctx'.memory.cell q = ctx.memory.cell q

theorem KeepsCell.trans {ctx'' : EmuCtx U} (h : KeepsCell q ctx ctx')
    (h' : KeepsCell q ctx' ctx'') : KeepsCell q ctx ctx'' :=
  ⟨h'.addrSpace.trans h.addrSpace, h'.cell.trans h.cell⟩

theorem i16BkptT1_eq {t : InsnEmuCtx U}
    (ht : t = { s with emuCtx := host.afterBkpt s.emuCtx imm }) :
    i16BkptT1 host imm s =
      if imm = 255 then
        syscall host (t.emuCtx.cpu.reg 0) (t.emuCtx.cpu.reg 1) (t.emuCtx.cpu.reg 2) t
      else
        .ok ((), t) := by
  have hw : whenInstalled host.bkptCallback (fun bkpt => callHost' fun ctx => bkpt ctx imm) s =
      .ok ((), t) := by
    rw [ht, Callbacks.afterBkpt]
    cases host.bkptCallback <;> rfl
  rw [i16BkptT1, bind_of_ok hw]
  by_cases hi : imm = 255 <;>
    simp only [hi, when, decide_true, decide_false, if_true, if_false] <;> rfl

end

-- A host whose input consists of bytes 0xff.
def fill (ctx : EmuCtx Unit) (data : Option HostPtr) (length : Word) : EmuCtx Unit × Word :=
  match data.map fun p => ctx.memory.store p (List.replicate length.toNat 0xff) with
  | some (.ok memory) => ({ ctx with memory := memory }, length)
  | _                 => (ctx, 0)

def fillHost : Callbacks Unit :=
  { noHost with emulatorSyscallRead := some fill }
