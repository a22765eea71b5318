import Thumb2Sim.Execution.Theorems.ReadOnly

open Program Emu Emulation

variable {U : Type}

-- There is a NUL byte from `p` on before the end of the buffer.
def AddressSlice.HoldsString (slice : AddressSlice) (memory : HostMemory) (p : HostPtr) : Prop :=
  ∃ n, slice.Holds p (n + 1) ∧ memory.cell (p.advance n) = some 0

-- A call of a function of the host that is handed a pointer.
inductive HostRequest
  | read (data : Option HostPtr) (length : Word)
  | write (data : Option HostPtr) (length : Word)
  | puts (data : Option HostPtr)

def HostRequest.Valid (ctx : EmuCtx U) : HostRequest → Prop
  | read data length | write data length =>
    ∃ p, data = some p ∧ ∃ slice ∈ ctx.addrSpace.slices, slice.Holds p length.toNat
  | puts data =>
    ∃ p, data = some p ∧ ∃ slice ∈ ctx.addrSpace.slices, slice.HoldsString ctx.memory p

-- The calls, each with the context in which it is made.
abbrev HostLog (U : Type) :=
  List (EmuCtx U × HostRequest)

namespace EmuCtx

def withUser {V : Type} (ctx : EmuCtx U) (user : V) : EmuCtx V where
  cpu            := ctx.cpu
  addrSpace      := ctx.addrSpace
  memory         := ctx.memory
  ivtBaseAddress := ctx.ivtBaseAddress
  user           := user

def logged (ctx : EmuCtx U) (log : HostLog U) : EmuCtx (U × HostLog U) :=
  ctx.withUser (ctx.user, log)

def unlogged (ctx : EmuCtx (U × HostLog U)) : EmuCtx U :=
  ctx.withUser ctx.user.1

def log (ctx : EmuCtx (U × HostLog U)) : HostLog U :=
  ctx.user.2

end EmuCtx

-- The same host with a log of the calls.
def Callbacks.recording (host : Callbacks U) : Callbacks (U × HostLog U) where
  bkptCallback         := host.bkptCallback.map fun bkpt ctx imm =>
    (bkpt ctx.unlogged imm).logged ctx.log
  emulatorSyscallRead  := host.emulatorSyscallRead.map fun read ctx data length =>
    let (ctx', n) := read ctx.unlogged data length
    (ctx'.logged <| ctx.log ++ [(ctx.unlogged, .read data length)], n)
  emulatorSyscallWrite := host.emulatorSyscallWrite.map fun write ctx data length =>
    (write ctx.unlogged data length).logged <| ctx.log ++ [(ctx.unlogged, .write data length)]
  emulatorSyscallPuts  := host.emulatorSyscallPuts.map fun puts ctx data =>
    (puts ctx.unlogged data).logged <| ctx.log ++ [(ctx.unlogged, .puts data)]
  emulatorSyscallExit  := host.emulatorSyscallExit.map fun exit ctx status =>
    (exit ctx.unlogged status).logged ctx.log
  signedOverflow       := host.signedOverflow

-- The byte `i` of the buffer of the slice is the byte `i + k` of the one of the other slice.
def AddressSlice.Overlays (slice other : AddressSlice) (k : Int) : Prop :=
  other.data.block = slice.data.block ∧ slice.data.offset = other.data.offset + k

namespace Addrspace

variable {as : Addrspace} {memory : HostMemory} {address length : Word} {slice : AddressSlice}

-- The first one of the slices that the range is taken for a part of.
structure IsFirst (as : Addrspace) (address length : Word) (slice : AddressSlice) : Prop where
  includes : slice.beginAddr ≤ address ∧ address + length - 1 < slice.endAddr
  first    : ∃ before after, as.slices = before ++ slice :: after ∧ ∀ other ∈ before,
    ¬(other.beginAddr ≤ address ∧ address + length - 1 < other.endAddr)

-- There is such a slice, and the range does not reach over the end of the address space, unless the
-- slice does or is registered over a part of the buffer of another one that has room for the bytes.
def FindsBuffer (as : Addrspace) (address length : Word) : Prop :=
  ∃ slice, as.IsFirst address length slice ∧
    (address.toNat + length.toNat ≤ 2 ^ 32 ∨ slice.endAddr < slice.beginAddr ∨
      ∃ other ∈ as.slices, ∃ k, slice.Overlays other k ∧ 0 ≤ slice.index address + k ∧
        slice.index address + k + length.toNat ≤ other.size)

-- There is such a slice, and at the address or behind it there is a NUL byte that is not behind the
-- end of the buffer, or of the one of another slice that lies over it.
def FindsString (as : Addrspace) (memory : HostMemory) (address length : Word) : Prop :=
  ∃ slice, as.IsFirst address length slice ∧ ∃ n : Nat,
    memory.cell (slice.data.advance (slice.index address + n)) = some 0 ∧
    (slice.index address + n < slice.size ∨
      ∃ other ∈ as.slices, ∃ k, slice.Overlays other k ∧ 0 ≤ slice.index address + k ∧
        slice.index address + k + n < other.size)

theorem getslice_eq_some_iff :
    as.getslice address length = some slice ↔ as.IsFirst address length slice := by
  unfold getslice
  rw [List.find?_eq_some_iff_append]
  simp only [Bool.and_eq_true, decide_eq_true_eq, Bool.not_eq_eq_eq_not, Bool.not_true,
    Bool.and_eq_false_iff, decide_eq_false_iff_not, ← not_and_or]
  exact ⟨fun ⟨hm, hf⟩ => ⟨hm, hf⟩, fun ⟨hm, hf⟩ => ⟨hm, hf⟩⟩

-- The place of a pointer in the buffer of another slice.
theorem holds_ptr_iff_overlays {other : AddressSlice} {n : Nat} :
    other.Holds (slice.ptr address) n ↔ ∃ k, slice.Overlays other k ∧
      0 ≤ slice.index address + k ∧ slice.index address + k + n ≤ other.size := by
  simp only [AddressSlice.Holds, AddressSlice.ptr, AddressSlice.Overlays, AddressSlice.index,
    Ptr.advance_block, Ptr.advance_offset]
  constructor
  case mp =>
    intro h
    obtain ⟨hb, hl, hn⟩ := h
    exact ⟨slice.data.offset - other.data.offset, ⟨hb.symm, by omega⟩, by omega, by omega⟩
  case mpr =>
    intro h
    obtain ⟨k, ⟨hb, hk⟩, hl, hn⟩ := h
    exact ⟨hb.symm, by omega, by omega⟩

theorem findsBuffer_iff :
    (∃ p, as.memptr address length = some p ∧ ∃ slice ∈ as.slices, slice.Holds p length.toNat) ↔
    as.FindsBuffer address length := by
  constructor
  case mp =>
    intro h
    obtain ⟨p, hp, other, ho, hh⟩ := h
    obtain ⟨slice, h, rfl⟩ := Option.map_eq_some_iff.mp hp
    exact ⟨slice, getslice_eq_some_iff.mp h, .inr <| .inr ⟨other, ho, holds_ptr_iff_overlays.mp hh⟩⟩
  case mpr =>
    intro h
    obtain ⟨slice, h, hw⟩ := h
    replace h := getslice_eq_some_iff.mpr h
    refine ⟨slice.ptr address, by simp [memptr, h], ?_⟩
    rw [← or_assoc] at hw
    cases hw
    case inl hw => exact ⟨slice, (getslice_some h).left, holds_ptr h hw⟩
    case inr ho =>
      obtain ⟨other, ho, hk⟩ := ho
      exact ⟨other, ho, holds_ptr_iff_overlays.mpr hk⟩

theorem findsString_iff :
    (∃ p, as.memptr address length = some p ∧
      ∃ slice ∈ as.slices, slice.HoldsString memory p) ↔
    as.FindsString memory address length := by
  have ha (slice : AddressSlice) (n : Nat) : (slice.ptr address).advance n =
      slice.data.advance (slice.index address + n) := by
    rw [AddressSlice.ptr, Ptr.advance_advance, AddressSlice.index]
  constructor
  case mp =>
    intro h
    obtain ⟨p, hp, other, ho, n, hh, hz⟩ := h
    obtain ⟨slice, h, rfl⟩ := Option.map_eq_some_iff.mp hp
    obtain ⟨k, hk, hl, hn⟩ := holds_ptr_iff_overlays.mp hh
    refine ⟨slice, getslice_eq_some_iff.mp h, n, ha slice n ▸ hz, .inr ⟨other, ho, k, hk, hl, ?_⟩⟩
    omega
  case mpr =>
    intro h
    obtain ⟨slice, h, n, hz, hn⟩ := h
    replace h := getslice_eq_some_iff.mpr h
    refine ⟨slice.ptr address, by simp [memptr, h], ?_⟩
    cases hn
    case inl hn =>
      refine ⟨slice, (getslice_some h).left, n, AddressSlice.holds_ptr_iff.mpr hn, ?_⟩
      rw [ha, hz]
    case inr ho =>
      obtain ⟨other, ho, k, hk, hl, hn⟩ := ho
      refine ⟨other, ho, n, holds_ptr_iff_overlays.mpr ⟨k, hk, hl, by omega⟩, ?_⟩
      rw [ha, hz]

end Addrspace

namespace EmuCtx

-- The call that `bkpt #255` makes in this context, behind the callback for breakpoints.
def request (host : Callbacks U) (ctx : EmuCtx U) : Option HostRequest :=
  let data := ctx.addrSpace.memptr (ctx.cpu.reg 1) (ctx.cpu.reg 2)
  if ctx.cpu.reg 0 = SyscallGuest.read.number then
    host.emulatorSyscallRead.map fun _ => .read data (ctx.cpu.reg 2)
  else if ctx.cpu.reg 0 = SyscallGuest.write.number then
    host.emulatorSyscallWrite.map fun _ => .write data (ctx.cpu.reg 2)
  else if ctx.cpu.reg 0 = SyscallGuest.puts.number then
    host.emulatorSyscallPuts.map fun _ => .puts data
  else
    none

-- The registers R1 and R2 describe a range of mapped memory, or a string in the mapped memory, if
-- R0 asks for an access to it and the host has installed the function for this.
structure SafeRequest (host : Callbacks U) (ctx : EmuCtx U) : Prop where
  read  : ctx.cpu.reg 0 = SyscallGuest.read.number → host.emulatorSyscallRead.isSome →
    ctx.addrSpace.FindsBuffer (ctx.cpu.reg 1) (ctx.cpu.reg 2)
  write : ctx.cpu.reg 0 = SyscallGuest.write.number → host.emulatorSyscallWrite.isSome →
    ctx.addrSpace.FindsBuffer (ctx.cpu.reg 1) (ctx.cpu.reg 2)
  puts  : ctx.cpu.reg 0 = SyscallGuest.puts.number → host.emulatorSyscallPuts.isSome →
    ctx.addrSpace.FindsString ctx.memory (ctx.cpu.reg 1) (ctx.cpu.reg 2)

variable {host : Callbacks U} {ctx : EmuCtx U}

theorem valid_request_iff :
    (∀ call ∈ ctx.request host, call.Valid ctx) ↔ ctx.SafeRequest host := by
  constructor
  case mp =>
    intro h
    refine ⟨fun hn hi => ?_, fun hn hi => ?_, fun hn hi => ?_⟩ <;>
      obtain ⟨f, hf⟩ := Option.isSome_iff_exists.mp hi
    case refine_1 => exact Addrspace.findsBuffer_iff.mp <| h (.read ..) (by simp [request, hn, hf])
    case refine_2 =>
      refine Addrspace.findsBuffer_iff.mp <| h (.write ..) ?_
      simp [request, hn, hf, SyscallGuest.number]
    case refine_3 =>
      refine Addrspace.findsString_iff.mp <| h (.puts _) ?_
      simp [request, hn, hf, SyscallGuest.number]
  case mpr =>
    intro h call hc
    unfold request at hc
    split_ifs at hc with hr hw hp
    case pos =>
      obtain ⟨f, hf, rfl⟩ := Option.map_eq_some_iff.mp hc
      exact Addrspace.findsBuffer_iff.mpr <| h.read hr (by simp [hf])
    case pos =>
      obtain ⟨f, hf, rfl⟩ := Option.map_eq_some_iff.mp hc
      exact Addrspace.findsBuffer_iff.mpr <| h.write hw (by simp [hf])
    case pos =>
      obtain ⟨f, hf, rfl⟩ := Option.map_eq_some_iff.mp hc
      exact Addrspace.findsString_iff.mpr <| h.puts hp (by simp [hf])
    case neg => cases hc

end EmuCtx

section

variable {host : Callbacks U} {ctx : EmuCtx U} {a : Args} {imm : Byte} {log : HostLog U}

-- The context of an instruction without the log.
def InsnEmuCtx.unlogged (s : InsnEmuCtx (U × HostLog U)) : InsnEmuCtx U where
  emuCtx           := s.emuCtx.unlogged
  countNextInsn    := s.countNextInsn
  shiftInsnItState := s.shiftInsnItState
  advancePc        := s.advancePc

theorem afterBkpt_recording :
    host.recording.afterBkpt (ctx.logged log) imm = (host.afterBkpt ctx imm).logged log := by
  unfold Callbacks.afterBkpt Callbacks.recording
  cases host.bkptCallback <;> rfl

-- A system call adds its request to the log and does otherwise what it does without one.
theorem syscall_recording (host : Callbacks U) {s : InsnEmuCtx (U × HostLog U)} :
    ∃ s', syscall host.recording (s.emuCtx.cpu.reg 0) (s.emuCtx.cpu.reg 1) (s.emuCtx.cpu.reg 2) s =
        .ok ((), s') ∧
      syscall host (s.emuCtx.cpu.reg 0) (s.emuCtx.cpu.reg 1) (s.emuCtx.cpu.reg 2) s.unlogged =
        .ok ((), s'.unlogged) ∧
      s'.emuCtx.log = s.emuCtx.log ++
        (s.emuCtx.unlogged.request host).toList.map (s.emuCtx.unlogged, ·) := by
  have hr : s.emuCtx.unlogged.cpu.reg = s.emuCtx.cpu.reg := rfl
  unfold syscall EmuCtx.request
  rw [hr]
  split_ifs
  case pos =>
    cases hf : host.emulatorSyscallRead <;> simp only [Callbacks.recording, hf]
    case none => exact ⟨s, rfl, rfl, by simp⟩
    case some f => exact ⟨_, rfl, rfl, rfl⟩
  case pos =>
    cases hf : host.emulatorSyscallWrite <;> simp only [Callbacks.recording, hf]
    case none => exact ⟨s, rfl, rfl, by simp⟩
    case some f => exact ⟨_, rfl, rfl, rfl⟩
  case pos =>
    cases hf : host.emulatorSyscallPuts <;> simp only [Callbacks.recording, hf]
    case none => exact ⟨s, rfl, rfl, by simp⟩
    case some f => exact ⟨_, rfl, rfl, rfl⟩
  case pos =>
    cases hf : host.emulatorSyscallExit <;> simp only [Callbacks.recording, hf]
    case none => exact ⟨s, rfl, rfl, by simp⟩
    case some f => exact ⟨_, rfl, rfl, by simp; rfl⟩
  case neg => exact ⟨s, rfl, rfl, by simp⟩

theorem step_recording (host : Callbacks U) (hx : Executes ctx .bkptT1 a)
    (ha : a.uint8 .imm = 255) :
    ∃ ctx', cpuSingleStep host.recording (ctx.logged []) = .ok ctx' ∧
      cpuSingleStep host ctx = .ok ctx'.unlogged ∧
      ctx'.log = ((host.afterBkpt ctx 255).request host).toList.map (host.afterBkpt ctx 255, ·) := by
  obtain ⟨s', hr, hs, hl⟩ := syscall_recording host
    (s := { (ctx.logged []).insnCtx with emuCtx := (host.afterBkpt ctx 255).logged [] })
  have hr' : i16BkptT1 host.recording (a.uint8 .imm) (ctx.logged []).insnCtx = .ok ((), s') := by
    rw [ha, i16BkptT1_eq rfl, if_pos rfl]
    simpa only [EmuCtx.insnCtx, afterBkpt_recording] using hr
  have hs' : i16BkptT1 host (a.uint8 .imm) ctx.insnCtx = .ok ((), s'.unlogged) := by
    rw [ha, i16BkptT1_eq rfl, if_pos rfl]
    exact hs
  obtain ⟨he, w, o, hw, ho, hv, hargs⟩ := hx
  refine ⟨s'.finish o.length, ?_, ?_, hl⟩
  case refine_1 =>
    have hw' : (ctx.logged []).insnWord = .ok w := hw
    exact cpuSingleStep_of_handler he hw' ho hargs (by rw [hv]; rfl) hr'
  case refine_2 => exact cpuSingleStep_of_handler he hw ho hargs (by rw [hv]; rfl) hs'

-- The functions of the host get valid pointers from `bkpt #255` if and only if the guest asks for a
-- range of mapped memory, or for a string in it, that does not reach over the end.
theorem syscalls_valid_iff (host : Callbacks U) (hx : Executes ctx .bkptT1 a)
    (ha : a.uint8 .imm = 255) :
    ∃ ctx', cpuSingleStep host.recording (ctx.logged []) = .ok ctx' ∧
      cpuSingleStep host ctx = .ok ctx'.unlogged ∧
      ((∀ call ∈ ctx'.log, call.2.Valid call.1) ↔ (host.afterBkpt ctx 255).SafeRequest host) := by
  have ⟨ctx', hr, hs, hl⟩ := step_recording host hx ha
  refine ⟨ctx', hr, hs, ?_⟩
  rw [← EmuCtx.valid_request_iff, hl]
  simp

end

-- The program `bkpt #255` with a system call for a buffer.
def bkptProgram (syscallNo data length : Word) : EmuCtx Unit :=
  (smallMachine [0xff, 0xbe]).setReg 0 syscallNo |>.setReg 1 data |>.setReg 2 length

theorem executes_bkptProgram (syscallNo data length : Word) :
    ∃ a, Executes (bkptProgram syscallNo data length) .bkptT1 a ∧ a.uint8 .imm = 255 := by
  have ⟨a, hx⟩ : ∃ a, Executes (smallMachine [0xff, 0xbe]) .bkptT1 a :=
    exists_executes (by decide +kernel) (by decide +kernel)
  have hi : (smallMachine [0xff, 0xbe]).nextInsn.all fun p => p.2.uint8 .imm = 255 := by
    decide +kernel
  exact ⟨a, ⟨hx.exec, hx.insn⟩, of_decide_eq_true <| hx.of_nextInsn hi⟩

-- Four bytes at the beginning of the RAM are read.
theorem syscalls_valid_iff_ram :
    ∃ ctx', cpuSingleStep fillHost (bkptProgram 0 0x20000000 4) = .ok ctx'.unlogged ∧
      ∀ call ∈ EmuCtx.log ctx', call.2.Valid call.1 := by
  have ⟨a, hx, ha⟩ := executes_bkptProgram 0 0x20000000 4
  have ⟨ctx', _, hs, hv⟩ := syscalls_valid_iff fillHost hx ha
  refine ⟨ctx', hs, hv.mpr ⟨fun _ _ => ?_, fun h => ?_, fun h => ?_⟩⟩
  case refine_1 => exact ⟨_, Addrspace.getslice_eq_some_iff.mp rfl, .inl <| by decide⟩
  case refine_2 => exact absurd h (by decide)
  case refine_3 => exact absurd h (by decide)

-- There is no memory at the address 0x10000000, and the host is asked to read to NULL.
theorem not_forall_syscalls_valid :
    ¬∀ (host : Callbacks Unit) (ctx : EmuCtx Unit) (a : Args), Executes ctx .bkptT1 a →
      a.uint8 .imm = 255 → ∀ ctx', cpuSingleStep host.recording (ctx.logged []) = .ok ctx' →
      ∀ call ∈ ctx'.log, call.2.Valid call.1 := by
  intro h
  obtain ⟨a, hx, ha⟩ := executes_bkptProgram 0 0x10000000 4
  obtain ⟨ctx', hr, _, hl⟩ := step_recording fillHost hx ha
  have hv := h fillHost _ a hx ha ctx' hr
  rw [hl] at hv
  obtain ⟨_, hp, _⟩ := hv _ <| .head _
  cases hp
