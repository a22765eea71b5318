import Thumb2Sim.Emulation.Theorems.Callbacks

open Program Emu

variable {U : Type}

-- The calls of the functions that the host has installed.
inductive HostCall (host : Callbacks U) : ∀ {α : Type}, (EmuCtx U → EmuCtx U × α) → Prop
  | bkpt {bkpt : EmuCtx U → Byte → EmuCtx U} (imm : Byte) :
    host.bkptCallback = some bkpt → HostCall host fun ctx => (bkpt ctx imm, ())
  | read {read : EmuCtx U → Option HostPtr → Word → EmuCtx U × Word} (data : Option HostPtr)
    (length : Word) :
    host.emulatorSyscallRead = some read → HostCall host fun ctx => read ctx data length
  | write {write : EmuCtx U → Option HostPtr → Word → EmuCtx U} (data : Option HostPtr)
    (length : Word) :
    host.emulatorSyscallWrite = some write → HostCall host fun ctx => (write ctx data length, ())
  | puts {puts : EmuCtx U → Option HostPtr → EmuCtx U} (data : Option HostPtr) :
    host.emulatorSyscallPuts = some puts → HostCall host fun ctx => (puts ctx data, ())
  | exit {exit : EmuCtx U → Word → EmuCtx U} (status : Word) :
    host.emulatorSyscallExit = some exit → HostCall host fun ctx => (exit ctx status, ())

-- The functions of the host leave a part of the context as it is.
def Callbacks.Preserve {β : Type} (host : Callbacks U) (part : EmuCtx U → β) : Prop :=
  ∀ (α : Type) (f : EmuCtx U → EmuCtx U × α), HostCall host f → ∀ ctx, part (f ctx).1 = part ctx

theorem noHost_preserve {β : Type} (part : EmuCtx U → β) : noHost.Preserve part :=
  fun _ _ hf _ => by cases hf <;> contradiction

-- What an operation does to the state, apart from calls of the host: it changes registers, the
-- status register and memory, and PC only between values with the property `good`.
structure Effect (good : Word → Prop) (s s' : InsnEmuCtx U) : Prop where
  shiftInsnItState : s'.shiftInsnItState = s.shiftInsnItState
  itCond           : s'.emuCtx.cpu.itCond = s.emuCtx.cpu.itCond
  itState          : s'.emuCtx.cpu.itState = s.emuCtx.cpu.itState
  addrSpace        : s'.emuCtx.addrSpace = s.emuCtx.addrSpace
  pc               : good s.emuCtx.pc → good s'.emuCtx.pc
  memory           : ∀ q, (∀ address length, ¬s.emuCtx.addrSpace.Writes address length q) →
    s'.emuCtx.memory.cell q = s.emuCtx.memory.cell q

namespace Effect

variable {good : Word → Prop} {s s' : InsnEmuCtx U}

theorem refl (s : InsnEmuCtx U) : Effect good s s :=
  ⟨rfl, rfl, rfl, rfl, id, fun _ _ => rfl⟩

theorem of_setReg {r : RegNo} {v : Word} {u : Unit} (hv : r = regPc → good v)
    (h : setReg r v s = .ok (u, s')) : Effect good s s' := by
  unfold setReg at h
  split at h
  case isFalse => cases h
  case isTrue hr =>
    cases h
    refine ⟨rfl, rfl, rfl, rfl, fun hg => ?_, fun _ _ => rfl⟩
    simp only [EmuCtx.setReg, EmuCtx.pc, Function.update_apply]
    split
    case isTrue he =>
      have hr : r.toNat = 15 := congrArg Fin.val he.symm
      exact hv <| BitVec.eq_of_toNat_eq hr
    case isFalse => exact hg

theorem of_load {α : Type} {f : Addrspace → HostMemory → Except Undefined α} {a : α}
    (h : load f s = .ok (a, s')) : Effect good s s' := by
  simp only [load, bind, Except.bind] at h
  split at h <;> cases h
  exact refl s

theorem of_writeN {address length value : Word} {u : Unit}
    (h : store (fun as memory => as.writeN memory address length value) s = .ok (u, s')) :
    Effect good s s' := by
  simp only [store, bind, Except.bind] at h
  split at h <;> cases h
  case h_2 hw => exact ⟨rfl, rfl, rfl, rfl, id, fun _ hq => Addrspace.writeN_cell hw (hq _ _)⟩

end Effect

-- The operations that the handlers which may call the host are put together from.
inductive Operation (host : Callbacks U) (good : Word → Prop) :
    ∀ {α : Type}, Emu U α → (α → Prop) → Prop
  | prim {α : Type} {m : Emu U α} {Q : α → Prop} : Prim good m Q → Operation host good m Q
  | memptr (address length : Word) : Operation host good (memptr address length) fun _ => True
  | call {α : Type} {f : EmuCtx U → EmuCtx U × α} :
    HostCall host f → Operation host good (callHost f) fun _ => True

section

variable {host : Callbacks U} {good : Word → Prop}

theorem Prim.effect {α : Type} {m : Emu U α} {Q : α → Prop} (hm : Prim good m Q)
    {s s' : InsnEmuCtx U} {c : α} (h : m s = .ok (c, s')) :
    Effect good s s' ∧ (good s.emuCtx.pc → Q c) := by
  cases hm
  case getReg r =>
    unfold Emu.getReg at h
    split at h <;> cases h
    exact ⟨.refl s, fun hg hr => by subst hr; exact hg⟩
  case setReg hv => exact ⟨.of_setReg hv h, fun _ => trivial⟩
  case getPsr => cases h; exact ⟨.refl s, fun _ => trivial⟩
  case getItState => cases h; exact ⟨.refl s, fun _ => trivial⟩
  case setPsr => cases h; exact ⟨⟨rfl, rfl, rfl, rfl, id, fun _ _ => rfl⟩, fun _ => trivial⟩
  case setAdvancePc => cases h; exact ⟨⟨rfl, rfl, rfl, rfl, id, fun _ _ => rfl⟩, fun _ => trivial⟩
  case read8 => exact ⟨.of_load h, fun _ => trivial⟩
  case read16 => exact ⟨.of_load h, fun _ => trivial⟩
  case read32 => exact ⟨.of_load h, fun _ => trivial⟩
  case write8 => exact ⟨.of_writeN h, fun _ => trivial⟩
  case write16 => exact ⟨.of_writeN h, fun _ => trivial⟩
  case write32 => exact ⟨.of_writeN h, fun _ => trivial⟩
  case checked x =>
    cases x
    case error => cases h
    case ok => cases h; exact ⟨.refl s, fun _ => rfl⟩

theorem Prim.keeps {α : Type} {m : Emu U α} {Q : α → Prop} {I : InsnEmuCtx U → Prop}
    (hg : ∀ s, I s → good s.emuCtx.pc) (he : ∀ s s', Effect good s s' → I s → I s')
    (hm : Prim good m Q) : Keeps I m Q :=
  fun s _ s' hs h => ⟨he s s' (hm.effect h).left hs, (hm.effect h).right <| hg s hs⟩

-- The status register and PC have the properties of the guard.
structure Guard.Holds (g : Guard) (s : InsnEmuCtx U) : Prop where
  pc      : g.pc s.emuCtx.pc
  psr     : g.psr s.emuCtx.cpu.psr
  itState : g.itState s.emuCtx.cpu.itState

theorem GuardedPrim.keeps {α : Type} {g : Guard} {m : Emu U α} {Q : α → Prop}
    (hm : GuardedPrim g m Q) : Keeps g.Holds m Q := by
  intro s c s' hs h
  cases hm
  case of_prim hk hm =>
    have ⟨he, hq⟩ := hm.effect h
    have ⟨hp, hi⟩ := hk s c s' h
    exact ⟨⟨he.pc hs.pc, hp ▸ hs.psr, hi ▸ hs.itState⟩, hq hs.pc⟩
  case getPsr     => cases h; exact ⟨hs, hs.psr⟩
  case setPsr hp  => cases h; exact ⟨⟨hs.pc, hp, hs.itState⟩, trivial⟩
  case getItState => cases h; exact ⟨hs, hs.itState⟩

theorem Guarded.keeps {α : Type} {g : Guard} {m : Emu U α} (h : Guarded g m) :
    Keeps g.Holds m fun _ => True :=
  Composite.keeps GuardedPrim.keeps h

theorem Operation.keeps {α : Type} {m : Emu U α} {Q : α → Prop} {I : InsnEmuCtx U → Prop}
    (hg : ∀ s, I s → good s.emuCtx.pc) (he : ∀ s s', Effect good s s' → I s → I s')
    (hc : ∀ {α} (f : EmuCtx U → EmuCtx U × α), HostCall host f → ∀ s, I s →
      I { s with emuCtx := (f s.emuCtx).1 })
    (hm : Operation host good m Q) : Keeps I m Q := by
  cases hm
  case prim hm => exact hm.keeps hg he
  case memptr  => intro s _ s' hs h; cases h; exact ⟨hs, trivial⟩
  case call hf => intro s _ s' hs h; cases h; exact ⟨hc _ hf s hs, trivial⟩

theorem Operation.of_plain {m : Emu U Unit} (h : Plain good m) :
    Composite (Operation host good) m fun _ => True :=
  h.mono .prim

theorem Operation.whenInstalled {α : Type} {f : Option α} {call : α → Emu U Unit}
    (h : ∀ g, f = some g → Composite (Operation host good) (call g) fun _ => True) :
    Composite (Operation host good) (whenInstalled f call) fun _ => True := by
  cases f
  case none   => exact .pure trivial
  case some g => exact h g rfl

theorem Operation.syscall {syscallNo dataPtr length : Word} :
    Composite (Operation host good) (Emulation.syscall host syscallNo dataPtr length)
      fun _ => True := by
  refine .ite (fun _ => whenInstalled fun read hr => ?read) fun _ =>
    .ite (fun _ => whenInstalled fun write hw => ?write) fun _ =>
    .ite (fun _ => whenInstalled fun puts hp => ?puts) fun _ =>
    .ite (fun _ => whenInstalled fun exit he => ?exit) fun _ => .pure trivial
  case read =>
    refine .bind (.prim <| .memptr _ _) fun data _ => .bind (.prim <| .call <| .read _ _ hr) ?_
    exact fun n _ => .prim <| .prim <| .setReg fun h => absurd h (by decide)
  case write => exact .bind (.prim <| .memptr _ _) fun _ _ => .prim <| .call <| .write _ _ hw
  case puts  => exact .bind (.prim <| .memptr _ _) fun _ _ => .prim <| .call <| .puts _ hp
  case exit  => exact .prim <| .call <| .exit _ he

theorem Operation.i16BkptT1 {imm : Byte} :
    Composite (Operation host good) (Emulation.i16BkptT1 host imm) fun _ => True := by
  refine .bind (whenInstalled fun bkpt hb => .prim <| .call <| .bkpt imm hb) fun _ _ => ?_
  refine .when fun _ => ?_
  exact .bind (.prim <| .prim <| .getReg 0) fun _ _ => .bind (.prim <| .prim <| .getReg 1)
    fun _ _ => .bind (.prim <| .prim <| .getReg 2) fun _ _ => syscall

variable {v : Variant} {a : Args} {handler : Args → Emu U Unit}

-- All handlers but the one of `it_T1` are put together from these operations.
theorem Operation.emulationCallbacks (hg : Stable good) (hi : v ≠ .itT1)
    (hh : emulationCallbacks host v = some handler) (h : Allowed good (destinations v a)) :
    Composite (Operation host good) (handler a) fun _ => True := by
  by_cases hb : v = .bkptT1
  case pos =>
    subst hb
    cases hh
    exact i16BkptT1
  case neg => exact of_plain <| .emulationCallbacks hg hi hb hh h

end
