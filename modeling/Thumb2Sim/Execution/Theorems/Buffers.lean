import Thumb2Sim.Execution.Theorems.ReadOnly

open Program Emu

variable {U : Type}

-- The slices are the same, and so is the size of every buffer of the host.
structure SameLayout (ctx ctx' : EmuCtx U) : Prop where
  addrSpace : ctx'.addrSpace = ctx.addrSpace
  length    : ∀ b, (ctx'.memory b).length = (ctx.memory b).length

-- The functions of the host may write to the buffers, but they do not replace them by others.
structure Callbacks.KeepLayout (host : Callbacks U) : Prop where
  addrSpace : host.Preserve EmuCtx.addrSpace
  length    : ∀ b, host.Preserve fun ctx => (ctx.memory b).length

namespace SameLayout

variable {ctx ctx' ctx'' : EmuCtx U} {address length value : Word}

theorem refl (ctx : EmuCtx U) : SameLayout ctx ctx :=
  ⟨rfl, fun _ => rfl⟩

theorem trans (h : SameLayout ctx ctx') (h' : SameLayout ctx' ctx'') : SameLayout ctx ctx'' :=
  ⟨h'.addrSpace.trans h.addrSpace, fun b => (h'.length b).trans (h.length b)⟩

theorem of_eq (hs : ctx'.addrSpace = ctx.addrSpace) (hm : ctx'.memory = ctx.memory) :
    SameLayout ctx ctx' :=
  ⟨hs, fun b => by rw [hm]⟩

theorem valid_iff (h : SameLayout ctx ctx') (p : HostPtr) (n : Nat) :
    ctx'.memory.Valid p n ↔ ctx.memory.Valid p n := by
  rw [Heap.Valid, Heap.Valid, h.length]

-- An access is within the bounds of the buffer or not, whatever has been written to it.

end SameLayout

section

variable {host : Callbacks U} {good : Word → Prop} {α : Type} {m : Emu U α} {Q : α → Prop}
  {ctx ctx' : EmuCtx U} {s s' : InsnEmuCtx U} {r : Nat → EmuCtx U} {n : Nat}

theorem sameLayout_of_writeN {address length value : Word} {u : Unit}
    (h : store (fun as memory => as.writeN memory address length value) s = .ok (u, s')) :
    SameLayout s.emuCtx s'.emuCtx := by
  simp only [store, bind, Except.bind] at h
  split at h <;> cases h
  case h_2 memory hw =>
    refine ⟨rfl, fun b => ?_⟩
    unfold Addrspace.writeN at hw
    split at hw
    case h_2 => cases hw; rfl
    case h_1 =>
      split_ifs at hw
      case pos => cases hw; rfl
      case pos =>
        obtain ⟨hv, rfl⟩ := Heap.store_ok_iff.mp hw
        exact Heap.overwrite_block_length hv b
      case neg => cases hw; rfl

theorem sameLayout_of_load {f : Addrspace → HostMemory → Except Undefined α} {a : α}
    (h : load f s = .ok (a, s')) : SameLayout s.emuCtx s'.emuCtx := by
  simp only [load, bind, Except.bind] at h
  split at h <;> cases h
  exact .refl _

theorem Prim.sameLayout (hm : Prim good m Q) {c : α} (h : m s = .ok (c, s')) :
    SameLayout s.emuCtx s'.emuCtx := by
  cases hm
  case getReg =>
    unfold Emu.getReg at h
    split at h <;> cases h
    exact .refl _
  case setReg =>
    unfold Emu.setReg at h
    split at h <;> cases h
    exact .of_eq rfl rfl
  case getPsr       => cases h; exact .refl _
  case getItState   => cases h; exact .refl _
  case setPsr       => cases h; exact .of_eq rfl rfl
  case setAdvancePc => cases h; exact .of_eq rfl rfl
  case read8        => exact sameLayout_of_load h
  case read16       => exact sameLayout_of_load h
  case read32       => exact sameLayout_of_load h
  case write8       => exact sameLayout_of_writeN h
  case write16      => exact sameLayout_of_writeN h
  case write32      => exact sameLayout_of_writeN h
  case checked x    => cases x <;> cases h; exact .refl _

theorem Operation.sameLayout (hh : host.KeepLayout) (hm : Operation host good m Q) {c : α}
    (h : m s = .ok (c, s')) : SameLayout s.emuCtx s'.emuCtx := by
  cases hm
  case prim hm => exact hm.sameLayout h
  case memptr  => cases h; exact .refl _
  case call hf =>
    cases h
    exact ⟨hh.addrSpace _ _ hf _, fun b => hh.length b _ _ hf _⟩

-- A step of the machine.
theorem sameLayout_step (hh : host.KeepLayout) (h : cpuSingleStep host ctx = .ok ctx') :
    SameLayout ctx ctx' := by
  obtain ⟨w, s, _, rfl, rfl | ⟨v, a, handler, hx, hv, hs⟩⟩ := cpuSingleStep_cases h
  · exact .of_eq rfl rfl
  · suffices hk : SameLayout ctx s.emuCtx from hk.trans <| .of_eq rfl rfl
    by_cases hi : v = .itT1
    case pos => subst hi; cases hv; cases hs; exact .of_eq rfl rfl
    case neg =>
      have hc : Composite (Operation host _) (handler a) _ :=
        Operation.emulationCallbacks Stable.top hi hv Allowed.top
      have hk : Keeps (fun s => SameLayout ctx s.emuCtx) (handler a) fun _ => True := by
        refine hc.keeps fun hm s c s' hs h => ⟨hs.trans <| hm.sameLayout hh h, ?_⟩
        exact hm.keeps (I := fun _ => True) (fun _ _ => trivial) (fun _ _ _ _ => trivial)
          (fun _ _ _ _ => trivial) s c s' trivial h |>.right
      exact hk ctx.insnCtx _ _ (.refl ctx) hs |>.left

theorem Run.sameLayout (hr : Run (cpuSingleStep host) r n) (hh : host.KeepLayout) :
    ∀ k ≤ n, SameLayout (r 0) (r k) :=
  hr.invariant (I := fun _ => SameLayout (r 0)) (.refl _) fun _ _ hi hs =>
    hi.trans <| sameLayout_step hh hs

end

theorem noHost_keepLayout : (noHost (U := U)).KeepLayout where
  addrSpace := noHost_preserve _
  length    := fun _ => noHost_preserve _
