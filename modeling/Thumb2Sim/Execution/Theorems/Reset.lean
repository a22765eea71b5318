import Thumb2Sim.Execution.Theorems.Step

open Program Emu Emulation

variable {U : Type}

def EmuCtx.setItCond (c : Byte) (ctx : EmuCtx U) : EmuCtx U :=
  { ctx with cpu.itCond := c }

def InsnEmuCtx.setItCond (c : Byte) (s : InsnEmuCtx U) : InsnEmuCtx U :=
  { s with emuCtx := s.emuCtx.setItCond c }

-- Outside of an IT block, the functions of the host neither look at the condition of the last block
-- nor start a block.
def Callbacks.IgnoreItCond (host : Callbacks U) : Prop :=
  ∀ (α : Type) (f : EmuCtx U → EmuCtx U × α), HostCall host f → ∀ ctx c, ctx.cpu.itState = 0 →
    f (ctx.setItCond c) = ((f ctx).1.setItCond c, (f ctx).2) ∧ (f ctx).1.cpu.itState = 0

section

variable {host : Callbacks U} {good : Word → Prop} {c : Byte} {ctx ctx' : EmuCtx U}

theorem load_setItCond {α : Type} (f : Addrspace → HostMemory → Except Undefined α)
    (s : InsnEmuCtx U) :
    load f (s.setItCond c) = (load f s).map fun p => (p.1, p.2.setItCond c) := by
  have h : ∀ x : Except Undefined α, (do return (← x, s.setItCond c)) =
      Except.map (fun p => (p.1, p.2.setItCond c)) (do return (← x, s)) := by
    intro x
    cases x <;> rfl
  exact h <| f s.emuCtx.addrSpace s.emuCtx.memory

theorem store_setItCond (f : Addrspace → HostMemory → Except Undefined HostMemory)
    (s : InsnEmuCtx U) :
    store f (s.setItCond c) = (store f s).map fun p => (p.1, p.2.setItCond c) := by
  unfold store
  change (f s.emuCtx.addrSpace s.emuCtx.memory >>= _) = _
  cases f s.emuCtx.addrSpace s.emuCtx.memory <;> rfl

-- No operation makes use of the condition.
theorem Prim.ignores {α : Type} {m : Emu U α} {Q : α → Prop} (hm : Prim good m Q)
    (s : InsnEmuCtx U) : m (s.setItCond c) = (m s).map fun p => (p.1, p.2.setItCond c) := by
  cases hm
  case getReg       => unfold Emu.getReg; split <;> rfl
  case setReg       => unfold Emu.setReg; split <;> rfl
  case getPsr       => rfl
  case setPsr       => rfl
  case getItState   => rfl
  case setAdvancePc => rfl
  case read8        => exact load_setItCond _ s
  case read16       => exact load_setItCond _ s
  case read32       => exact load_setItCond _ s
  case write8       => exact store_setItCond _ s
  case write16      => exact store_setItCond _ s
  case write32      => exact store_setItCond _ s
  case checked x    => cases x <;> rfl

theorem Operation.ignores (hh : host.IgnoreItCond) {α : Type} {m : Emu U α} {Q : α → Prop}
    (hm : Operation host good m Q) :
    Ignores (fun s => s.emuCtx.cpu.itState = 0) (InsnEmuCtx.setItCond c) m := by
  intro s hs
  cases hm
  case prim hm => exact hm.ignores s
  case memptr  => rfl
  case call f hf =>
    have ⟨he, _⟩ := hh _ f hf s.emuCtx c hs
    simp only [callHost, InsnEmuCtx.setItCond, he, Except.map]

theorem Operation.keeps_itState (hh : host.IgnoreItCond) {α : Type} {m : Emu U α} {Q : α → Prop}
    (hm : Operation host (fun _ => True) m Q) : Keeps (fun s => s.emuCtx.cpu.itState = 0) m Q :=
  hm.keeps (fun _ _ => trivial) (fun _ _ he hs => he.itState.trans hs)
    fun f hf s hs => hh _ f hf s.emuCtx 0 hs |>.right

-- The contexts are equal, except that the condition of an IT block that is over may differ.
inductive Alike : EmuCtx U → EmuCtx U → Prop
  | refl (ctx : EmuCtx U) : Alike ctx ctx
  | itCond {ctx : EmuCtx U} (c : Byte) : ctx.cpu.itState = 0 → Alike ctx (ctx.setItCond c)

theorem alike_finish {s : InsnEmuCtx U} {n : Nat} (h : s.emuCtx.cpu.itState = 0) :
    Alike (s.finish n) ((s.setItCond c).finish n) := by
  have hn : s.nextItState = 0 := by
    unfold InsnEmuCtx.nextItState
    split <;> simp [h]
  have hs : (s.setItCond c).finish n = (s.finish n).setItCond c := by
    have hn' : (s.setItCond c).nextItState = 0 := hn
    simp only [InsnEmuCtx.finish, hn, hn', itPsr, EmuCtx.setItCond, if_true]
    rfl
  rw [hs]
  exact .itCond c hn

variable {w : Word} {o : Opcode}

theorem decodeInsn_operation (hi : ∀ o, decode w = some o → o.variant ≠ .itT1) :
    Composite (Operation host fun _ => True) (decodeInsn w (some <| emulationCallbacks host))
      fun _ => True := by
  unfold decodeInsn
  cases ho : decode w
  case none => exact .pure trivial
  case some o =>
    refine .bind (Q := fun _ => True) ?_ fun _ _ => .pure trivial
    rw [Opcode.callHandler, Option.bind_some]
    cases hh : emulationCallbacks host o.variant
    case none => exact .pure trivial
    case some handler =>
      refine .bind (.prim <| .prim <| .checked _) fun a _ => ?_
      exact Operation.emulationCallbacks Stable.top (hi o ho) hh Allowed.top

-- `it_T1` overwrites the condition.
theorem decodeInsn_itT1 (ho : decode w = some o) (hv : o.variant = .itT1) (s : InsnEmuCtx U) :
    decodeInsn w (some <| emulationCallbacks host) (s.setItCond c) =
    decodeInsn w (some <| emulationCallbacks host) s := by
  have hh : emulationCallbacks host o.variant =
      some fun a => i16ItT1 (a.uint8 .firstcond) (a.uint8 .mask) := by
    rw [hv]
    rfl
  simp only [decodeInsn, ho, Opcode.callHandler, Option.bind_some, hh]
  cases o.args w <;> rfl

theorem related_decodeInsn (hh : host.IgnoreItCond) (s : InsnEmuCtx U)
    (hs : s.emuCtx.cpu.itState = 0) :
    Related Alike
      ((decodeInsn w (some <| emulationCallbacks host) s).map fun p => p.2.finish p.1)
      ((decodeInsn w (some <| emulationCallbacks host) (s.setItCond c)).map
        fun p => p.2.finish p.1) := by
  by_cases hi : ∀ o, decode w = some o → o.variant ≠ .itT1
  case pos =>
    have hc : Composite (Operation host fun _ => True) _ _ := decodeInsn_operation hi
    rw [hc.ignores (Operation.keeps_itState hh) (Operation.ignores hh) s hs]
    cases hd : decodeInsn w (some <| emulationCallbacks host) s
    case error e => exact .error e
    case ok p =>
      have hs' := hc.keeps (Operation.keeps_itState hh) s p.1 p.2 hs hd |>.left
      exact .ok <| alike_finish hs'
  case neg =>
    simp only [ne_eq, not_forall, not_not] at hi
    obtain ⟨o, ho, hv⟩ := hi
    rw [decodeInsn_itT1 ho hv]
    exact .refl .refl _

theorem related_step (hh : host.IgnoreItCond) (h : Alike ctx ctx') :
    Related Alike (cpuSingleStep host ctx) (cpuSingleStep host ctx') := by
  cases h
  case refl => exact .refl .refl _
  case itCond c hs =>
    have hw : (ctx.setItCond c).insnWord = ctx.insnWord := rfl
    have he : emulatorShouldExecNextInsn (ctx.setItCond c).cpu := shouldExec_of_itState hs
    rw [cpuSingleStep_eq, cpuSingleStep_eq, hw, handlers_of_exec he,
      handlers_of_exec (shouldExec_of_itState hs)]
    cases ctx.insnWord
    case error e => exact .error e
    case ok w    => exact related_decodeInsn hh ctx.insnCtx hs

-- The contexts agree on everything but the state of the CPU.
structure SameMachine (ctx ctx' : EmuCtx U) : Prop where
  addrSpace      : ctx'.addrSpace = ctx.addrSpace
  memory         : ctx'.memory = ctx.memory
  ivtBaseAddress : ctx'.ivtBaseAddress = ctx.ivtBaseAddress
  user           : ctx'.user = ctx.user

-- The same slots of an IT block are left over, with the same condition if there are any.
structure SameItBlock (cpu cpu' : Cpu) : Prop where
  itState : cpu'.itState = cpu.itState
  itCond  : cpu.itState = 0 ∨ cpu'.itCond = cpu.itCond

-- What a run is observed by.
def EmuCtx.observed (ctx : EmuCtx U) : (Fin 16 → Word) × Word × HostMemory :=
  (ctx.cpu.reg, ctx.cpu.psr, ctx.memory)

theorem Alike.observed_eq (h : Alike ctx ctx') : ctx.observed = ctx'.observed := by
  cases h <;> rfl

theorem related_reset (hm : SameMachine ctx ctx') (hi : SameItBlock ctx.cpu ctx'.cpu) :
    Related Alike (cpuReset ctx) (cpuReset ctx') := by
  obtain ⟨⟨reg, psr, insnCtr, itCond, itState⟩, as, memory, ivt, user⟩ := ctx
  obtain ⟨⟨reg', psr', insnCtr', itCond', itState'⟩, as', memory', ivt', user'⟩ := ctx'
  obtain ⟨rfl, rfl, rfl, rfl⟩ := hm
  obtain ⟨rfl, hi⟩ := hi
  simp only [cpuReset]
  cases as'.read32 memory' (ivt' + 0)
  case error e => exact .error e
  case ok sp =>
    cases as'.read32 memory' (ivt' + 4)
    case error e => exact .error e
    case ok pc =>
      cases hi
      case inl h => exact .ok <| .itCond itCond' h
      case inr h => cases h; exact .ok <| .refl _

-- A reset forgets the state of the CPU, except for an IT block that is not over.
theorem reset_observed (hh : host.IgnoreItCond) (hm : SameMachine ctx ctx')
    (hi : SameItBlock ctx.cpu ctx'.cpu) (n : Nat) :
    (cpuReset ctx >>= iterate (cpuSingleStep host) n).map EmuCtx.observed =
    (cpuReset ctx' >>= iterate (cpuSingleStep host) n).map EmuCtx.observed := by
  have hs : ∀ ctx ctx', Alike ctx ctx' →
      Related Alike (cpuSingleStep host ctx) (cpuSingleStep host ctx') := fun _ _ => related_step hh
  have hr := related_reset hm hi |>.bind fun _ _ => Related.iterate hs n
  exact hr.map_eq fun _ _ h => h.observed_eq

theorem noHost_ignoreItCond : (noHost : Callbacks U).IgnoreItCond :=
  fun _ _ hf => by cases hf <;> contradiction

-- The states that a machine reaches from the one that `init_cortexm` sets up.
def Reachable (host : Callbacks U) (ctx : EmuCtx U) : Prop :=
  ∃ hw rom ram user r n, initCortexm hw rom ram user = .ok (r 0) ∧ Run (cpuSingleStep host) r n ∧
    r n = ctx

theorem sameMachine_itT1 {a : Args} (h : cpuSingleStep host ctx = .ok ctx')
    (hx : Executes ctx .itT1 a) : SameMachine ctx ctx' := by
  have ⟨_, hs⟩ : ∃ n, cpuSingleStep host ctx = .ok _ := hx.step rfl rfl
  cases h.symm.trans hs
  exact ⟨rfl, rfl, rfl, rfl⟩

end

theorem reset_observed_loop :
    let ctx  := smallMachine [0, 0, 0, 0, 8, 0, 0, 0, 0x01, 0x30, 0xfd, 0xe7]
    let ctx' := { ctx with cpu.reg := fun _ => 7, cpu.psr := 0x60000173, cpu.itCond := 1 }
    ∀ n, (cpuReset ctx >>= iterate (cpuSingleStep noHost) n).map EmuCtx.observed =
      (cpuReset ctx' >>= iterate (cpuSingleStep noHost) n).map EmuCtx.observed :=
  reset_observed noHost_ignoreItCond ⟨rfl, rfl, rfl, rfl⟩ ⟨rfl, .inl rfl⟩

-- With the program `it eq; moveq r0, #1`, a reset in the IT block makes the step after the reset
-- skip `it eq`, and the next step executes what should be skipped.
theorem not_forall_reset_observed :
    ¬∀ (host : Callbacks Unit) (ctx ctx' : EmuCtx Unit) (n : Nat), host.IgnoreItCond →
      Reachable host ctx → Reachable host ctx' → SameMachine ctx ctx' →
      (cpuReset ctx >>= iterate (cpuSingleStep host) n).map EmuCtx.observed =
      (cpuReset ctx' >>= iterate (cpuSingleStep host) n).map EmuCtx.observed := by
  intro h
  let ctx := smallMachine [0, 0, 0, 0, 8, 0, 0, 0, 0x08, 0xbf, 0x01, 0x20]
  let r   := trace (cpuSingleStep noHost) (resetState ctx)
  have h₀ : cpuReset ctx = .ok (r 0) := eq_resultOr <| by decide +kernel
  have hr : Run (cpuSingleStep noHost) r 1 := run_trace <| by decide +kernel
  have ⟨a, hx⟩ : ∃ a, Executes (r 0) .itT1 a :=
    exists_executes (by decide +kernel) (by decide +kernel)
  have hs : SameMachine (r 0) (r 1) := sameMachine_itT1 (hr 0 (by decide)) hx
  have he := h noHost (r 0) (r 1) 2 noHost_ignoreItCond ⟨_, _, _, _, r, 0, h₀, by simp [Run], rfl⟩
    ⟨_, _, _, _, r, 1, h₀, hr, rfl⟩ hs
  have hg := congrArg (Except.map fun o => o.1 0) he
  exact absurd hg (by decide +kernel)
