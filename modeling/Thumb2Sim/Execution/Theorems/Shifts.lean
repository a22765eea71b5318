import Thumb2Sim.Decoder.Theorems.Arguments
import Thumb2Sim.Emulation.Theorems.Shifts
import Thumb2Sim.Execution.Theorems.Step

open Program Emulation

-- The fields of the encodings with shifts.

theorem reach_lt : ∀ o ∈ opcodes, hasShift o.variant → ∀ x ∈ o.arguments,
    x.reach.toNat < operandBound x.var ∧
      (x.extension = .plain ∨ x.extension = .thumbExpandImm) := by
  decide +kernel

theorem operandBound_le (v : Var) : 1 ≤ operandBound v ∧ operandBound v ≤ 256 := by
  cases v <;> decide

section

variable {U : Type} {host : Callbacks U} {ctx : EmuCtx U} {s : InsnEmuCtx U} {w : Word} {o : Opcode}
  {a : Args}

theorem Opcode.args_lt (ho : o ∈ opcodes) (hs : hasShift o.variant) (ha : o.args w = .ok a)
    (v : Var) : (a.uint8 v).toNat < operandBound v := by
  have ⟨h₁, h₂⟩ := operandBound_le v
  have hv : (a v).toNat < operandBound v := by
    obtain ⟨a', ha', hc⟩ := o.args_cases w
    cases ha.symm.trans ha'
    obtain hz | ⟨x, hx, rfl, hy⟩ := hc v
    case inl => rw [hz]; exact h₁
    case inr =>
      have ⟨hr, he⟩ := reach_lt o ho hs x hx
      exact Argument.value_lt hr h₂ he hy
  rw [Args.uint8, BitVec.toNat_setWidth]
  omega

theorem Executes.args_lt {v : Variant} (hx : Executes ctx v a) (hs : hasShift v) :
    ∀ x, (a.uint8 x).toNat < operandBound x := by
  obtain ⟨_, w, o, _, ho, rfl, ha⟩ := hx
  exact Opcode.args_lt (Pattern.firstMatch_some ho).left hs ha

theorem shiftsDefined_of_none {v : Variant} {cpu : Cpu} (h : emulationCallbacks host v = none) :
    ShiftsDefined v a cpu := by
  cases v <;> trivial

theorem read16_ne_shift {as : Addrspace} {memory : HostMemory} {address : Word} :
    as.read16 memory address ≠ .error .shift :=
  Emu.map_ne_shift Emu.readN_ne_shift

theorem insnWord_ne_shift : ctx.insnWord ≠ .error .shift := by
  unfold EmuCtx.insnWord addrspaceReadInsnWord
  cases hu : ctx.addrSpace.read16 ctx.memory ctx.pc
  case error e =>
    intro h
    cases h
    exact read16_ne_shift hu
  case ok    => exact Emu.map_ne_shift read16_ne_shift

theorem decodeInsn_fails_iff (ho : decode w = some o) (ha : o.args w = .ok a) :
    Fails .shift (decodeInsn w (ctx.handlers host)) s ↔ emulatorShouldExecNextInsn ctx.cpu ∧
      ∃ handler, emulationCallbacks host o.variant = some handler ∧ Fails .shift (handler a) s := by
  have ha' : (checked (o.args w) : Emu U Args) s = .ok (a, s) := by rw [ha]; rfl
  by_cases he : emulatorShouldExecNextInsn ctx.cpu
  case neg =>
    rw [handlers_of_not_exec he]
    simp [decodeInsn, ho, Opcode.callHandler, he]
  case pos =>
    rw [handlers_of_exec he]
    cases hh : emulationCallbacks host o.variant
    case none         => simp [decodeInsn, ho, Opcode.callHandler, hh]
    case some handler => simp [decodeInsn, ho, Opcode.callHandler, hh, he, fails_bind_of_ok ha']

-- A step makes a shift that is not defined exactly if the handler of the executed instruction does.
theorem cpuSingleStep_eq_shift_iff : cpuSingleStep host ctx = .error .shift ↔
    ∃ v a handler, Executes ctx v a ∧ emulationCallbacks host v = some handler ∧
      Fails .shift (handler a) ctx.insnCtx := by
  rw [cpuSingleStep_eq]
  constructor
  case mp =>
    intro h
    cases hw : ctx.insnWord
    case error e =>
      rw [hw] at h
      cases h
      exact absurd hw insnWord_ne_shift
    case ok w =>
      rw [hw] at h
      cases ho : decode w
      case none =>
        change Except.map _ (decodeInsn w _ ctx.insnCtx) = _ at h
        rw [decodeInsn_of_none ho] at h
        cases h
      case some o =>
        obtain ⟨a, ha, _⟩ := o.args_cases w
        have hf : Fails .shift (decodeInsn w (ctx.handlers host)) ctx.insnCtx := by
          change Except.map _ (decodeInsn w _ ctx.insnCtx) = _ at h
          cases hd : decodeInsn w (ctx.handlers host) ctx.insnCtx <;> rw [hd] at h <;> cases h
          exact hd
        have ⟨he, handler, hh, hs⟩ := decodeInsn_fails_iff ho ha |>.mp hf
        exact ⟨_, a, handler, ⟨he, w, o, hw, ho, rfl, ha⟩, hh, hs⟩
  case mpr =>
    intro ⟨_, a, handler, ⟨he, w, o, hw, ho, rfl, ha⟩, hh, hs⟩
    have hf : decodeInsn w (ctx.handlers host) ctx.insnCtx = .error .shift :=
      decodeInsn_fails_iff ho ha |>.mpr ⟨he, handler, hh, hs⟩
    rw [hw]
    change Except.map _ (decodeInsn w _ ctx.insnCtx) = _
    rw [hf]
    rfl

-- All other shifts of a step have counts that are in range.
theorem cpuSingleStep_ne_shift_iff : cpuSingleStep host ctx ≠ .error .shift ↔
    ∀ v a, Executes ctx v a → ShiftsDefined v a ctx.cpu := by
  rw [Ne, cpuSingleStep_eq_shift_iff]
  constructor
  case mp =>
    intro h v a hx
    by_contra hd
    cases hh : emulationCallbacks host v
    case none         => exact hd <| shiftsDefined_of_none hh
    case some handler =>
      exact h ⟨v, a, handler, hx, hh, fails_shift_iff hh hx.args_lt |>.mpr hd⟩
  case mpr =>
    intro h ⟨v, a, handler, hx, hh, hf⟩
    exact fails_shift_iff hh hx.args_lt |>.mp hf <| h v a hx

end

-- `lsrs r0, r1, #32` has the immediate zero, and its carry is the bit in front of it.
theorem not_forall_cpuSingleStep_ne_shift :
    ¬∀ (host : Callbacks Unit) (ctx : EmuCtx Unit), cpuSingleStep host ctx ≠ .error .shift := by
  intro h
  let ctx := smallMachine [0x08, 0x08]
  have hs : (cpuSingleStep noHost ctx).map (fun _ => ()) = .error .shift := by decide +kernel
  cases hc : cpuSingleStep noHost ctx <;> rw [hc] at hs <;> cases hs
  exact h noHost ctx hc
