import Thumb2Sim.Decoder.Theorems.Length
import Thumb2Sim.Emulation.Theorems.Handlers
import Thumb2Sim.Execution.Basic
import Thumb2Sim.Lib.Run

variable {U : Type}

-- The next step emulates an instruction with the given encoding, for which the decoder finds the
-- arguments `a`.
structure Executes (ctx : EmuCtx U) (v : Variant) (a : Args) : Prop where
  exec : emulatorShouldExecNextInsn ctx.cpu
  insn : ∃ w o, ctx.insnWord = .ok w ∧ decode w = some o ∧ o.variant = v ∧ o.args w = .ok a

-- The instruction that the next step fetches.
def EmuCtx.nextInsn (ctx : EmuCtx U) : Option (Variant × Args) := do
  let w ← ctx.insnWord.toOption
  let o ← decode w
  let a ← (o.args w).toOption
  return (o.variant, a)

section

variable {host : Callbacks U} {ctx ctx' : EmuCtx U} {s s' : InsnEmuCtx U} {w : Word} {o : Opcode}
  {v : Variant} {a : Args} {handler : Args → Emu U Unit}

theorem insnLength_cases (w : Word) : insnLength w = 0 ∨ insnLength w = 2 ∨ insnLength w = 4 := by
  cases hd : decode w
  case none => simp [insnLength, hd]
  case some o =>
    have hl : insnLength w = o.length := by simp [insnLength, hd]
    cases Opcode.narrow_or_wide o (Pattern.firstMatch_some hd).left
    case inl n => exact .inr <| .inl <| hl.trans n.length
    case inr d => exact .inr <| .inr <| hl.trans d.length

theorem Opcode.callHandler_cases {table : DecodingHandler (InsnEmuCtx U)}
    (h : o.callHandler w (some table) s = .ok ((), s')) :
    s' = s ∨ ∃ a handler, o.args w = .ok a ∧ table o.variant = some handler ∧
      handler a s = .ok ((), s') := by
  rw [callHandler, Option.bind_some] at h
  cases ht : table o.variant <;> rw [ht] at h
  case none => cases h; exact .inl rfl
  case some handler =>
    obtain ⟨a, t, hc, hh⟩ := Program.bind_ok_iff.mp h
    cases ha : o.args w <;> rw [ha] at hc <;> cases hc
    exact .inr ⟨a, handler, rfl, rfl, hh⟩

theorem handlers_of_exec (h : emulatorShouldExecNextInsn ctx.cpu) :
    ctx.handlers host = some (emulationCallbacks host) :=
  if_pos h

theorem handlers_of_not_exec (h : ¬emulatorShouldExecNextInsn ctx.cpu) :
    ctx.handlers host = none :=
  if_neg h

theorem handlers_eq_some_iff :
    ctx.handlers host = some (emulationCallbacks host) ↔ emulatorShouldExecNextInsn ctx.cpu := by
  constructor
  case mpr => exact handlers_of_exec
  case mp  =>
    intro h
    by_contra he
    simp [handlers_of_not_exec he] at h

theorem handlers_eq_none_iff :
    ctx.handlers host = none ↔ ¬emulatorShouldExecNextInsn ctx.cpu := by
  constructor
  case mpr => exact handlers_of_not_exec
  case mp  =>
    intro h he
    simp [handlers_of_exec he] at h

theorem cpuSingleStep_eq : cpuSingleStep host ctx = ctx.insnWord >>= fun w =>
    (decodeInsn w (ctx.handlers host) ctx.insnCtx).map fun p => p.2.finish p.1 := by
  unfold cpuSingleStep
  cases ctx.insnWord
  case error => rfl
  case ok w  =>
    change (decodeInsn w _ ctx.insnCtx >>= fun p => pure (p.2.finish p.1)) = Except.map _ _
    cases decodeInsn w (ctx.handlers host) ctx.insnCtx <;> rfl

theorem cpuSingleStep_ok_iff : cpuSingleStep host ctx = .ok ctx' ↔
    ∃ w s, ctx.insnWord = .ok w ∧ ctx' = s.finish (insnLength w) ∧
      decodeInsn w (ctx.handlers host) ctx.insnCtx = .ok (insnLength w, s) := by
  simp only [cpuSingleStep, bind, Except.bind]
  constructor
  case mp =>
    intro h
    split at h
    case h_1 => cases h
    case h_2 w hw =>
      split at h
      case h_1 => cases h
      case h_2 p hp =>
        cases h
        have hl := decodeInsn_length hp
        exact ⟨w, p.2, hw, by rw [hl], hl ▸ hp⟩
  case mpr =>
    intro ⟨w, s, hw, hs, hd⟩
    simp only [hw, hd, hs]
    rfl

-- What a step can do: nothing but the work that is common to all steps, or the work of the handler
-- of an executed instruction before that.
theorem cpuSingleStep_cases (h : cpuSingleStep host ctx = .ok ctx') :
    ∃ w s, ctx.insnWord = .ok w ∧ ctx' = s.finish (insnLength w) ∧
      (s = ctx.insnCtx ∨ ∃ v a handler, Executes ctx v a ∧
        emulationCallbacks host v = some handler ∧ handler a ctx.insnCtx = .ok ((), s)) := by
  have ⟨w, s, hw, hc, hd⟩ := cpuSingleStep_ok_iff.mp h
  refine ⟨w, s, hw, hc, ?_⟩
  cases ho : decode w
  case none =>
    have hs := (decodeInsn_of_none ho).symm.trans hd
    exact .inl (congrArg Prod.snd (Except.ok.inj hs)).symm
  case some o =>
    have hh := decodeInsn_ok_iff ho |>.mp hd |>.left
    by_cases he : emulatorShouldExecNextInsn ctx.cpu
    case neg =>
      rw [handlers_of_not_exec he] at hh
      cases hh
      exact .inl rfl
    case pos =>
      rw [handlers_of_exec he] at hh
      obtain hs | ⟨a, handler, ha, ht, hh⟩ := Opcode.callHandler_cases hh
      · exact .inl hs
      · exact .inr ⟨o.variant, a, handler, ⟨he, w, o, hw, ho, rfl, ha⟩, ht, hh⟩

theorem shouldExec_of_itState {cpu : Cpu} (h : cpu.itState = 0) :
    emulatorShouldExecNextInsn cpu := by
  simp [emulatorShouldExecNextInsn, h, itNone]

-- The state of the IT block is not kept in the flags.
theorem itPsr_flags {itState itCond : Byte} {psr : Word} :
    itPsr itState itCond psr &&& flagMask = psr &&& flagMask := by
  have hm : psr &&& ~~~0xff00 &&& flagMask = psr &&& flagMask := by
    rw [BitVec.and_assoc]
    rfl
  have hc : itCond.setWidth 32 <<< 12 &&& flagMask = 0 := by
    revert itCond
    decide
  have h₁ : (0x100 : Word) &&& flagMask = 0 := rfl
  have h₂ : 0x900#32 &&& flagMask = 0 := rfl
  have h₃ : (0x400 : Word) &&& flagMask = 0 := rfl
  unfold itPsr
  split_ifs <;> simp only [BitVec.and_or_distrib_right, hm, hc, h₁, h₂, h₃] <;> simp

-- An instruction that is not executed is skipped.
theorem cpuSingleStep_of_not_exec (h : cpuSingleStep host ctx = .ok ctx')
    (he : ¬emulatorShouldExecNextInsn ctx.cpu) :
    ∃ w, ctx.insnWord = .ok w ∧ ctx' = ctx.insnCtx.finish (insnLength w) := by
  obtain ⟨w, s, hw, hc, rfl | ⟨v, a, handler, hx, _⟩⟩ := cpuSingleStep_cases h
  · exact ⟨w, hw, hc⟩
  · exact absurd hx.exec he

theorem Executes.nextInsn_eq (hx : Executes ctx v a) : ctx.nextInsn = some (v, a) := by
  obtain ⟨_, w, o, hw, ho, hv, ha⟩ := hx
  simp [EmuCtx.nextInsn, hw, ho, hv, ha, Except.toOption]

-- What holds of the instruction that is fetched holds of the one that is executed.
theorem Executes.of_nextInsn {p : Variant × Args → Bool} (hx : Executes ctx v a)
    (h : ctx.nextInsn.all p) : p (v, a) := by
  rwa [hx.nextInsn_eq] at h

theorem exists_executes (he : emulatorShouldExecNextInsn ctx.cpu)
    (hn : ctx.nextInsn.map Prod.fst = some v) : ∃ a, Executes ctx v a := by
  simp only [EmuCtx.nextInsn, Option.bind_eq_bind, Option.map_bind] at hn
  obtain ⟨w, hw, o, ho, a, ha, hv⟩ : ∃ w, ctx.insnWord.toOption = some w ∧ ∃ o, decode w = some o ∧
      ∃ a, (o.args w).toOption = some a ∧ o.variant = v := by
    simpa [Option.bind_eq_some_iff] using hn
  have of_toOption : ∀ {α} {x : Except Undefined α} {y}, x.toOption = some y → x = .ok y := by
    intro α x y h
    cases x <;> cases h
    rfl
  exact ⟨a, he, w, o, of_toOption hw, ho, hv, of_toOption ha⟩

-- The handler of an executed instruction does its work in the step.
theorem cpuSingleStep_of_handler (he : emulatorShouldExecNextInsn ctx.cpu)
    (hw : ctx.insnWord = .ok w) (ho : decode w = some o) (ha : o.args w = .ok a)
    (hh : emulationCallbacks host o.variant = some handler)
    (hs : handler a ctx.insnCtx = .ok ((), s)) :
    cpuSingleStep host ctx = .ok (s.finish o.length) := by
  have hl : insnLength w = o.length := by simp [insnLength, ho]
  refine cpuSingleStep_ok_iff.mpr ⟨w, s, hw, by rw [hl], ?_⟩
  rw [handlers_of_exec he]
  refine decodeInsn_ok_iff ho |>.mpr ⟨?_, hl⟩
  rw [Opcode.callHandler_of_args hh ha]
  exact hs

-- A step that ends has run the handler.
theorem Executes.step_ok (hx : Executes ctx v a) (hh : emulationCallbacks host v = some handler)
    (h : cpuSingleStep host ctx = .ok ctx') :
    ∃ s n, handler a ctx.insnCtx = .ok ((), s) ∧ ctx' = s.finish n ∧ (n = 2 ∨ n = 4) := by
  obtain ⟨he, w, o, hw, ho, rfl, ha⟩ := hx
  obtain ⟨w', s, hw', hc, hd⟩ := cpuSingleStep_ok_iff.mp h
  cases hw.symm.trans hw'
  have hl : insnLength w = 2 ∨ insnLength w = 4 := by
    have hl : insnLength w = o.length := by simp [insnLength, ho]
    rw [hl]
    exact Opcode.narrow_or_wide o (Pattern.firstMatch_some ho).left |>.imp (·.length) (·.length)
  rw [handlers_of_exec he] at hd
  have hs := decodeInsn_ok_iff ho |>.mp hd |>.left
  rw [Opcode.callHandler_of_args hh ha] at hs
  exact ⟨s, insnLength w, hs, hc, hl⟩

theorem Executes.step (hx : Executes ctx v a) (hh : emulationCallbacks host v = some handler)
    (hs : handler a ctx.insnCtx = .ok ((), s)) :
    ∃ n, cpuSingleStep host ctx = .ok (s.finish n) := by
  obtain ⟨he, w, o, hw, ho, rfl, ha⟩ := hx
  exact ⟨o.length, cpuSingleStep_of_handler he hw ho ha hh hs⟩

end

-- A machine with little memory. The vector table is at the beginning of the ROM.
def smallMachine (rom : List Byte) : EmuCtx Unit :=
  { defaultParameters with romSizeBytes := 32, ramSizeBytes := 16 }.emuCtx rom [] ()

def resetState (ctx : EmuCtx U) : EmuCtx U :=
  resultOr ctx (cpuReset ctx)
