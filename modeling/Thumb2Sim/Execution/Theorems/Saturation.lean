import Thumb2Sim.Execution.Theorems.ReadOnly

open Program Emu Emulation

-- The flag Q records that a result has been saturated.
def Saturated (psr : Word) : Prop :=
  psr.getLsbD 27

instance (psr : Word) : Decidable (Saturated psr) :=
  inferInstanceAs <| Decidable (_ = true)

namespace Saturated

variable {psr : Word}

-- The bits outside of a mask that does not cover Q stay.
theorem replace {mask v : Word} (hm : mask.getLsbD 27 = false) (h : Saturated psr) :
    Saturated (psr &&& ~~~mask ||| v) := by
  unfold Saturated at h ⊢
  simp [h, hm, -BitVec.getLsbD_eq_getElem]

theorem itPsr_iff {itState itCond : Byte} :
    Saturated (itPsr itState itCond psr) ↔ Saturated psr := by
  have hf := congrArg (·.getLsbD 27) <| @itPsr_flags itState itCond psr
  have hm : flagMask.getLsbD 27 = true := rfl
  simp only [BitVec.getLsbD_and, hm, Bool.and_true] at hf
  rw [Saturated, hf, Saturated]

-- What a handler keeps if it does its work with the given state of the IT block.
def guard (it : Byte) : Guard where
  pc      := fun _ => True
  psr     := Saturated
  itState := (· = it)
  mov     := fun _ _ => replace rfl
  lsl     := fun _ _ _ => replace rfl

end Saturated

variable {U : Type} {host : Callbacks U} {ctx ctx' : EmuCtx U} {s s' : InsnEmuCtx U} {v : Variant}
  {a : Args} {handler : Args → Emu U Unit} {r : Nat → EmuCtx U} {n : Nat}

-- The next instruction replaces all flags, and Q is among them.
def ReplacesFlags (ctx : EmuCtx U) : Prop :=
  ∃ v a b, Executes ctx v a ∧ replacesFlags v a = some b ∧
    (b || ctx.cpu.itState &&& 0x03 == itNone)

-- A system call calls at most one function of the host, and may put its result into R0.
theorem syscall_psr {β : Type} (part : Word → β) (hp : host.Preserve fun ctx => part ctx.cpu.psr)
    {syscallNo dataPtr length : Word} (h : syscall host syscallNo dataPtr length s = .ok ((), s')) :
    part s'.emuCtx.cpu.psr = part s.emuCtx.cpu.psr := by
  unfold syscall at h
  split_ifs at h
  case pos =>
    cases hf : host.emulatorSyscallRead <;> rw [hf] at h <;> cases h
    case none => rfl
    case some f => exact hp _ _ (.read _ _ hf) _
  case pos =>
    cases hf : host.emulatorSyscallWrite <;> rw [hf] at h <;> cases h
    case none => rfl
    case some f => exact hp _ _ (.write _ _ hf) _
  case pos =>
    cases hf : host.emulatorSyscallPuts <;> rw [hf] at h <;> cases h
    case none => rfl
    case some f => exact hp _ _ (.puts _ hf) _
  case pos =>
    cases hf : host.emulatorSyscallExit <;> rw [hf] at h <;> cases h
    case none => rfl
    case some f => exact hp _ _ (.exit _ hf) _
  case neg => cases h; rfl

theorem i16BkptT1_psr {β : Type} (part : Word → β) (hp : host.Preserve fun ctx => part ctx.cpu.psr)
    {imm : Byte} (h : i16BkptT1 host imm s = .ok ((), s')) :
    part s'.emuCtx.cpu.psr = part s.emuCtx.cpu.psr := by
  have hb : part (host.afterBkpt s.emuCtx imm).cpu.psr = part s.emuCtx.cpu.psr := by
    unfold Callbacks.afterBkpt
    cases hf : host.bkptCallback
    case none   => rfl
    case some f => exact hp _ _ (.bkpt imm hf) _
  rw [i16BkptT1_eq rfl] at h
  split at h
  case isTrue  => exact (syscall_psr part hp h).trans hb
  case isFalse => cases h; exact hb

-- A handler that does not replace all flags leaves Q set.
theorem saturated_handler (hp : host.Preserve fun ctx => ctx.cpu.psr.getLsbD 27)
    (hx : Executes ctx v a) (hh : emulationCallbacks host v = some handler)
    (hs : handler a ctx.insnCtx = .ok ((), s)) (hf : ¬ReplacesFlags ctx) (hm : v ≠ .msrT1)
    (hq : Saturated ctx.cpu.psr) : Saturated s.emuCtx.cpu.psr := by
  by_cases hi : v = .itT1
  case pos => subst hi; cases hh; cases hs; exact hq
  case neg =>
    by_cases hb : v = .bkptT1
    case pos =>
      subst hb
      cases hh
      exact (i16BkptT1_psr (·.getLsbD 27) hp hs).trans hq
    case neg =>
      let g := Saturated.guard ctx.cpu.itState
      have ha : ∀ b, replacesFlags v a = some b → g.AllowsFlags b := by
        rintro b hb it rfl hc
        exact absurd ⟨v, a, b, hx, hb, hc⟩ hf
      have hc : Guarded g (handler a) :=
        .emulationCallbacks Stable.top hi hb hh Allowed.top ha fun h => absurd h hm
      have h₀ : g.Holds ctx.insnCtx := ⟨trivial, hq, rfl⟩
      exact hc.keeps ctx.insnCtx () s h₀ hs |>.left.psr

theorem saturated_step (hp : host.Preserve fun ctx => ctx.cpu.psr.getLsbD 27)
    (h : cpuSingleStep host ctx = .ok ctx') (hf : ¬ReplacesFlags ctx)
    (hm : ∀ a, ¬Executes ctx .msrT1 a) (hq : Saturated ctx.cpu.psr) : Saturated ctx'.cpu.psr := by
  obtain ⟨w, s, _, rfl, rfl | ⟨v, a, handler, hx, hh, hs⟩⟩ := cpuSingleStep_cases h
  · exact Saturated.itPsr_iff.mpr hq
  · refine Saturated.itPsr_iff.mpr <| saturated_handler hp hx hh hs hf ?_ hq
    rintro rfl
    exact hm a hx

-- Once Q is set, it stays set in a run whose instructions neither write the status register with
-- `msr_T1` nor replace all flags.
theorem Run.saturated (hr : Run (cpuSingleStep host) r n)
    (hp : host.Preserve fun ctx => ctx.cpu.psr.getLsbD 27)
    (hm : ∀ k < n, ∀ a, ¬Executes (r k) .msrT1 a) (hf : ∀ k < n, ¬ReplacesFlags (r k))
    (h₀ : Saturated (r 0).cpu.psr) : ∀ k ≤ n, Saturated (r k).cpu.psr :=
  hr.invariant (I := fun _ ctx => Saturated ctx.cpu.psr) h₀ fun k hk hq hs =>
    saturated_step hp hs (hf k hk) (hm k hk) hq

-- The addition in the IT block of `movs r0, #0; it eq; addeq r0, #1` does not set the flags.
theorem saturated_addeq :
    let ctx := (smallMachine [0x00, 0x20, 0x08, 0xbf, 0x40, 0x1c]).setPsr flagSaturation
    let r   := trace (cpuSingleStep noHost) ctx
    ∀ k ≤ 3, Saturated (r k).cpu.psr := by
  intro ctx r
  have hr : Run (cpuSingleStep noHost) r 3 := run_trace <| by decide +kernel
  have hv : ∀ k < 3, (r k).nextInsn.all fun p => p.1 ≠ .msrT1 ∧
      (replacesFlags p.1 p.2).all fun b => !(b || (r k).cpu.itState &&& 0x03 == itNone) := by
    decide +kernel
  refine Run.saturated hr (noHost_preserve _) (fun k hk a hx => ?_) (fun k hk => ?_) (by decide)
  case refine_1 => exact of_decide_eq_true (hx.of_nextInsn <| hv k hk) |>.left rfl
  case refine_2 =>
    intro ⟨v, a, b, hx, hb, hc⟩
    have hn := of_decide_eq_true (hx.of_nextInsn <| hv k hk) |>.right
    rw [hb, Option.all_some, hc] at hn
    contradiction

-- Q is set by `movs r0, #1; lsls r0, r0, #27; msr apsr, r0`, and `cmp r0, r0` clears it.
theorem not_forall_saturated :
    ¬∀ (host : Callbacks Unit) (ctx : EmuCtx Unit) (r : Nat → EmuCtx Unit) (n : Nat),
      host.Preserve (fun ctx => ctx.cpu.psr) → cpuReset ctx = .ok (r 0) →
      Run (cpuSingleStep host) r n → ∀ k < n, (∀ a, ¬Executes (r k) .msrT1 a) →
      Saturated (r k).cpu.psr → Saturated (r (k + 1)).cpu.psr := by
  intro h
  let ctx := smallMachine
    [0, 0, 0, 0, 8, 0, 0, 0, 0x01, 0x20, 0xc0, 0x06, 0x80, 0xf3, 0x00, 0x88, 0x80, 0x42]
  let r   := trace (cpuSingleStep noHost) (resetState ctx)
  have hv : (r 3).nextInsn.all fun p => p.1 ≠ .msrT1 := by decide +kernel
  have hs := h noHost ctx r 4 (noHost_preserve _) (eq_resultOr <| by decide +kernel)
    (run_trace <| by decide +kernel) 3 (by decide)
    (fun a hx => of_decide_eq_true (hx.of_nextInsn hv) rfl) (by decide +kernel)
  exact absurd hs (by decide +kernel)
