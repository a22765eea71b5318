import Thumb2Sim.Execution.Theorems.Step

open Program

-- Instructions begin at even addresses.
def Aligned (pc : Word) : Prop :=
  pc.toNat % 2 = 0

instance (pc : Word) : Decidable (Aligned pc) :=
  inferInstanceAs <| Decidable (_ = _)

namespace Aligned

variable {v : Word}

theorem add_even (h : Aligned v) {n : Nat} (hn : n % 2 = 0) : Aligned (v + BitVec.ofNat 32 n) := by
  simp only [Aligned, BitVec.toNat_add, BitVec.toNat_ofNat] at h ⊢
  omega

theorem and_not_one : Aligned (v &&& ~~~1) := by
  have hb : (v &&& ~~~1).getLsbD 0 = false := by simp
  rw [BitVec.getLsbD, Nat.testBit_zero, decide_eq_false_iff_not] at hb
  simp only [Aligned]
  omega

theorem stable : Stable Aligned where
  add v x h := by
    simp only [Aligned, BitVec.toNat_add, BitVec.toNat_mul, BitVec.reduceToNat] at h ⊢
    omega
  clear _ := and_not_one

end Aligned

variable {U : Type} {host : Callbacks U} {ctx ctx' : EmuCtx U} {r : Nat → EmuCtx U} {n : Nat}

-- The handler of the next instruction does not store any data in PC as it is.
def KeepsPcMasked (ctx : EmuCtx U) : Prop :=
  ∀ v a, Executes ctx v a → regPc ∉ destinations v a

theorem aligned_reset (h : cpuReset ctx = .ok ctx') : Aligned ctx'.pc := by
  simp only [cpuReset, bind, Except.bind] at h
  split at h
  case h_1 => cases h
  case h_2 =>
    split at h <;> cases h
    exact Aligned.and_not_one

theorem aligned_finish {s : InsnEmuCtx U} {w : Word} (h : Aligned s.emuCtx.pc) :
    Aligned (s.finish (insnLength w)).pc := by
  have he : insnLength w % 2 = 0 := by
    rcases insnLength_cases w with hl | hl | hl <;> rw [hl]
  change Aligned (s.nextPc (insnLength w))
  unfold InsnEmuCtx.nextPc
  split
  case isTrue  => exact h.add_even he
  case isFalse => exact h

theorem aligned_step (hp : host.Preserve fun ctx => ctx.cpu.reg) (hm : KeepsPcMasked ctx)
    (ha : Aligned ctx.pc) (h : cpuSingleStep host ctx = .ok ctx') : Aligned ctx'.pc := by
  obtain ⟨w, s, _, rfl, rfl | ⟨v, a, handler, hx, hh, hs⟩⟩ := cpuSingleStep_cases h
  · exact aligned_finish ha
  · refine aligned_finish ?_
    by_cases hi : v = .itT1
    case pos =>
      subst hi
      cases hh
      cases hs
      exact ha
    case neg =>
      have hd : Allowed Aligned (destinations v a) := fun hr => absurd hr (hm v a hx)
      have hc := Operation.emulationCallbacks (a := a) Aligned.stable hi hh hd
      have hk : Keeps (fun s => Aligned s.emuCtx.pc) (handler a) fun _ => True := by
        refine hc.keeps <| Operation.keeps (fun _ => id) (fun _ _ he => he.pc) fun f hf s hs => ?_
        have hr : (f s.emuCtx).1.cpu.reg = s.emuCtx.cpu.reg := hp _ f hf _
        change Aligned ((f s.emuCtx).1.cpu.reg 15)
        rw [hr]
        exact hs
      exact hk _ _ _ ha hs |>.left

-- PC stays even as long as the handlers that do not clear bit 0 are not used to write it.
theorem Run.aligned (hr : Run (cpuSingleStep host) r n) (h₀ : cpuReset ctx = .ok (r 0))
    (hp : host.Preserve fun ctx => ctx.cpu.reg) (hm : ∀ k < n, KeepsPcMasked (r k)) :
    ∀ k ≤ n, Aligned (r k).pc :=
  hr.invariant (I := fun _ ctx => Aligned ctx.pc) (aligned_reset h₀)
    fun k hk => aligned_step hp (hm k hk)

-- A loop that branches to its own second instruction: `movs r0, #11; bx r0`.
theorem aligned_bx :
    let ctx := smallMachine [0, 0, 0, 0, 8, 0, 0, 0, 0x0b, 0x20, 0x00, 0x47]
    let r   := trace (cpuSingleStep noHost) (resetState ctx)
    ∀ k ≤ 5, Aligned (r k).pc := by
  intro ctx r
  have hr : Run (cpuSingleStep noHost) r 5 := run_trace <| by decide +kernel
  have hv : ∀ k < 5, (r k).nextInsn.all fun p => regPc ∉ destinations p.1 p.2 := by decide +kernel
  have hm : ∀ k < 5, KeepsPcMasked (r k) :=
    fun k hk v a hx => of_decide_eq_true <| hx.of_nextInsn <| hv k hk
  exact Run.aligned hr (eq_resultOr <| by decide +kernel) (noHost_preserve _) hm

-- With `movs r0, #1; mov pc, r0`, PC is 1 at the end of the second instruction, and the step still
-- adds the length of the instruction.
theorem not_forall_aligned :
    ¬∀ (host : Callbacks Unit) (ctx : EmuCtx Unit) (r : Nat → EmuCtx Unit) (n : Nat),
      host.Preserve (fun ctx => ctx.cpu.reg) → cpuReset ctx = .ok (r 0) →
      Run (cpuSingleStep host) r n → ∀ k ≤ n, Aligned (r k).pc := by
  intro h
  let ctx := smallMachine [0, 0, 0, 0, 8, 0, 0, 0, 0x01, 0x20, 0x87, 0x46]
  have ha := h noHost ctx (trace (cpuSingleStep noHost) (resetState ctx)) 2 (noHost_preserve _)
    (eq_resultOr <| by decide +kernel) (run_trace <| by decide +kernel) 2 (le_refl _)
  exact absurd ha (by decide +kernel)
