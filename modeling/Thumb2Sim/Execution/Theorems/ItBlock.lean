import Thumb2Sim.Emulation.Theorems.Condition
import Thumb2Sim.Execution.Theorems.Step

open Program Emulation

-- The IT block that the operands of `it_T1` describe. The mask holds the conditions of the
-- instructions behind the first one, from bit 3 downwards, and ends with a bit that is set.
section

variable (firstcond mask : Byte)

def itLength : Nat :=
  4 - mask.ctz.toNat

-- The lowest bit of the condition of the `k`-th instruction in the block, counting from one.
def itBit (k : Nat) : Bool :=
  if k = 1 then firstcond.getLsbD 0 else mask.getLsbD (5 - k)

def itNumber (k : Nat) : Byte :=
  firstcond &&& 0xe ||| if itBit firstcond mask k then 1 else 0

-- There is no condition 15, and the inverse of the condition 14 does not exist.
structure IsItBlock : Prop where
  firstcond_le : firstcond ≤ 14
  mask_ne      : mask ≠ 0
  noElse       : firstcond = 14 → ∀ k < 5, 1 < k → k ≤ itLength mask → ¬itBit firstcond mask k

instance : Decidable (IsItBlock firstcond mask) :=
  decidable_of_iff (_ ∧ _ ∧ _) ⟨fun ⟨f, m, n⟩ => ⟨f, m, n⟩, fun ⟨f, m, n⟩ => ⟨f, m, n⟩⟩

end

section

variable {firstcond mask : Byte} {k : Nat}

-- The operands of `it_T1` are numbers of four bits.
theorem exists_setWidth {x : Byte} (h : x ≤ 15) : ∃ y : BitVec 4, x = y.setWidth 8 := by
  refine ⟨x.setWidth 4, BitVec.eq_of_toNat_eq ?_⟩
  have h : x.toNat ≤ 15 := h
  simp only [BitVec.toNat_setWidth]
  omega

-- The slots depend on the lowest bit of the condition only.
theorem itT1State_firstcond : itT1State firstcond mask 0 =
    itT1State ((BitVec.ofBool <| firstcond.getLsbD 0).setWidth 8) mask 0 := by
  rw [← BitVec.and_one_eq_setWidth_ofBool_getLsbD]
  have h : itT1Slot firstcond mask = itT1Slot (firstcond &&& 1#8) mask := by
    funext i
    have hb : firstcond &&& 1#8 &&& 1 = firstcond &&& 1 := BitVec.and_assoc _ _ _
    rw [itT1Slot, itT1Slot, hb]
  rw [itT1State, itT1State, h]

-- The slot of the `k`-th instruction.
theorem itT1State_slot (hm : mask ≤ 15) (hk : 1 ≤ k) (hl : k ≤ itLength mask) :
    (itT1State firstcond mask 0 >>> (2 * (k - 1))) &&& 3 =
      if itBit firstcond mask k = firstcond.getLsbD 0 then itThen else itElse := by
  rw [itT1State_firstcond, itBit]
  generalize firstcond.getLsbD 0 = b
  obtain ⟨m, rfl⟩ := exists_setWidth hm
  have h : ∀ (b : Bool) (m : BitVec 4), ∀ k < 5, 1 ≤ k → k ≤ itLength (m.setWidth 8) →
      (itT1State ((BitVec.ofBool b).setWidth 8) (m.setWidth 8) 0 >>> (2 * (k - 1))) &&& 3 =
        if (if k = 1 then b else (m.setWidth 8 : Byte).getLsbD (5 - k)) = b then
          itThen
        else
          itElse := by
    decide
  exact h b m k (by unfold itLength at hl; omega) hk hl

-- No slots are left behind the block.
theorem itT1State_end (hm : mask ≤ 15) (h₀ : mask ≠ 0) (hk : itLength mask < k) :
    itT1State firstcond mask 0 >>> (2 * (k - 1)) = 0 := by
  rw [itT1State_firstcond]
  generalize firstcond.getLsbD 0 = b
  obtain ⟨m, rfl⟩ := exists_setWidth hm
  have h : ∀ (b : Bool) (m : BitVec 4), m.setWidth 8 ≠ 0#8 →
      itT1State ((BitVec.ofBool b).setWidth 8) (m.setWidth 8) 0 >>> (2 * itLength (m.setWidth 8)) =
        0 := by
    decide
  have hs : 2 * (k - 1) =
      2 * itLength (m.setWidth 8) + 2 * (k - 1 - itLength (m.setWidth 8)) := by omega
  rw [hs, BitVec.shiftRight_add, h b m h₀]
  exact BitVec.zero_ushiftRight

-- The two kinds of slots stand for the condition and its inverse.
theorem itNumber_eq (hf : firstcond ≤ 15) : itNumber firstcond mask k =
    if itBit firstcond mask k = firstcond.getLsbD 0 then firstcond else firstcond ^^^ 1 := by
  obtain ⟨f, rfl⟩ := exists_setWidth hf
  unfold itNumber
  generalize itBit (f.setWidth 8) mask k = b
  revert f b
  decide

theorem exists_number_eq {x : Byte} (h : x ≤ 14) : ∃ c : ItCond, c.number = x := by
  obtain ⟨y, rfl⟩ := exists_setWidth (BitVec.le_trans h (by decide))
  have h : ∀ y : BitVec 4, y.setWidth 8 ≤ 14#8 → ∃ c ∈ [.eq, .ne, .cs, .cc, .mi, .pl, .vs, .vc, .hi,
      .ls, .ge, .lt, .gt, .le, .al], ItCond.number c = y.setWidth 8 := by
    decide
  have ⟨c, _, hc⟩ := h y ‹_›
  exact ⟨c, hc⟩

theorem IsItBlock.exists_cond (h : IsItBlock firstcond mask) (hk : 1 ≤ k)
    (hl : k ≤ itLength mask) : ∃ c : ItCond, c.number = itNumber firstcond mask k := by
  apply exists_number_eq
  unfold itNumber
  by_cases hf : firstcond = 14
  case pos =>
    have hb : itBit firstcond mask k = false := by
      by_cases h₁ : k = 1
      case pos => simp [itBit, h₁, hf]
      case neg => simpa using h.noElse hf k (by unfold itLength at hl; omega) (by omega) hl
    rw [hb, hf]
    decide
  case neg =>
    have hle := h.firstcond_le
    clear h
    generalize itBit firstcond mask k = b
    obtain ⟨f, rfl⟩ := exists_setWidth (BitVec.le_trans hle (by decide))
    revert f b
    decide

end

variable {U : Type} {host : Callbacks U} {ctx ctx' : EmuCtx U} {s s' : InsnEmuCtx U}
  {firstcond mask : Byte} {a : Args} {k n : Nat}

-- The slot that counts for the next instruction decides about its condition.
theorem shouldExec_iff {cpu : Cpu} {c : ItCond} (then' : Bool)
    (hs : cpu.itState &&& 3 = if then' then itThen else itElse)
    (hc : c.number = if then' then cpu.itCond else cpu.itCond ^^^ 1) :
    emulatorShouldExecNextInsn cpu ↔ c.Holds (flags cpu.psr) := by
  rw [← condSatisfied_iff, hc]
  simp only [emulatorShouldExecNextInsn, hs]
  cases then' <;> simp [itNone, itThen, itElse]

def itOpcode : Opcode where
  variant   := .itT1
  pattern   := ⟨0xff000000, 0xbf000000⟩
  length    := 2
  arguments := [
    ⟨.uint8, .firstcond, .plain, [⟨0xf00000, 20⟩]⟩, ⟨.uint8, .mask, .plain, [⟨0xf0000, 16⟩]⟩]

-- The decoder hands over four bits for each operand.
theorem Executes.itOperands_le (hx : Executes ctx .itT1 a) :
    a.uint8 .firstcond ≤ 15 ∧ a.uint8 .mask ≤ 15 := by
  obtain ⟨_, w, o, _, ho, hv, ha⟩ := hx
  have h : ∀ o ∈ opcodes, o.variant = .itT1 → o = itOpcode := by decide +kernel
  rw [h o (Pattern.firstMatch_some ho).left hv] at ha
  cases ha
  have hle : ∀ (m : Word) (n : Nat), m >>> n = 15 →
      (CType.uint8.convert (0 ||| (w &&& m) >>> n)).setWidth 8 ≤ 15 := by
    intro m n hm
    have h : (w >>> n &&& 15).toNat ≤ 15 := Nat.and_le_right
    have h₀ : (0 : Word) ||| w >>> n &&& 15 = w >>> n &&& 15 := BitVec.zero_or
    have h₁ : (15 : Byte).toNat = 15 := rfl
    rw [BitVec.ushiftRight_and_distrib, hm, h₀, CType.convert, BitVec.le_def, h₁]
    simp only [BitVec.toNat_setWidth]
    omega
  exact ⟨hle 0xf00000 20 rfl, hle 0xf0000 16 rfl⟩

section

variable (hp : host.Preserve fun ctx => (ctx.cpu.itCond, ctx.cpu.itState))
include hp

-- An instruction other than `it_T1` moves on to the next slot.
theorem itState_step (h : cpuSingleStep host ctx = .ok ctx') (hn : ∀ a, ¬Executes ctx .itT1 a) :
    ctx'.cpu.itCond = ctx.cpu.itCond ∧ ctx'.cpu.itState = ctx.cpu.itState >>> 2 := by
  obtain ⟨w, s, _, rfl, rfl | ⟨v, a, handler, hx, hh, hs⟩⟩ := cpuSingleStep_cases h
  · exact ⟨rfl, rfl⟩
  · have hi : v ≠ .itT1 := fun hv => hn a (hv ▸ hx)
    let I (s : InsnEmuCtx U) := s.shiftInsnItState = true ∧
      s.emuCtx.cpu.itCond = ctx.cpu.itCond ∧ s.emuCtx.cpu.itState = ctx.cpu.itState
    have hk : Keeps I (handler a) fun _ => True := by
      refine (Operation.emulationCallbacks Stable.top hi hh Allowed.top).keeps ?_
      refine Operation.keeps (fun _ _ => trivial) ?_ ?_
      · intro s s' he ⟨h, h', h''⟩
        exact ⟨he.shiftInsnItState.trans h, he.itCond.trans h', he.itState.trans h''⟩
      · intro α f hf s ⟨h, h', h''⟩
        have := hp α f hf s.emuCtx
        simp only [Prod.mk.injEq] at this
        exact ⟨h, this.left.trans h', this.right.trans h''⟩
    have ⟨⟨hf, hc, hi⟩, _⟩ := hk _ _ _ ⟨rfl, rfl, rfl⟩ hs
    simp [InsnEmuCtx.finish, InsnEmuCtx.nextItState, hf, hc, hi]

end

-- `it_T1` fills the slots.
theorem itState_itT1 (h : cpuSingleStep host ctx = .ok ctx') (h₀ : ctx.cpu.itState = 0)
    (hx : Executes ctx .itT1 a) : ctx'.cpu.itCond = a.uint8 .firstcond ∧
      ctx'.cpu.itState = itT1State (a.uint8 .firstcond) (a.uint8 .mask) 0 := by
  have ⟨_, hs⟩ : ∃ n, cpuSingleStep host ctx = .ok _ := hx.step rfl rfl
  cases h.symm.trans hs
  exact ⟨rfl, h₀ ▸ rfl⟩

-- In a run that begins with `it_T1`, the slots are used up one by one.
theorem Run.itState {r : Nat → EmuCtx U} (hr : Run (cpuSingleStep host) r n)
    (hp : host.Preserve fun ctx => (ctx.cpu.itCond, ctx.cpu.itState)) (h₀ : (r 0).cpu.itState = 0)
    (hx : Executes (r 0) .itT1 a) (hn : ∀ k < n, 1 ≤ k → ∀ a, ¬Executes (r k) .itT1 a) :
    ∀ k ≤ n, 1 ≤ k → (r k).cpu.itCond = a.uint8 .firstcond ∧
      (r k).cpu.itState = itT1State (a.uint8 .firstcond) (a.uint8 .mask) 0 >>> (2 * (k - 1)) := by
  let I (k : Nat) (ctx : EmuCtx U) := 1 ≤ k → ctx.cpu.itCond = a.uint8 .firstcond ∧
    ctx.cpu.itState = itT1State (a.uint8 .firstcond) (a.uint8 .mask) 0 >>> (2 * (k - 1))
  refine hr.invariant (I := I) (fun h => by simp at h) fun k hk hi hs _ => ?_
  by_cases h : k = 0
  case pos =>
    subst h
    have ⟨hc, hs⟩ := itState_itT1 hs h₀ hx
    refine ⟨hc, ?_⟩
    rw [hs, Nat.zero_add, Nat.sub_self, Nat.mul_zero, BitVec.ushiftRight_zero]
  case neg =>
    have hk' : 1 ≤ k := by omega
    have ⟨hc, hs⟩ := itState_step hp hs (hn k hk hk')
    have ⟨hc', hs'⟩ := hi hk'
    rw [hc, hs, hc', hs', ← BitVec.shiftRight_add]
    exact ⟨rfl, congrArg _ (by omega)⟩

-- A step that only advances PC. The result of `decode_insn` is the length of the instruction.
structure Skips (ctx ctx' : EmuCtx U) : Prop where
  reg    : ∀ i ≠ 15, ctx'.cpu.reg i = ctx.cpu.reg i
  flags  : ctx'.cpu.psr &&& flagMask = ctx.cpu.psr &&& flagMask
  memory : ctx'.memory = ctx.memory
  pc     : ∃ w, ctx.insnWord = .ok w ∧ ctx'.pc = ctx.pc + BitVec.ofNat 32 (insnLength w)

theorem skips_of_not_exec (h : cpuSingleStep host ctx = .ok ctx')
    (he : ¬emulatorShouldExecNextInsn ctx.cpu) : Skips ctx ctx' := by
  obtain ⟨w, hw, rfl⟩ := cpuSingleStep_of_not_exec h he
  exact {
    reg    := fun i hi => Function.update_of_ne hi ..
    flags  := itPsr_flags
    memory := rfl
    pc     := ⟨w, hw, rfl⟩
  }

-- The instructions of the block are executed under the conditions that the operands of `it_T1`
-- stand for, and behind the block all instructions are executed.
theorem Run.itBlock {r : Nat → EmuCtx U} (hr : Run (cpuSingleStep host) r n)
    (hp : host.Preserve fun ctx => (ctx.cpu.itCond, ctx.cpu.itState)) (h₀ : (r 0).cpu.itState = 0)
    (hx : Executes (r 0) .itT1 a) (hb : IsItBlock (a.uint8 .firstcond) (a.uint8 .mask))
    (hn : ∀ k < n, 1 ≤ k → ∀ a, ¬Executes (r k) .itT1 a) (hk : k ≤ n) (h₁ : 1 ≤ k) :
    (k ≤ itLength (a.uint8 .mask) →
      (∃ c : ItCond, c.number = itNumber (a.uint8 .firstcond) (a.uint8 .mask) k ∧
        ((r k).handlers host = some (emulationCallbacks host) ↔ c.Holds (flags (r k).cpu.psr))) ∧
      (k < n → (r k).handlers host = none → Skips (r k) (r (k + 1)))) ∧
    (itLength (a.uint8 .mask) < k →
      (r k).cpu.itState = 0 ∧ (r k).handlers host = some (emulationCallbacks host)) := by
  have ⟨hf, hm⟩ := hx.itOperands_le
  have ⟨hc, hs⟩ := hr.itState hp h₀ hx hn k hk h₁
  constructor
  case left =>
    intro hl
    refine ⟨?_, fun hk he => skips_of_not_exec (hr k hk) <| handlers_eq_none_iff.mp he⟩
    have ⟨c, hcn⟩ := hb.exists_cond h₁ hl
    refine ⟨c, hcn, handlers_eq_some_iff.trans <| shouldExec_iff
      (itBit (a.uint8 .firstcond) (a.uint8 .mask) k = (a.uint8 .firstcond).getLsbD 0) ?_ ?_⟩
    · rw [hs, itT1State_slot hm h₁ hl]
      simp only [decide_eq_true_eq]
    · rw [hcn, itNumber_eq hf, hc]
      simp only [decide_eq_true_eq]
  case right =>
    intro hl
    have h := hs.trans <| itT1State_end hm hb.mask_ne hl
    exact ⟨h, handlers_of_exec <| shouldExec_of_itState h⟩

-- The program `ite eq; moveq r0, #1; movne r0, #2; movs r0, #3`.
def iteProgram : EmuCtx Unit :=
  smallMachine [0x0c, 0xbf, 0x01, 0x20, 0x02, 0x20, 0x03, 0x20]

def iteArgs : Args :=
  Function.update (Function.update (fun _ => 0) .firstcond 0) .mask 12

theorem itBlock_iteProgram :
    let r := trace (cpuSingleStep noHost) iteProgram
    ∀ k ≤ 4, 1 ≤ k →
      (k ≤ itLength 12 →
        (∃ c : ItCond, c.number = itNumber 0 12 k ∧
          ((r k).handlers noHost = some (emulationCallbacks noHost) ↔
            c.Holds (flags (r k).cpu.psr))) ∧
        (k < 4 → (r k).handlers noHost = none → Skips (r k) (r (k + 1)))) ∧
      (itLength 12 < k →
        (r k).cpu.itState = 0 ∧ (r k).handlers noHost = some (emulationCallbacks noHost)) := by
  intro r k hk h₁
  have hr : Run (cpuSingleStep noHost) r 4 := run_trace <| by decide +kernel
  have h₀ : (r 0).cpu.itState = 0 := rfl
  have hx : Executes (r 0) .itT1 iteArgs :=
    ⟨shouldExec_of_itState h₀, 0xbf0c2001, itOpcode, by decide +kernel, by decide +kernel, rfl, rfl⟩
  have hb : IsItBlock (iteArgs.uint8 .firstcond) (iteArgs.uint8 .mask) := by decide
  have hv : ∀ k < 4, 1 ≤ k → (r k).nextInsn.all fun p => p.1 ≠ .itT1 := by decide +kernel
  have hn : ∀ k < 4, 1 ≤ k → ∀ a, ¬Executes (r k) .itT1 a :=
    fun k hk h₁ a hx => of_decide_eq_true (hx.of_nextInsn <| hv k hk h₁) rfl
  have h := Run.itBlock hr (noHost_preserve _) h₀ hx hb hn hk h₁
  exact h
