import Mathlib.Tactic.IntervalCases
import Thumb2Sim.Execution.Theorems.Step

open Program Emu Emulation

-- The common layout of `mov_imm_T3` and `movt_T1` is `11110 imm.2 op imm{4}.3 0 imm{3}.1 Rd{4}
-- imm{8}.0`.
def immWord (op : BitVec 6) (Rd : Fin 16) (imm : BitVec 16) : Word :=
  0b11110#5 ++ imm.extractLsb' 11 1 ++ op ++ imm.extractLsb' 12 4 ++ 0#1 ++ imm.extractLsb' 8 3 ++
    BitVec.ofNat 4 Rd ++ imm.extractLsb' 0 8

def movw (Rd : Fin 16) (imm : BitVec 16) : Word :=
  immWord 0b100100 Rd imm

def movt (Rd : Fin 16) (imm : BitVec 16) : Word :=
  immWord 0b101100 Rd imm

def movImmT3Opcode : Opcode where
  variant   := .movImmT3
  pattern   := ⟨0xfbf08000, 0xf2400000⟩
  length    := 4
  arguments := [
    ⟨.uint8, .Rd, .plain, [⟨0xf00, 8⟩]⟩,
    ⟨.uint16, .imm, .plain, [⟨0x4000000, 15⟩, ⟨0xf7000, 4⟩, ⟨0xff, 0⟩]⟩]

def movtT1Opcode : Opcode where
  variant   := .movtT1
  pattern   := ⟨0xfbf08000, 0xf2c00000⟩
  length    := 4
  arguments := [
    ⟨.uint8, .Rd, .plain, [⟨0xf00, 8⟩]⟩,
    ⟨.uint16, .imm, .plain, [⟨0x4000000, 15⟩, ⟨0xf7000, 4⟩, ⟨0xff, 0⟩]⟩]

def movRegT3Opcode : Opcode where
  variant   := .movRegT3
  pattern   := ⟨0xffeff0f0, 0xf24f0000⟩
  length    := 4
  arguments := [
    ⟨.uint8, .Rd, .plain, [⟨0xf00, 8⟩]⟩, ⟨.uint8, .Rm, .plain, [⟨0xf, 0⟩]⟩,
    ⟨.bool, .S, .plain, [⟨0x100000, 20⟩]⟩]

section

variable {op : BitVec 6} {Rd : Fin 16} {imm : BitVec 16} {w : Word}

theorem immWord_getLsbD (i : Nat) : (immWord op Rd imm).getLsbD i =
    if i < 8 then imm.getLsbD i else
    if i < 12 then (BitVec.ofNat 4 Rd).getLsbD (i - 8) else
    if i < 15 then imm.getLsbD (i - 4) else
    if i < 16 then false else
    if i < 20 then imm.getLsbD (i - 4) else
    if i < 26 then op.getLsbD (i - 20) else
    if i < 27 then imm.getLsbD (i - 15) else
    (0b11110#5).getLsbD (i - 27) := by
  change BitVec.getLsbD (w := 5 + 1 + 6 + 4 + 1 + 3 + 4 + 8) (_ ++ _) i = _
  simp only [BitVec.getLsbD_append, BitVec.getLsbD_extractLsb']
  have hi : i < 8 ∨ 8 ≤ i ∧ i < 12 ∨ 12 ≤ i ∧ i < 15 ∨ i = 15 ∨ 16 ≤ i ∧ i < 20 ∨ 20 ≤ i ∧ i < 26 ∨
      i = 26 ∨ 27 ≤ i := by omega
  rcases hi with h | h | h | h | h | h | h | h <;>
    simp (disch := omega) only [if_pos, if_neg, decide_eq_true, Bool.true_and,
      BitVec.getLsbD_zero] <;>
    congr 1 <;> omega

-- `mov_reg_T3` comes in front of `mov_imm_T3`.
theorem firstMatchOf_constant :
    Pattern.firstMatchOf Opcode.pattern movImmT3Opcode.pattern [movRegT3Opcode.pattern] opcodes =
      some movImmT3Opcode ∧
    Pattern.firstMatchOf Opcode.pattern movRegT3Opcode.pattern [] opcodes = some movRegT3Opcode ∧
    Pattern.firstMatchOf Opcode.pattern movtT1Opcode.pattern [] opcodes = some movtT1Opcode := by
  decide +kernel

theorem decode_movImmT3 (hp : movImmT3Opcode.pattern.Matches w)
    (hn : ¬movRegT3Opcode.pattern.Matches w) : decode w = some movImmT3Opcode :=
  decode_eq_of_matches firstMatchOf_constant.left hp <| List.forall_mem_singleton.mpr hn

theorem decode_movRegT3 (hp : movRegT3Opcode.pattern.Matches w) :
    decode w = some movRegT3Opcode :=
  decode_eq_of_matches firstMatchOf_constant.right.left hp <| List.forall_mem_nil _

theorem decode_movtT1 (hp : movtT1Opcode.pattern.Matches w) : decode w = some movtT1Opcode :=
  decode_eq_of_matches firstMatchOf_constant.right.right hp <| List.forall_mem_nil _

theorem movw_matches : movImmT3Opcode.pattern.Matches (movw Rd imm) := by
  apply BitVec.eq_of_getLsbD_eq
  intro i hi
  simp only [movImmT3Opcode, movw, BitVec.getLsbD_and, immWord_getLsbD]
  interval_cases i <;> simp only [BitVec.reduceGetLsb, Nat.reduceLT, Nat.reduceSub, Bool.and_false,
    Bool.true_and, ↓reduceIte, Bool.false_and]

theorem movt_matches : movtT1Opcode.pattern.Matches (movt Rd imm) := by
  apply BitVec.eq_of_getLsbD_eq
  intro i hi
  simp only [movtT1Opcode, movt, BitVec.getLsbD_and, immWord_getLsbD]
  interval_cases i <;> simp only [BitVec.reduceGetLsb, Nat.reduceLT, Nat.reduceSub, Bool.and_false,
    Bool.true_and, ↓reduceIte, Bool.false_and]

-- The immediates whose four upper bits are set and whose eight middle bits are not.
theorem ushiftRight_four_iff : imm >>> 4 = 0xf00 ↔ 0xf000 ≤ imm.toNat ∧ imm.toNat ≤ 0xf00f := by
  rw [← BitVec.toNat_inj, BitVec.toNat_ushiftRight, Nat.shiftRight_eq_div_pow]
  change _ = 0xf00 ↔ _
  omega

-- `mov_reg_T3` captures the words with these immediates.
theorem movw_matches_movRegT3_iff :
    movRegT3Opcode.pattern.Matches (movw Rd imm) ↔ 0xf000 ≤ imm.toNat ∧ imm.toNat ≤ 0xf00f := by
  rw [← ushiftRight_four_iff, Pattern.Matches]
  constructor
  case mp =>
    intro h
    have hb : ∀ j ∈ [4, 5, 6, 7, 12, 13, 14, 26, 16, 17, 18, 19],
        (movw Rd imm).getLsbD j = movRegT3Opcode.pattern.cmp.getLsbD j := by
      intro j hj
      have hm : movRegT3Opcode.pattern.mask.getLsbD j = true := by revert j; decide
      rw [← h, BitVec.getLsbD_and, hm, Bool.and_true]
    simp only [movw, immWord_getLsbD, movRegT3Opcode, List.forall_mem_cons, Nat.reduceLT,
      Nat.reduceSub, ↓reduceIte, BitVec.reduceGetLsb] at hb
    apply BitVec.eq_of_getLsbD_eq
    intro i hi
    rw [BitVec.getLsbD_ushiftRight]
    interval_cases i <;> simp only [Nat.reduceAdd, Nat.reduceLeDiff, hb, BitVec.getLsbD_of_ge,
      BitVec.reduceGetLsb]
  case mpr =>
    intro h
    have hb : ∀ j, 4 ≤ j → imm.getLsbD j = (0xf00#16).getLsbD (j - 4) := by
      intro j hj
      have h : (imm >>> 4).getLsbD (j - 4) = (0xf00#16).getLsbD (j - 4) := by rw [h]; rfl
      rwa [BitVec.getLsbD_ushiftRight, Nat.add_sub_cancel' hj] at h
    apply BitVec.eq_of_getLsbD_eq
    intro i hi
    simp only [movRegT3Opcode, movw, BitVec.getLsbD_and, immWord_getLsbD]
    interval_cases i <;> simp only [Nat.reduceLT, Nat.reduceLeDiff, Nat.reduceSub, ↓reduceIte, hb,
      BitVec.reduceGetLsb, Bool.and_false, Bool.and_true]

-- What the decoder takes out of the words.
theorem immWord_Rd : (immWord op Rd imm &&& 0xf00) >>> 8 = (BitVec.ofNat 4 Rd).setWidth 32 := by
  apply BitVec.eq_of_getLsbD_eq
  intro i hi
  simp only [BitVec.getLsbD_and, BitVec.getLsbD_ushiftRight, immWord_getLsbD,
    BitVec.getLsbD_setWidth]
  interval_cases i <;> simp only [BitVec.reduceGetLsb, Nat.reduceLT, Nat.reduceAdd,
    Nat.reduceLeDiff, decide_true, Bool.and_true, Bool.and_false, Bool.true_and, ↓reduceIte,
    BitVec.getLsbD_of_ge]

theorem immWord_imm : 0 ||| (immWord op Rd imm &&& 0x4000000) >>> 15 |||
    (immWord op Rd imm &&& 0xf7000) >>> 4 ||| (immWord op Rd imm &&& 0xff) >>> 0 =
    imm.setWidth 32 := by
  apply BitVec.eq_of_getLsbD_eq
  intro i hi
  simp only [BitVec.getLsbD_or, BitVec.getLsbD_and, BitVec.getLsbD_ushiftRight, immWord_getLsbD,
    BitVec.getLsbD_setWidth]
  interval_cases i <;> simp only [BitVec.reduceGetLsb, Nat.reduceLT, Nat.reduceAdd,
    Nat.reduceLeDiff, decide_true, Bool.and_true, Bool.and_false, Bool.true_and, Bool.or_false,
    Bool.false_or, ↓reduceIte, BitVec.natCast_eq_ofNat, BitVec.getLsbD_of_ge]

def immArgs (w : Word) : Args :=
  let Rd  := (0 : Word) ||| (w &&& 0xf00) >>> 8
  let imm := (0 : Word) ||| (w &&& 0x4000000) >>> 15 ||| (w &&& 0xf7000) >>> 4 |||
    (w &&& 0xff) >>> 0
  Function.update (Function.update (fun _ => 0) .Rd (CType.uint8.convert Rd))
    .imm (CType.uint16.convert imm)

theorem immArgs_Rd : (immArgs (immWord op Rd imm)).uint8 .Rd = regNo Rd := by
  change BitVec.setWidth 8 (CType.uint8.convert (0 ||| (immWord op Rd imm &&& 0xf00) >>> 8)) = _
  rw [immWord_Rd]
  revert Rd
  decide

theorem immArgs_imm : (immArgs (immWord op Rd imm)).uint16 .imm = imm := by
  change BitVec.setWidth 16 (CType.uint16.convert <|
    0 ||| (immWord op Rd imm &&& 0x4000000) >>> 15 ||| (immWord op Rd imm &&& 0xf7000) >>> 4 |||
      (immWord op Rd imm &&& 0xff) >>> 0) = _
  rw [immWord_imm]
  simp [CType.convert]

end

variable {U : Type} {host : Callbacks U} {ctx ctx' ctx'' : EmuCtx U} {Rd : Fin 16}
  {imm : BitVec 16} {v v' x : Word} {m n : Nat}

-- The register `Rd` has got the value `v`, and PC has advanced by `n` bytes. Nothing else changes
-- that the guest can observe.
structure Loads (ctx ctx' : EmuCtx U) (Rd : Fin 16) (v : Word) (n : Nat) : Prop where
  value     : ctx'.cpu.reg Rd = v
  pc        : ctx'.pc = ctx.pc + BitVec.ofNat 32 n
  reg       : ∀ i ≠ Rd, i ≠ 15 → ctx'.cpu.reg i = ctx.cpu.reg i
  flags     : ctx'.cpu.psr &&& flagMask = ctx.cpu.psr &&& flagMask
  itState   : ctx'.cpu.itState = 0
  memory    : ctx'.memory = ctx.memory
  addrSpace : ctx'.addrSpace = ctx.addrSpace

theorem Loads.trans (h : Loads ctx ctx' Rd v m) (h' : Loads ctx' ctx'' Rd v' n) :
    Loads ctx ctx'' Rd v' (m + n) where
  value     := h'.value
  pc        := by rw [h'.pc, h.pc, BitVec.add_assoc, BitVec.ofNat_add]
  reg       := fun i hi hp => (h'.reg i hi hp).trans (h.reg i hi hp)
  flags     := h'.flags.trans h.flags
  itState   := h'.itState
  memory    := h'.memory.trans h.memory
  addrSpace := h'.addrSpace.trans h.addrSpace

theorem loads_finish (h₀ : ctx.cpu.itState = 0) (hR : Rd ≠ 15) :
    Loads ctx ({ ctx.insnCtx with emuCtx := ctx.setReg Rd v }.finish n) Rd v n where
  value     := by simp only [InsnEmuCtx.finish, EmuCtx.setReg, Function.update_of_ne hR,
    Function.update_self]
  pc        := by simp only [InsnEmuCtx.finish, InsnEmuCtx.nextPc, EmuCtx.insnCtx, EmuCtx.pc,
    EmuCtx.setReg, Function.update_self, Function.update_of_ne hR.symm, if_true]
  reg       := fun i hi hp => by simp only [InsnEmuCtx.finish, EmuCtx.setReg,
    Function.update_of_ne hp, Function.update_of_ne hi]
  flags     := itPsr_flags
  itState   := by
    change ctx.cpu.itState >>> 2 = 0
    rw [h₀]
    rfl
  memory    := rfl
  addrSpace := rfl

theorem step_movw (h₀ : ctx.cpu.itState = 0) (hR : Rd ≠ 15) (hw : ctx.insnWord = .ok (movw Rd imm))
    (hn : ¬(0xf000 ≤ imm.toNat ∧ imm.toNat ≤ 0xf00f)) :
    ∃ ctx', cpuSingleStep host ctx = .ok ctx' ∧ Loads ctx ctx' Rd (imm.setWidth 32) 4 := by
  have ho : decode (movw Rd imm) = some movImmT3Opcode :=
    decode_movImmT3 movw_matches <| movw_matches_movRegT3_iff.not.mpr hn
  refine ⟨_, cpuSingleStep_of_handler (a := immArgs (movw Rd imm)) (shouldExec_of_itState h₀) hw ho
    rfl rfl ?_, loads_finish h₀ hR⟩
  rw [movw, immArgs_Rd, immArgs_imm]
  exact setReg_regNo

theorem step_movRegT3 (h₀ : ctx.cpu.itState = 0) (hR : Rd ≠ 15)
    (hw : ctx.insnWord = .ok (movw Rd imm)) (hc : 0xf000 ≤ imm.toNat ∧ imm.toNat ≤ 0xf00f) :
    ∃ ctx', cpuSingleStep host ctx = .ok ctx' ∧ Loads ctx ctx' Rd (ctx.cpu.reg Rd) 4 := by
  have ho : decode (movw Rd imm) = some movRegT3Opcode :=
    decode_movRegT3 <| movw_matches_movRegT3_iff.mpr hc
  have hs : ctx.setReg Rd (ctx.cpu.reg Rd) = ctx := by
    simp only [EmuCtx.setReg, Function.update_eq_self]
  have hl := loads_finish (v := ctx.cpu.reg Rd) (n := 4) h₀ hR
  rw [hs] at hl
  exact ⟨_, cpuSingleStep_of_handler (shouldExec_of_itState h₀) hw ho rfl rfl rfl, hl⟩

theorem step_movt (h₀ : ctx.cpu.itState = 0) (hR : Rd ≠ 15)
    (hw : ctx.insnWord = .ok (movt Rd imm)) :
    ∃ ctx', cpuSingleStep host ctx = .ok ctx' ∧
      Loads ctx ctx' Rd (ctx.cpu.reg Rd &&& 0xffff#32 ||| imm.setWidth 32 <<< 16) 4 := by
  have ho : decode (movt Rd imm) = some movtT1Opcode := decode_movtT1 movt_matches
  refine ⟨_, cpuSingleStep_of_handler (a := immArgs (movt Rd imm)) (shouldExec_of_itState h₀) hw ho
    rfl rfl ?_, loads_finish h₀ hR⟩
  rw [movt, immArgs_Rd, immArgs_imm]
  rw [i32MovtT1, bind_of_ok getReg_regNo, bind_of_ok setReg_regNo, bind_of_ok getReg_regNo,
    setReg_regNo]
  simp only [EmuCtx.setReg, EmuCtx.insnCtx, Function.update_self, Function.update_idem]
  rfl

-- The halfwords of a word.
theorem halfwords_eq_iff :
    x &&& 0xffff#32 ||| ((v >>> 16).setWidth 16).setWidth 32 <<< 16 = v ↔
    x.setWidth 16 = v.setWidth 16 := by
  have hm : ∀ i < 32, (0xffff#32).getLsbD i = decide (i < 16) := by decide
  constructor
  case mp =>
    intro h
    apply BitVec.eq_of_getLsbD_eq
    intro i hi
    have hb := congrArg (·.getLsbD i) h
    simpa [hm i (by omega), hi, - BitVec.getLsbD_eq_getElem] using hb
  case mpr =>
    intro h
    apply BitVec.eq_of_getLsbD_eq
    intro i hi
    have hb := congrArg (·.getLsbD i) h
    by_cases hl : i < 16
    case pos => simpa [hm i hi, hl, - BitVec.getLsbD_eq_getElem] using hb
    case neg =>
      have hs : 16 + (i - 16) = i := by omega
      have hh : i - 16 < 16 := by omega
      have hw : i - 16 < 32 := by omega
      simp [hm i hi, hl, hi, hs, hh, hw, - BitVec.getLsbD_eq_getElem]

-- The two instructions, one behind the other, load a constant.
def LoadsConstant (host : Callbacks U) (ctx : EmuCtx U) (Rd : Fin 16) (v : Word) : Prop :=
  ∃ ctx' ctx'', cpuSingleStep host ctx = .ok ctx' ∧ cpuSingleStep host ctx' = .ok ctx'' ∧
    Loads ctx ctx'' Rd v 8

theorem loadsConstant_iff_of_step {low : Word} (hR : Rd ≠ 15)
    (hs : cpuSingleStep host ctx = .ok ctx') (hl : Loads ctx ctx' Rd low 4)
    (hw : addrspaceReadInsnWord ctx.addrSpace ctx.memory (ctx.pc + 4) =
      .ok (movt Rd <| (v >>> 16).setWidth 16)) :
    LoadsConstant host ctx Rd v ↔ low.setWidth 16 = v.setWidth 16 := by
  have hw' : ctx'.insnWord = .ok (movt Rd <| (v >>> 16).setWidth 16) := by
    rw [EmuCtx.insnWord, hl.addrSpace, hl.memory, hl.pc]
    exact hw
  have ⟨ctx'', hs', hl'⟩ : ∃ ctx'', cpuSingleStep host ctx' = .ok ctx'' ∧ _ :=
    step_movt hl.itState hR hw'
  have ht := hl.trans hl'
  rw [hl.value] at ht
  rw [← halfwords_eq_iff]
  constructor
  case mp =>
    intro ⟨c, c', hc, hc', h⟩
    cases hs.symm.trans hc
    cases hs'.symm.trans hc'
    exact ht.value.symm.trans h.value
  case mpr =>
    intro h
    rw [h] at ht
    exact ⟨ctx', ctx'', hs, hs', ht⟩

-- MOVW and MOVT load a constant unless the decoder takes MOVW for another instruction, which has no
-- effect, and the register does not hold the lower halfword already.
theorem loadsConstant_iff (h₀ : ctx.cpu.itState = 0) (hR : Rd ≠ 15)
    (hw : ctx.insnWord = .ok (movw Rd <| v.setWidth 16))
    (ht : addrspaceReadInsnWord ctx.addrSpace ctx.memory (ctx.pc + 4) =
      .ok (movt Rd <| (v >>> 16).setWidth 16)) :
    LoadsConstant host ctx Rd v ↔
    ¬(0xf000 ≤ v.toNat % 2 ^ 16 ∧ v.toNat % 2 ^ 16 ≤ 0xf00f) ∨
      (ctx.cpu.reg Rd).setWidth 16 = v.setWidth 16 := by
  rw [← BitVec.toNat_setWidth]
  by_cases hc : 0xf000 ≤ (v.setWidth 16).toNat ∧ (v.setWidth 16).toNat ≤ 0xf00f
  case pos =>
    have ⟨ctx', hs, hl⟩ : ∃ ctx', cpuSingleStep host ctx = .ok ctx' ∧ _ :=
      step_movRegT3 h₀ hR hw hc
    rw [loadsConstant_iff_of_step hR hs hl ht]
    simp only [hc, and_self, not_true_eq_false, false_or]
  case neg =>
    have ⟨ctx', hs, hl⟩ : ∃ ctx', cpuSingleStep host ctx = .ok ctx' ∧ _ := step_movw h₀ hR hw hc
    rw [loadsConstant_iff_of_step hR hs hl ht]
    simp only [hc, not_false_eq_true, true_or, iff_true]
    simp

-- `movw r5, #0x5678; movt r5, #0x1234`
theorem loadsConstant_iff_r5 :
    let ctx := smallMachine [0x45, 0xf2, 0x78, 0x65, 0xc1, 0xf2, 0x34, 0x25]
    LoadsConstant noHost ctx 5 0x12345678 ↔
    ¬(0xf000 ≤ (0x12345678 : Word).toNat % 2 ^ 16 ∧ (0x12345678 : Word).toNat % 2 ^ 16 ≤ 0xf00f) ∨
      (0 : Word).setWidth 16 = (0x12345678 : Word).setWidth 16 :=
  loadsConstant_iff rfl (by decide) (by decide +kernel) (by decide +kernel)

-- The constant 0xf000 is not loaded into a register that holds zero.
theorem not_forall_loadsConstant :
    ¬∀ (host : Callbacks Unit) (ctx : EmuCtx Unit) (Rd : Fin 16) (v : Word), ctx.cpu.itState = 0 →
      Rd ≠ 13 → Rd ≠ 15 → ctx.insnWord = .ok (movw Rd <| v.setWidth 16) →
      addrspaceReadInsnWord ctx.addrSpace ctx.memory (ctx.pc + 4) =
        .ok (movt Rd <| (v >>> 16).setWidth 16) →
      LoadsConstant host ctx Rd v := by
  intro h
  let ctx := smallMachine [0x4f, 0xf2, 0x00, 0x00, 0xc0, 0xf2, 0x00, 0x00]
  have ⟨ctx', ctx'', hs, hs', hl⟩ := h noHost ctx 0 0xf000 rfl (by decide) (by decide)
    (by decide +kernel) (by decide +kernel)
  have hr : (cpuSingleStep noHost ctx >>= cpuSingleStep noHost).map (·.cpu.reg 0) = .ok 0 := by
    decide +kernel
  rw [hs] at hr
  change Except.map _ (cpuSingleStep noHost ctx') = _ at hr
  rw [hs'] at hr
  have hz : ctx''.cpu.reg 0 = 0 := Except.ok.inj hr
  exact absurd (hl.value.symm.trans hz) (by decide)
