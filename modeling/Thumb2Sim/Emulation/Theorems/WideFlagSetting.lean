import Thumb2Sim.Emulation.Theorems.Arithmetic
import Thumb2Sim.Emulation.Theorems.FlagSetting

open Program Emu

-- The same values of N and Z belong to the words.
def FlagEquiv (v w : Word) : Prop :=
  v.getLsbD 31 = w.getLsbD 31 ∧ (v = 0 ↔ w = 0)

section

variable {v w x y psr : Word} {f : Flags} {op : SumOp} {overflow : SignedOverflow}

theorem Flags.Fit.iff_flagEquiv (h : f.Fit v) : f.Fit w ↔ FlagEquiv v w := by
  obtain ⟨hn, hz⟩ := h
  rw [Flags.Fit, FlagEquiv, hn, hz, decide_eq_decide]

-- Only the last ones of the words with the same flags differ from their successors.
theorem flagEquiv_succ_iff : FlagEquiv (v + 1) v ↔ v ≠ 0 ∧ v ≠ 0x7fffffff ∧ v ≠ 0xffffffff := by
  have hn (x : Word) : x.getLsbD 31 = decide (2 ^ 31 ≤ x.toNat) :=
    (BitVec.msb_eq_getLsbD_last x).symm.trans <| BitVec.msb_eq_decide x
  have hz (x : Word) : x = 0 ↔ x.toNat = 0 := BitVec.toNat_inj (y := 0) |>.symm
  have hs : (v + 1).toNat = (v.toNat + 1) % 2 ^ 32 := BitVec.toNat_add v 1
  have := v.isLt
  rw [FlagEquiv, hn, hn, decide_eq_decide, hz, hz, hs, ne_eq, ne_eq, ne_eq, ← BitVec.toNat_inj,
    ← BitVec.toNat_inj, ← BitVec.toNat_inj]
  simp only [BitVec.reduceToNat]
  omega

theorem fit_condCode :
    (flags (psr &&& ~~~flagMask ||| op.condCode overflow x y)).Fit (op.value x y) := by
  rw [flags_setCondCode, SumOp.flags_condCode]
  cases op <;> exact ⟨rfl, rfl⟩

-- The flag for saturation is cleared.
theorem allFlags_condCode : allFlags (psr &&& ~~~flagMask ||| op.condCode overflow x y) =
    { toFlags := op.buildFlags overflow x y, q := false } := by
  have hm : (~~~flagMask).getLsbD 27 = false := rfl
  have hq : (op.condCode overflow x y).getLsbD 27 = false := by
    cases op
    case add =>
      simp only [SumOp.condCode, addCondCode]
      split_ifs <;> rfl
    case sub =>
      simp only [SumOp.condCode, subCondCode]
      split_ifs <;> rfl
  rw [allFlags, flags_setCondCode, SumOp.flags_condCode, BitVec.getLsbD_or, BitVec.getLsbD_and, hm,
    hq, Bool.and_false, Bool.or_false]

end

namespace Emulation

-- The wide instructions for data processing that are implemented.
inductive WideInsn
  | andImmT1 (Rd Rn : Fin 16) (imm : Word) (S : Bool)
  | bicImmT1 (Rd Rn : Fin 16) (imm : Word) (S : Bool)
  | eorImmT1 (Rd Rn : Fin 16) (imm : Word) (S : Bool)
  | orrImmT1 (Rd Rn : Fin 16) (imm : Word) (S : Bool)
  | andRegT2 (Rd Rn Rm : Fin 16) (imm type : Byte) (S : Bool)
  | bicRegT2 (Rd Rn Rm : Fin 16) (imm type : Byte) (S : Bool)
  | eorRegT2 (Rd Rn Rm : Fin 16) (imm type : Byte) (S : Bool)
  | ornRegT1 (Rd Rn Rm : Fin 16) (imm type : Byte) (S : Bool)
  | orrRegT2 (Rd Rn Rm : Fin 16) (imm type : Byte) (S : Bool)
  | movImmT2 (Rd : Fin 16) (imm : Word) (S : Bool)
  | movImmT3 (Rd : Fin 16) (imm : BitVec 16)
  | mvnImmT1 (Rd : Fin 16) (imm : Word) (S : Bool)
  | mvnRegT2 (Rd Rm : Fin 16) (imm : Word) (type : Byte) (S : Bool)
  | adcImmT1 (Rd Rn : Fin 16) (imm : Word) (S : Bool)
  | adcRegT2 (Rd Rn Rm : Fin 16) (imm type : Byte) (S : Bool)
  | addSPiT3 (Rd : Fin 16) (imm : Word) (S : Bool)
  | addSPrT3 (Rd Rm : Fin 16) (imm type : Byte) (S : Bool)
  | addImmT3 (Rd Rn : Fin 16) (imm : Word) (S : Bool)
  | addRegT3 (Rd Rn Rm : Fin 16) (imm type : Byte) (S : Bool)
  | subImmT3 (Rd Rn : Fin 16) (imm : Word) (S : Bool)
  | subImmT4 (Rd Rn : Fin 16) (imm : BitVec 16)
  | subRegT2 (Rd Rn Rm : Fin 16) (imm type : Byte) (S : Bool)
  | rsbImmT2 (Rd Rn : Fin 16) (imm : Word) (S : Bool)
  | rsbRegT1 (Rd Rn Rm : Fin 16) (imm type : Byte) (S : Bool)
  | lslImmT2 (Rd Rm : Fin 16) (imm : Byte) (S : Bool)
  | lslRegT2 (Rd Rn Rm : Fin 16) (S : Bool)
  | lsrImmT2 (Rd Rm : Fin 16) (imm : Byte) (S : Bool)
  | lsrRegT2 (Rd Rn Rm : Fin 16) (S : Bool)
  | rorImmT1 (Rd Rm : Fin 16) (imm : Byte) (S : Bool)

namespace WideInsn

variable {U : Type}

def handler (overflow : SignedOverflow) : WideInsn → Emu U Unit
  | andImmT1 Rd Rn imm S         => i32AndImmT1 (regNo Rd) (regNo Rn) imm S
  | bicImmT1 Rd Rn imm S         => i32BicImmT1 (regNo Rd) (regNo Rn) imm S
  | eorImmT1 Rd Rn imm S         => i32EorImmT1 (regNo Rd) (regNo Rn) imm S
  | orrImmT1 Rd Rn imm S         => i32OrrImmT1 (regNo Rd) (regNo Rn) imm S
  | andRegT2 Rd Rn Rm imm type S => i32AndRegT2 (regNo Rd) (regNo Rn) (regNo Rm) imm type S
  | bicRegT2 Rd Rn Rm imm type S => i32BicRegT2 (regNo Rd) (regNo Rn) (regNo Rm) imm type S
  | eorRegT2 Rd Rn Rm imm type S => i32EorRegT2 (regNo Rd) (regNo Rn) (regNo Rm) imm type S
  | ornRegT1 Rd Rn Rm imm type S => i32OrnRegT1 (regNo Rd) (regNo Rn) (regNo Rm) imm type S
  | orrRegT2 Rd Rn Rm imm type S => i32OrrRegT2 (regNo Rd) (regNo Rn) (regNo Rm) imm type S
  | movImmT2 Rd imm S            => i32MovImmT2 (regNo Rd) imm S
  | movImmT3 Rd imm              => i32MovImmT3 (regNo Rd) imm
  | mvnImmT1 Rd imm S            => i32MvnImmT1 (regNo Rd) imm S
  | mvnRegT2 Rd Rm imm type S    => i32MvnRegT2 (regNo Rd) (regNo Rm) imm type S
  | adcImmT1 Rd Rn imm S         => i32AdcImmT1 (regNo Rd) (regNo Rn) imm S
  | adcRegT2 Rd Rn Rm imm type S => i32AdcRegT2 (regNo Rd) (regNo Rn) (regNo Rm) imm type S
  | addSPiT3 Rd imm S            => i32AddSPiT3 (regNo Rd) imm S
  | addSPrT3 Rd Rm imm type S    => i32AddSPrT3 (regNo Rd) (regNo Rm) imm type S
  | addImmT3 Rd Rn imm S         => i32AddImmT3 (regNo Rd) (regNo Rn) imm S
  | addRegT3 Rd Rn Rm imm type S => i32AddRegT3 (regNo Rd) (regNo Rn) (regNo Rm) imm type S
  | subImmT3 Rd Rn imm S         => i32SubImmT3 overflow (regNo Rd) (regNo Rn) imm S
  | subImmT4 Rd Rn imm           => i32SubImmT4 overflow (regNo Rd) (regNo Rn) imm
  | subRegT2 Rd Rn Rm imm type S => i32SubRegT2 overflow (regNo Rd) (regNo Rn) (regNo Rm) imm type S
  | rsbImmT2 Rd Rn imm S         => i32RsbImmT2 overflow (regNo Rd) (regNo Rn) imm S
  | rsbRegT1 Rd Rn Rm imm type S => i32RsbRegT1 overflow (regNo Rd) (regNo Rn) (regNo Rm) imm type S
  | lslImmT2 Rd Rm imm S         => i32LslImmT2 (regNo Rd) (regNo Rm) imm S
  | lslRegT2 Rd Rn Rm S          => i32LslRegT2 (regNo Rd) (regNo Rn) (regNo Rm) S
  | lsrImmT2 Rd Rm imm S         => i32LsrImmT2 (regNo Rd) (regNo Rm) imm S
  | lsrRegT2 Rd Rn Rm S          => i32LsrRegT2 (regNo Rd) (regNo Rn) (regNo Rm) S
  | rorImmT1 Rd Rm imm S         => i32RorImmT1 (regNo Rd) (regNo Rm) imm S

def dest : WideInsn → Fin 16
  | andImmT1 Rd .. | bicImmT1 Rd .. | eorImmT1 Rd .. | orrImmT1 Rd .. | andRegT2 Rd .. => Rd
  | bicRegT2 Rd .. | eorRegT2 Rd .. | ornRegT1 Rd .. | orrRegT2 Rd .. | movImmT2 Rd .. => Rd
  | movImmT3 Rd .. | mvnImmT1 Rd .. | mvnRegT2 Rd .. | adcImmT1 Rd .. | adcRegT2 Rd .. => Rd
  | addSPiT3 Rd .. | addSPrT3 Rd .. | addImmT3 Rd .. | addRegT3 Rd .. | subImmT3 Rd .. => Rd
  | subImmT4 Rd .. | subRegT2 Rd .. | rsbImmT2 Rd .. | rsbRegT1 Rd .. | lslImmT2 Rd .. => Rd
  | lslRegT2 Rd .. | lsrImmT2 Rd .. | lsrRegT2 Rd .. | rorImmT1 Rd ..                  => Rd

-- The bit for the flags. Two of the instructions have none.
def S : WideInsn → Bool
  | andImmT1 _ _ _ S | bicImmT1 _ _ _ S | eorImmT1 _ _ _ S | orrImmT1 _ _ _ S => S
  | andRegT2 _ _ _ _ _ S | bicRegT2 _ _ _ _ _ S | eorRegT2 _ _ _ _ _ S        => S
  | ornRegT1 _ _ _ _ _ S | orrRegT2 _ _ _ _ _ S                               => S
  | movImmT2 _ _ S | mvnImmT1 _ _ S | mvnRegT2 _ _ _ _ S                      => S
  | adcImmT1 _ _ _ S | adcRegT2 _ _ _ _ _ S                                   => S
  | addSPiT3 _ _ S | addSPrT3 _ _ _ _ S                                       => S
  | addImmT3 _ _ _ S | subImmT3 _ _ _ S | rsbImmT2 _ _ _ S                    => S
  | addRegT3 _ _ _ _ _ S | subRegT2 _ _ _ _ _ S | rsbRegT1 _ _ _ _ _ S        => S
  | lslImmT2 _ _ _ S | lslRegT2 _ _ _ S | lsrImmT2 _ _ _ S | lsrRegT2 _ _ _ S => S
  | rorImmT1 _ _ _ S                                                          => S
  | movImmT3 .. | subImmT4 ..                                                 => false

-- The constant of a shift has five bits.
def Encodable : WideInsn → Prop
  | andRegT2 _ _ _ imm _ _ | bicRegT2 _ _ _ imm _ _ | eorRegT2 _ _ _ imm _ _ => imm.toNat < 32
  | ornRegT1 _ _ _ imm _ _ | orrRegT2 _ _ _ imm _ _ | adcRegT2 _ _ _ imm _ _ => imm.toNat < 32
  | addRegT3 _ _ _ imm _ _ | subRegT2 _ _ _ imm _ _ | rsbRegT1 _ _ _ imm _ _ => imm.toNat < 32
  | addSPrT3 _ _ imm _ _                                                     => imm.toNat < 32
  | lslImmT2 _ _ imm _ | lsrImmT2 _ _ imm _ | rorImmT1 _ _ imm _             => imm.toNat < 32
  | mvnRegT2 _ _ imm _ _                                                     => imm.toNat < 32
  | _                                                                        => True

def ObeysS (overflow : SignedOverflow) (s : InsnEmuCtx U) (i : WideInsn) : Prop :=
  FlagRule (i.S = false) (i.S = true) (i.handler overflow) s i.dest

-- The barrel shifter shifts by 1 to 31 to the right. The constant zero does not stand for 32.
def IsShift (type imm : Byte) : Prop :=
  type = typeLsr ∨ type = typeRor → imm ≠ 0

-- The carry that is added to an operand.
def carryIn (cpu : Cpu) : Word :=
  if cpu.psr &&& flagCarry ≠ 0 then 1 else 0

-- What the state has to be like for the handler to get it right. `mvn_imm_T1` sets the flags for
-- the operand, `adc_imm_T1` for the result plus one and `adc_reg_T2` for the sum with the old
-- content of the destination. `sub_imm_T4` sets the flags outside of an IT block, and `lsr_imm_T2`
-- does not in an IT block. Nothing is written to PC by `and_imm_T1` if S is set, and by
-- `and_reg_T2`, `bic_reg_T2` and `eor_reg_T2`.
def Accurate (overflow : SignedOverflow) (cpu : Cpu) : WideInsn → Prop
  | andImmT1 Rd Rn imm S => Rd = 15 → S → FlagEquiv (cpu.reg Rn &&& imm) (cpu.reg 15)
  | andRegT2 Rd _ _ imm type S | bicRegT2 Rd _ _ imm type S | eorRegT2 Rd _ _ imm type S =>
    if Rd = 15 then S → (flags cpu.psr).Fit (cpu.reg 15) else IsShift type imm
  | ornRegT1 _ _ _ imm type _ | orrRegT2 _ _ _ imm type _ | addSPrT3 _ _ imm type _ =>
    IsShift type imm
  | addRegT3 _ _ _ imm type _ | subRegT2 _ _ _ imm type _ | rsbRegT1 _ _ _ imm type _ =>
    IsShift type imm
  | mvnRegT2 _ _ imm type _ => IsShift type (imm.setWidth 8)
  | mvnImmT1 _ _ S => ¬S
  | adcImmT1 _ Rn imm S =>
    let v := cpu.reg Rn + (imm + carryIn cpu)
    S → v ≠ 0 ∧ v ≠ 0x7fffffff ∧ v ≠ 0xffffffff
  | adcRegT2 Rd Rn Rm imm type S => ∃ x, AddSub.shifted cpu Rm type imm = .ok x ∧ (S →
    FlagEquiv (cpu.reg Rd + (x + carryIn cpu)) (cpu.reg Rn + (x + carryIn cpu)))
  | subImmT4 _ Rn imm => ¬IsOutsideItBlock cpu ∨ allFlags cpu.psr =
    { toFlags := SumOp.sub.buildFlags overflow (cpu.reg Rn) (imm.setWidth 32), q := false }
  | lslRegT2 _ Rn _ _ => ((cpu.reg Rn).setWidth 8).toNat < 32
  | lsrImmT2 _ Rm imm S =>
    imm ≠ 0 ∧ (S → IsOutsideItBlock cpu ∨ (flags cpu.psr).Fit (cpu.reg Rm >>> imm.toNat))
  | lsrRegT2 _ _ Rm _ => cpu.reg Rm ≠ 0 ∧ (cpu.reg Rm).toNat < 32
  | rorImmT1 _ _ imm _ => imm ≠ 0
  | bicImmT1 .. | eorImmT1 .. | orrImmT1 .. | movImmT2 .. | movImmT3 .. | lslImmT2 .. => True
  | addSPiT3 .. | addImmT3 .. | subImmT3 .. | rsbImmT2 ..                             => True

variable {s : InsnEmuCtx U} {m : Emu U Unit} {Rd Rn Rm : Fin 16} {v w x y psr : Word} {c S : Bool}
  {imm type : Byte} {overflow : SignedOverflow}

-- The programs that set the flags if S is set.

theorem obeysS_of_mov (hm : m s = when S (setMovCondCode true v) (s.setReg Rd v)) :
    FlagRule (S = false) (S = true) m s Rd := by
  cases S
  case false => exact (flagRule_iff_of_kept hm).mpr fun h => absurd h Bool.false_ne_true
  case true  => exact (flagRule_iff_of_mov setsFlags_true hm).mpr fun h => absurd h Bool.noConfusion

theorem obeysS_of_lsl (hm : m s = when S (setLslCondCode true v c) (s.setReg Rd v)) :
    FlagRule (S = false) (S = true) m s Rd := by
  cases S
  case false => exact (flagRule_iff_of_kept hm).mpr fun h => absurd h Bool.false_ne_true
  case true  => exact (flagRule_iff_of_lsl setsFlags_true hm).mpr fun h => absurd h Bool.noConfusion

theorem obeysS_iff_of_sum (op : SumOp) (hm : m s = .ok ((), (s.setPsr <|
      if S then
        s.emuCtx.cpu.psr &&& ~~~flagMask ||| op.condCode overflow x y
      else
        s.emuCtx.cpu.psr).setReg Rd v)) :
    FlagRule (S = false) (S = true) m s Rd ↔ (S → FlagEquiv (op.value x y) v) := by
  refine (flagRule_iff hm).trans ?_
  cases S
  case false => simp
  case true  => simp [fit_condCode.iff_flagEquiv]

theorem obeysS_of_arithmetic {setCondCode : Word → Word → Emu U Unit} {f : Word → Word → Word}
    (overflow : SignedOverflow) (Rn : Fin 16) (op : SumOp)
    (hs : setCondCode (s.emuCtx.cpu.reg Rn) w = when S (op.setFlags overflow true x y))
    (hf : f (s.emuCtx.cpu.reg Rn) w = op.value x y) :
    FlagRule (S = false) (S = true)
      (arithmetic setCondCode f (regNo Rd) (regNo Rn) (pure w)) s Rd := by
  have hs : setCondCode (s.emuCtx.cpu.reg Rn) w s = _ := hs ▸ AddSub.when_setFlags_eq op
  have hm : arithmetic setCondCode f (regNo Rd) (regNo Rn) (pure w) s = _ :=
    arithmetic_eq (fun _ => rfl) hs
  rw [hf] at hm
  exact (obeysS_iff_of_sum op hm).mpr fun _ => ⟨rfl, Iff.rfl⟩

-- An operand that is shifted.

theorem shiftReg_ok (s : InsnEmuCtx U) (Rm : Fin 16) (h : imm.toNat < 32) (hi : IsShift type imm) :
    ∃ out, barrelShift (s.emuCtx.cpu.reg Rm) type imm = .ok out ∧
      shiftReg (regNo Rm) type imm s = .ok (out, s) := by
  obtain ⟨out, hb⟩ := barrelShift_ok (v := s.emuCtx.cpu.reg Rm) h hi
  refine ⟨out, hb, ?_⟩
  rw [shiftReg, bind_of_ok getReg_eq, hb]
  rfl

theorem barrelShift_error (h : imm.toNat < 32) (hi : ¬IsShift type imm) :
    barrelShift v type imm = .error .shift := by
  refine barrelShift_eq_error_iff h |>.mpr ?_
  simpa [IsShift] using hi

theorem fails_shiftReg (h : imm.toNat < 32) (hi : ¬IsShift type imm) :
    Fails .shift (shiftReg (regNo Rm) type imm) s := by
  rw [Fails, shiftReg, bind_of_ok getReg_eq, barrelShift_error h hi]
  rfl

theorem obeysS_iff_of_shiftReg {g : BarrelshifterOutput → Emu U Unit} (h : imm.toNat < 32)
    (hg : ∀ out, FlagRule (S = false) (S = true) (g out) s Rd) :
    FlagRule (S = false) (S = true) (shiftReg (regNo Rm) type imm >>= g) s Rd ↔
      IsShift type imm := by
  by_cases hi : IsShift type imm
  case pos =>
    obtain ⟨out, -, ho⟩ := shiftReg_ok s Rm h hi
    exact iff_of_true ((flagRule_bind ho).mpr <| hg out) hi
  case neg =>
    exact iff_of_false (not_flagRule_of_fails <| fails_bind.mpr <| .inl <| fails_shiftReg h hi) hi

-- The programs that do nothing if the destination is PC.
theorem obeysS_iff_unless_pc {p : Prop} (hm : FlagRule (S = false) (S = true) m s Rd ↔ p) :
    FlagRule (S = false) (S = true) (if regNo Rd ≠ regPc then m else return) s Rd ↔
      if Rd = 15 then S → (flags s.emuCtx.cpu.psr).Fit (s.emuCtx.cpu.reg 15) else p := by
  by_cases hr : Rd = 15
  case pos =>
    subst hr
    have hm : (return : Emu U Unit) s = .ok ((), s.setReg 15 (s.emuCtx.cpu.reg 15)) := by
      rw [InsnEmuCtx.setReg_self]
      rfl
    have hn : ¬regNo 15 ≠ regPc := not_not_intro rfl
    rw [if_neg hn, if_pos rfl]
    exact flagRule_iff_of_kept hm
  case neg => rw [if_pos <| regNo_ne_regPc hr, if_neg hr, hm]

-- The handlers that are not like the others.

theorem obeysS_andImmT1_iff {imm : Word} :
    ObeysS overflow s (andImmT1 Rd Rn imm S) ↔
      (andImmT1 Rd Rn imm S).Accurate overflow s.emuCtx.cpu := by
  by_cases hp : Rd = 15 ∧ S
  case pos =>
    obtain ⟨rfl, rfl⟩ := hp
    have hm : (andImmT1 15 Rn imm true).handler overflow s =
        setMovCondCode true (s.emuCtx.cpu.reg Rn &&& imm) (s.setReg 15 (s.emuCtx.cpu.reg 15)) := by
      rw [InsnEmuCtx.setReg_self]
      exact bind_of_ok getReg_eq
    refine (flagRule_iff <| hm.trans <| setMovCondCode_eq setsFlags_true).trans ?_
    have hs : (andImmT1 15 Rn imm true).S = true := rfl
    rw [fit_setMovCondCode.iff_flagEquiv, Accurate]
    simp [hs]
  case neg =>
    have hn : ¬(regNo Rd = regPc ∧ S) := fun h => hp ⟨by_contra (regNo_ne_regPc · h.left), h.right⟩
    have hm : (andImmT1 Rd Rn imm S).handler overflow s = when S
        (setMovCondCode true (s.emuCtx.cpu.reg Rn &&& imm)) (s.setReg Rd _) :=
      (congrFun (if_neg hn) s).trans <| logical_eq rfl
    exact iff_of_true (obeysS_of_mov hm) fun hr hs => absurd ⟨hr, hs⟩ hp

theorem obeysS_movImmT3_iff {imm : BitVec 16} :
    ObeysS overflow s (movImmT3 Rd imm) ↔ (movImmT3 Rd imm).Accurate overflow s.emuCtx.cpu :=
  iff_of_true ((flagRule_iff_of_kept setReg_eq).mpr (absurd · Bool.false_ne_true)) trivial

theorem obeysS_mvnImmT1_iff {imm : Word} :
    ObeysS overflow s (mvnImmT1 Rd imm S) ↔ (mvnImmT1 Rd imm S).Accurate overflow s.emuCtx.cpu := by
  cases S
  case false =>
    refine iff_of_true ?_ Bool.false_ne_true
    exact (flagRule_iff_of_kept <| bind_of_ok setReg_eq).mpr (absurd · Bool.false_ne_true)
  case true =>
    have hm : (mvnImmT1 Rd imm true).handler overflow s = .ok ((), _) :=
      (bind_of_ok setReg_eq).trans <| setMovCondCode_eq setsFlags_true
    refine iff_of_false (fun h => ?_) (not_not_intro rfl)
    have hf := (flagRule_iff hm).mp h |>.right rfl
    have hn := (fit_setMovCondCode.iff_flagEquiv.mp hf).left
    simp at hn

-- The step of ADC in front of the sum.
theorem when_setAddCondCode_eq (overflow : SignedOverflow) :
    when S (getReg (regNo Rn) >>= fun x => setAddCondCode true x y) s = .ok ((), s.setPsr <|
      if S then
        s.emuCtx.cpu.psr &&& ~~~flagMask ||| SumOp.add.condCode overflow (s.emuCtx.cpu.reg Rn) y
      else
        s.emuCtx.cpu.psr) := by
  cases S
  case false => rfl
  case true  => exact (bind_of_ok getReg_eq).trans <| setAddCondCode_eq setsFlags_true

theorem obeysS_adcImmT1_iff {imm : Word} :
    ObeysS overflow s (adcImmT1 Rd Rn imm S) ↔
      (adcImmT1 Rd Rn imm S).Accurate overflow s.emuCtx.cpu := by
  have hm : (adcImmT1 Rd Rn imm S).handler overflow s = .ok ((), _) :=
    (bind_of_ok rfl).trans <| (bind_of_ok <| when_setAddCondCode_eq overflow).trans <|
      (bind_of_ok getReg_eq).trans setReg_eq
  refine (obeysS_iff_of_sum .add hm).trans <| imp_congr_right fun _ => ?_
  rw [SumOp.value, ← BitVec.add_assoc]
  exact flagEquiv_succ_iff

theorem obeysS_adcRegT2_iff (h : imm.toNat < 32) :
    ObeysS overflow s (adcRegT2 Rd Rn Rm imm type S) ↔
      (adcRegT2 Rd Rn Rm imm type S).Accurate overflow s.emuCtx.cpu := by
  by_cases hi : IsShift type imm
  case pos =>
    obtain ⟨out, hb, ho⟩ := shiftReg_ok s Rm h hi
    have hx : AddSub.shifted s.emuCtx.cpu Rm type imm = .ok out.value := by
      rw [AddSub.shifted, hb]
      rfl
    have hm : (adcRegT2 Rd Rn Rm imm type S).handler overflow s = .ok ((), _) :=
      (bind_of_ok ho).trans <| (bind_of_ok rfl).trans <|
        (bind_of_ok <| when_setAddCondCode_eq overflow).trans <|
          (bind_of_ok getReg_eq).trans setReg_eq
    refine (obeysS_iff_of_sum .add hm).trans ⟨fun hs => ⟨_, hx, hs⟩, ?_⟩
    intro ⟨x, hx', hs⟩
    cases hx.symm.trans hx'
    exact hs
  case neg =>
    refine iff_of_false (not_flagRule_of_fails <| fails_bind.mpr <| .inl <| fails_shiftReg h hi) ?_
    intro ⟨x, hx, _⟩
    rw [AddSub.shifted, barrelShift_error h hi] at hx
    cases hx

theorem obeysS_subImmT4_iff {imm : BitVec 16} :
    ObeysS overflow s (subImmT4 Rd Rn imm) ↔
      (subImmT4 Rd Rn imm).Accurate overflow s.emuCtx.cpu := by
  let x := s.emuCtx.cpu.reg Rn
  let y := imm.setWidth 32
  by_cases hn : IsOutsideItBlock s.emuCtx.cpu
  case pos =>
    have hm : (subImmT4 Rd Rn imm).handler overflow s = .ok ((), (s.setReg Rd (x - y)).setPsr
        (s.emuCtx.cpu.psr &&& ~~~flagMask ||| SumOp.sub.condCode overflow x y)) :=
      arithmetic_eq (fun _ => rfl) <| setSubCondCode_eq <| setsFlags_of_none hn
    refine (flagRule_iff hm).trans <| (and_iff_left (absurd · Bool.false_ne_true)).trans ?_
    rw [allFlags_condCode]
    exact (forall_prop_of_true rfl).trans <| eq_comm.trans (or_iff_right <| not_not_intro hn).symm
  case neg =>
    have hs : setSubCondCode overflow false x y s = .ok ((), s.setPsr s.emuCtx.cpu.psr) :=
      unconditionally_of_not <| not_setsFlags hn
    have hm : (subImmT4 Rd Rn imm).handler overflow s = .ok ((), s.setReg Rd (x - y)) :=
      arithmetic_eq (fun _ => rfl) hs
    exact iff_of_true ((flagRule_iff_of_kept hm).mpr (absurd · Bool.false_ne_true)) (.inl hn)

theorem obeysS_lslRegT2_iff :
    ObeysS overflow s (lslRegT2 Rd Rn Rm S) ↔
      (lslRegT2 Rd Rn Rm S).Accurate overflow s.emuCtx.cpu := by
  by_cases h : ((s.emuCtx.cpu.reg Rn).setWidth 8).toNat < 32
  case pos => exact iff_of_true (obeysS_of_lsl <| i32LslRegT2_eq h) h
  case neg =>
    refine iff_of_false (not_flagRule_of_fails ?_) h
    refine fails_i32LslRegT2_iff (regNo_lt Rn) (regNo_lt Rm) |>.mpr ?_
    rw [Cpu.regAt_regNo]
    exact Nat.le_of_not_lt h

theorem obeysS_lsrImmT2_iff (h : imm.toNat < 32) :
    ObeysS overflow s (lsrImmT2 Rd Rm imm S) ↔
      (lsrImmT2 Rd Rm imm S).Accurate overflow s.emuCtx.cpu := by
  by_cases h₀ : imm = 0
  case pos =>
    refine iff_of_false (not_flagRule_of_fails ?_) fun ha => ha.left h₀
    exact fails_i32LsrImmT2_iff (regNo_lt Rm) h |>.mpr h₀
  case neg =>
    refine Iff.trans ?_ (and_iff_right h₀).symm
    cases S
    case false =>
      refine iff_of_true ?_ (absurd · Bool.false_ne_true)
      exact (flagRule_iff_of_kept <| i32LsrImmT2_eq h₀ h).mpr (absurd · Bool.false_ne_true)
    case true =>
      rw [forall_prop_of_true rfl]
      by_cases hn : IsOutsideItBlock s.emuCtx.cpu
      case pos =>
        refine iff_of_true ?_ (.inl hn)
        refine flagRule_iff_of_lsl (setsFlags_of_none hn) (i32LsrImmT2_eq h₀ h) |>.mpr ?_
        exact (absurd · Bool.noConfusion)
      case neg =>
        have hm : (lsrImmT2 Rd Rm imm true).handler overflow s =
            .ok ((), s.setReg Rd (s.emuCtx.cpu.reg Rm >>> imm.toNat)) :=
          (i32LsrImmT2_eq h₀ h).trans <| unconditionally_of_not <| not_setsFlags hn
        refine (flagRule_iff_of_kept hm).trans ?_
        exact (forall_prop_of_true rfl).trans (or_iff_right hn).symm

theorem obeysS_lsrRegT2_iff :
    ObeysS overflow s (lsrRegT2 Rd Rn Rm S) ↔
      (lsrRegT2 Rd Rn Rm S).Accurate overflow s.emuCtx.cpu := by
  by_cases h : s.emuCtx.cpu.reg Rm ≠ 0 ∧ (s.emuCtx.cpu.reg Rm).toNat < 32
  case pos => exact iff_of_true (obeysS_of_lsl <| i32LsrRegT2_eq h.left h.right) h
  case neg =>
    refine iff_of_false (not_flagRule_of_fails ?_) h
    refine fails_i32LsrRegT2_iff (regNo_lt Rn) (regNo_lt Rm) |>.mpr ?_
    rw [Cpu.regAt_regNo]
    intro ⟨h₁, h₃₂⟩
    refine h ⟨fun h₀ => ?_, h₃₂⟩
    rw [h₀] at h₁
    cases h₁

theorem obeysS_rorImmT1_iff (h : imm.toNat < 32) :
    ObeysS overflow s (rorImmT1 Rd Rm imm S) ↔
      (rorImmT1 Rd Rm imm S).Accurate overflow s.emuCtx.cpu :=
  (obeysS_iff_of_shiftReg h fun _ => obeysS_of_lsl <| move_eq rfl).trans <|
    forall_prop_of_true <| .inr rfl

theorem obeysS_orrRegT2_iff (h : imm.toNat < 32) :
    ObeysS overflow s (orrRegT2 Rd Rn Rm imm type S) ↔
      (orrRegT2 Rd Rn Rm imm type S).Accurate overflow s.emuCtx.cpu := by
  refine obeysS_iff_of_shiftReg h fun out => ?_
  by_cases hr : regNo Rn ≠ 0x0f
  case pos => exact if_pos hr ▸ obeysS_of_lsl (logical_eq rfl)
  case neg => exact if_neg hr ▸ obeysS_of_lsl (move_eq rfl)

theorem obeysS_mvnRegT2_iff {imm : Word} (h : imm.toNat < 32) :
    ObeysS overflow s (mvnRegT2 Rd Rm imm type S) ↔
      (mvnRegT2 Rd Rm imm type S).Accurate overflow s.emuCtx.cpu := by
  have hw : (imm.setWidth 8).toNat < 32 := by
    rw [BitVec.toNat_setWidth]
    omega
  exact obeysS_iff_of_shiftReg hw fun _ => obeysS_of_mov <| move_eq rfl

-- The wide instructions that set the flags exactly if S is set.
theorem obeysS_iff (i : WideInsn) (he : i.Encodable) :
    i.ObeysS overflow s ↔ i.Accurate overflow s.emuCtx.cpu := by
  cases i
  case andImmT1 => exact obeysS_andImmT1_iff
  case bicImmT1 => exact iff_of_true (obeysS_of_mov <| logical_eq rfl) trivial
  case eorImmT1 => exact iff_of_true (obeysS_of_mov <| logical_eq rfl) trivial
  case orrImmT1 => exact iff_of_true (obeysS_of_mov <| logical_eq rfl) trivial
  case andRegT2 =>
    exact obeysS_iff_unless_pc <| obeysS_iff_of_shiftReg he fun _ => obeysS_of_mov <| logical_eq rfl
  case bicRegT2 =>
    exact obeysS_iff_unless_pc <| obeysS_iff_of_shiftReg he fun _ => obeysS_of_mov <| logical_eq rfl
  case eorRegT2 =>
    exact obeysS_iff_unless_pc <| obeysS_iff_of_shiftReg he fun _ => obeysS_of_mov <| logical_eq rfl
  case ornRegT1 => exact obeysS_iff_of_shiftReg he fun _ => obeysS_of_mov <| logical_eq rfl
  case orrRegT2 => exact obeysS_orrRegT2_iff he
  case movImmT2 => exact iff_of_true (obeysS_of_mov <| bind_of_ok setReg_eq) trivial
  case movImmT3 => exact obeysS_movImmT3_iff
  case mvnImmT1 => exact obeysS_mvnImmT1_iff
  case mvnRegT2 => exact obeysS_mvnRegT2_iff he
  case adcImmT1 => exact obeysS_adcImmT1_iff
  case adcRegT2 => exact obeysS_adcRegT2_iff he
  case addSPiT3 => exact iff_of_true (obeysS_of_arithmetic overflow 13 .add rfl rfl) trivial
  case addImmT3 => exact iff_of_true (obeysS_of_arithmetic overflow _ .add rfl rfl) trivial
  case subImmT3 => exact iff_of_true (obeysS_of_arithmetic overflow _ .sub rfl rfl) trivial
  case rsbImmT2 => exact iff_of_true (obeysS_of_arithmetic overflow _ .sub rfl rfl) trivial
  case addSPrT3 =>
    exact obeysS_iff_of_shiftReg he fun _ => obeysS_of_arithmetic overflow 13 .add rfl rfl
  case addRegT3 =>
    exact obeysS_iff_of_shiftReg he fun _ => obeysS_of_arithmetic overflow _ .add rfl rfl
  case subRegT2 =>
    exact obeysS_iff_of_shiftReg he fun _ => obeysS_of_arithmetic overflow _ .sub rfl rfl
  case rsbRegT1 =>
    exact obeysS_iff_of_shiftReg he fun _ => obeysS_of_arithmetic overflow _ .sub rfl rfl
  case subImmT4 => exact obeysS_subImmT4_iff
  case lslImmT2 => exact iff_of_true (obeysS_of_lsl <| i32LslImmT2_eq he) trivial
  case lslRegT2 => exact obeysS_lslRegT2_iff
  case lsrImmT2 => exact obeysS_lsrImmT2_iff he
  case lsrRegT2 => exact obeysS_lsrRegT2_iff
  case rorImmT1 => exact obeysS_rorImmT1_iff he

-- `mvns r0, #1`
theorem obeysS_iff_mvn : (mvnImmT1 0 1 true).ObeysS .excluded (cpuWith []) ↔
    (mvnImmT1 0 1 true).Accurate .excluded (cpuWith []).emuCtx.cpu :=
  obeysS_iff (s := cpuWith []) (mvnImmT1 0 1 true) trivial

theorem not_obeysS_mvn : ¬(mvnImmT1 0 1 true).ObeysS .excluded (cpuWith []) := by
  rw [obeysS_mvnImmT1_iff]
  exact not_not_intro rfl

end WideInsn

end Emulation
