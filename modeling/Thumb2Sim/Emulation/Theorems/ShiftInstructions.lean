import Mathlib.Data.Nat.ModEq
import Thumb2Sim.Emulation.Theorems.Shifts
import Thumb2Sim.Lib.Shift

open Program Emu

namespace Emulation

variable {U : Type} {s : InsnEmuCtx U} {Rd Rn Rm Rdn : Fin 16} {imm : Byte} {S : Bool}

-- The handlers with counts in range.

theorem i16LslImmT1_eq (h : imm.toNat < 32) :
    let x := s.emuCtx.cpu.reg Rm
    i16LslImmT1 (regNo Rd) (regNo Rm) imm s =
      setLslCondCode false (x <<< imm.toNat) (x.getLsbD (32 - imm.toNat))
        (s.setReg Rd (x <<< imm.toNat)) := by
  intro x
  have hw : imm.toNat < 64 := by omega
  rw [i16LslImmT1, bind_of_ok getReg_eq, bind_of_ok (checked_shl hw), bind_of_ok getReg_eq,
    bind_of_ok (checked_shl h), bind_of_ok setReg_eq, bind_of_ok getReg_setReg,
    shl_carry (Nat.le_of_lt_succ h)]

theorem i32LslImmT2_eq (h : imm.toNat < 32) :
    let x := s.emuCtx.cpu.reg Rm
    i32LslImmT2 (regNo Rd) (regNo Rm) imm S s =
      when S (setLslCondCode true (x <<< imm.toNat) (x.getLsbD 31))
        (s.setReg Rd (x <<< imm.toNat)) := by
  intro x
  rw [i32LslImmT2, bind_of_ok (shiftReg_eq h), move_eq rfl]

theorem i16LslRegT1_eq (h : ((s.emuCtx.cpu.reg Rm).setWidth 8).toNat < 32) :
    let x := s.emuCtx.cpu.reg Rdn
    let n := ((s.emuCtx.cpu.reg Rm).setWidth 8).toNat
    i16LslRegT1 (regNo Rdn) (regNo Rm) s =
      setLslCondCode false (x <<< n) (x.getLsbD 31) (s.setReg Rdn (x <<< n)) := by
  intro x n
  rw [i16LslRegT1, bind_of_ok getReg_eq, bind_of_ok (shiftReg_eq h), move_eq rfl]

theorem i32LslRegT2_eq (h : ((s.emuCtx.cpu.reg Rn).setWidth 8).toNat < 32) :
    let x := s.emuCtx.cpu.reg Rm
    let n := ((s.emuCtx.cpu.reg Rn).setWidth 8).toNat
    i32LslRegT2 (regNo Rd) (regNo Rn) (regNo Rm) S s =
      when S (setLslCondCode true (x <<< n) (x.getLsbD 31)) (s.setReg Rd (x <<< n)) := by
  intro x n
  rw [i32LslRegT2, bind_of_ok getReg_eq, bind_of_ok (shiftReg_eq h), move_eq rfl]

theorem carry_eq {n : Nat} (h : n ≤ 32) (h₁ : 1 ≤ n) (x : Word) :
    decide (x &&& (1 : Word) <<< (n - 1) ≠ 0) = x.getLsbD (n - 1) := by
  have hn : n - 1 < 32 := by omega
  simp only [Bits.and_bit_ne_zero hn, Bool.decide_eq_true]

theorem i16LsrImmT1_eq (h₀ : imm ≠ 0) (h : imm.toNat < 32) :
    let x := s.emuCtx.cpu.reg Rm
    i16LsrImmT1 (regNo Rd) (regNo Rm) imm s =
      setLslCondCode false (x >>> imm.toNat) (x.getLsbD (imm.toNat - 1))
        (s.setReg Rd (x >>> imm.toNat)) := by
  intro x
  rw [i16LsrImmT1, bind_of_ok getReg_eq, bind_of_ok (checked_shl_pred (Bits.toNat_pos h₀) h.le),
    bind_of_ok getReg_eq, bind_of_ok (checked_shr h), bind_of_ok setReg_eq,
    bind_of_ok getReg_setReg, carry_eq h.le (Bits.toNat_pos h₀)]

theorem i32LsrImmT2_eq (h₀ : imm ≠ 0) (h : imm.toNat < 32) :
    let x := s.emuCtx.cpu.reg Rm
    i32LsrImmT2 (regNo Rd) (regNo Rm) imm S s =
      when S (setLslCondCode false (x >>> imm.toNat) (x.getLsbD (imm.toNat - 1)))
        (s.setReg Rd (x >>> imm.toNat)) := by
  intro x
  rw [i32LsrImmT2, bind_of_ok getReg_eq, bind_of_ok (checked_shl_pred (Bits.toNat_pos h₀) h.le),
    bind_of_ok getReg_eq, bind_of_ok (checked_shr h), bind_of_ok setReg_eq,
    carry_eq h.le (Bits.toNat_pos h₀)]
  cases S
  case false => rfl
  case true  => exact bind_of_ok getReg_setReg

theorem i16AsrImmT1_eq (h₀ : imm ≠ 0) (h : imm.toNat < 32) :
    let x := s.emuCtx.cpu.reg Rm
    i16AsrImmT1 (regNo Rd) (regNo Rm) imm s =
      setLslCondCode false (x.sshiftRight imm.toNat) (x.getLsbD (imm.toNat - 1))
        (s.setReg Rd (x.sshiftRight imm.toNat)) := by
  intro x
  rw [i16AsrImmT1, bind_of_ok getReg_eq, bind_of_ok (checked_shl_pred (Bits.toNat_pos h₀) h.le),
    bind_of_ok getReg_eq, bind_of_ok (checked_sar h), bind_of_ok setReg_eq,
    bind_of_ok getReg_setReg, carry_eq h.le (Bits.toNat_pos h₀)]

theorem i32RorImmT1_eq (h₀ : imm ≠ 0) (h : imm.toNat < 32) :
    let x := s.emuCtx.cpu.reg Rm
    i32RorImmT1 (regNo Rd) (regNo Rm) imm S s =
      when S (setLslCondCode true (x.rotateRight imm.toNat) false)
        (s.setReg Rd (x.rotateRight imm.toNat)) := by
  intro x
  have hb : shiftReg (regNo Rm) typeRor imm s = .ok (⟨x.rotateRight imm.toNat, false⟩, s) := by
    rw [shiftReg, bind_of_ok getReg_eq, barrelShift_ror h₀ h]
    rfl
  rw [i32RorImmT1, bind_of_ok hb, move_eq rfl]

-- The count is the whole word.

theorem checked_lsrCarry {x count : Word} (h₀ : count ≠ 0) (h : count.toNat < 32) :
    (checked (lsrCarry x count) : Emu U _) s = .ok (x.getLsbD (count.toNat - 1), s) := by
  have hp : (count - 1).toNat = count.toNat - 1 := by
    have h₀ : count ≠ 0#32 := h₀
    bv_omega
  rw [lsrCarry_of_lt x (by omega), hp]
  rfl

theorem i16LsrRegT1_eq (h : (s.emuCtx.cpu.reg Rm).toNat < 32) :
    let x := s.emuCtx.cpu.reg Rdn
    let count := s.emuCtx.cpu.reg Rm
    i16LsrRegT1 (regNo Rdn) (regNo Rm) s =
      setLslCondCode true (x >>> count.toNat) (count ≠ 0 && x.getLsbD (count.toNat - 1))
        (s.setReg Rdn (x >>> count.toNat)) := by
  intro x count
  have hc : (checked (if count ≠ 0 then lsrCarry x count else return false) : Emu U _) s =
      .ok (count ≠ 0 && x.getLsbD (count.toNat - 1), s) := by
    by_cases h₀ : count ≠ 0
    case pos => rw [if_pos h₀, decide_eq_true h₀, Bool.true_and, checked_lsrCarry h₀ h]
    case neg => rw [if_neg h₀, decide_eq_false h₀]; rfl
  rw [i16LsrRegT1, bind_of_ok getReg_eq, bind_of_ok getReg_eq, bind_of_ok hc,
    bind_of_ok (checked_shr h), bind_of_ok setReg_eq, bind_of_ok getReg_setReg]

theorem i32LsrRegT2_eq (h₀ : s.emuCtx.cpu.reg Rm ≠ 0) (h : (s.emuCtx.cpu.reg Rm).toNat < 32) :
    let x := s.emuCtx.cpu.reg Rn
    let n := (s.emuCtx.cpu.reg Rm).toNat
    i32LsrRegT2 (regNo Rd) (regNo Rn) (regNo Rm) S s =
      when S (setLslCondCode true (x >>> n) (x.getLsbD (n - 1))) (s.setReg Rd (x >>> n)) := by
  intro x n
  rw [i32LsrRegT2, bind_of_ok getReg_eq, bind_of_ok getReg_eq, bind_of_ok (checked_lsrCarry h₀ h),
    bind_of_ok (checked_shr h), bind_of_ok setReg_eq]
  cases S
  case false => rfl
  case true  => exact bind_of_ok getReg_setReg

end Emulation

-- A program puts the value `v` into a register and a word with the property `P` into the status
-- register, and does nothing else.
def Puts {U : Type} (m : Emu U Unit) (s : InsnEmuCtx U) (Rd : Fin 16) (v : Word) (P : Word → Prop) :
    Prop :=
  ∃ psr, m s = .ok ((), (s.setReg Rd v).setPsr psr) ∧ P psr

-- The flags that belong to a shifted value. V and Q are not changed.
def Shift.flagsBehind (x psr : Word) (op : Shift) : AllFlags :=
  let v := op.value x (flags psr).c
  { allFlags psr with n := v.getLsbD 31, z := v = 0, c := op.carryOut x (flags psr).c }

def PutsShift {U : Type} (m : Emu U Unit) (s : InsnEmuCtx U) (Rd : Fin 16) (x : Word) (op : Shift) :
    Prop :=
  Puts m s Rd (op.value x (flags s.emuCtx.cpu.psr).c) fun psr =>
    allFlags psr = op.flagsBehind x s.emuCtx.cpu.psr

-- Bit 31 is the last bit that LSL by less than 32 shifts out, or equal to the carry if no bit is.
def CarriesBit31 (x : Word) (c : Bool) (n : Nat) : Prop :=
  x.getLsbD 31 = if n = 0 then c else x.getLsbD (32 - n)

section

variable {U : Type} {m : Emu U Unit} {s : InsnEmuCtx U} {Rd : Fin 16} {x v psr : Word} {op : Shift}
  {b c : Bool} {P : Word → Prop} {n : Nat}

theorem not_puts_of_fails (h : Fails .shift m s) : ¬Puts m s Rd v P := by
  intro ⟨_, hm, _⟩
  cases h.symm.trans hm

theorem puts_iff {v' : Word} (hm : m s = .ok ((), (s.setReg Rd v').setPsr psr)) :
    Puts m s Rd v P ↔ v' = v ∧ P psr := by
  constructor
  case mp =>
    intro ⟨psr', hm', hp⟩
    have h := (Prod.mk.inj <| Except.ok.inj <| hm.symm.trans hm').right
    have hr := congrFun (congrArg (·.emuCtx.cpu.reg) h) Rd
    have hs : psr = psr' := congrArg (·.emuCtx.cpu.psr) h
    simp only [InsnEmuCtx.setPsr_reg, InsnEmuCtx.setReg_reg, Function.update_self] at hr
    exact ⟨hr, hs ▸ hp⟩
  case mpr =>
    intro ⟨hv, hp⟩
    exact ⟨psr, hv ▸ hm, hp⟩

-- If the flags are set for the shifted value, the carry is what matters.
theorem putsShift_iff_carry (hb : SetsFlags b s)
    (hm : m s = setLslCondCode b v c (s.setReg Rd v))
    (hv : op.value x (flags s.emuCtx.cpu.psr).c = v) :
    PutsShift m s Rd x op ↔ c = op.carryOut x (flags s.emuCtx.cpu.psr).c := by
  subst hv
  rw [PutsShift, puts_iff <| hm.trans <| setLslCondCode_eq hb, InsnEmuCtx.setReg_psr,
    allFlags_setLslCondCode, Shift.flagsBehind]
  simp

-- What a handler says about the carry in the cases in which it sets the flags.

theorem puts_carry_iff {v' : Word} {c' : Bool} {p : Prop} (hp : p ↔ SetsFlags b s)
    (hm : m s = setLslCondCode b v' c' (s.setReg Rd v')) :
    (Puts m s Rd v fun psr => p → (flags psr).c = c) ↔ v' = v ∧ (p → c' = c) := by
  by_cases hb : SetsFlags b s
  case pos => rw [puts_iff <| hm.trans <| setLslCondCode_eq hb, flags_setLslCondCode]
  case neg =>
    have hm : m s = .ok ((), (s.setReg Rd v').setPsr s.emuCtx.cpu.psr) :=
      hm.trans <| unconditionally_of_not hb
    have hn := hp.not.mpr hb
    rw [puts_iff hm]
    exact and_congr_right fun _ => iff_of_true (absurd · hn) (absurd · hn)

theorem puts_carry_iff_when {v' : Word} {c' S : Bool}
    (hm : m s = when S (setLslCondCode true v' c') (s.setReg Rd v')) :
    (Puts m s Rd v fun psr => S → (flags psr).c = c) ↔ v' = v ∧ (S → c' = c) := by
  cases S
  case true  => exact puts_carry_iff (iff_of_true rfl setsFlags_true) hm
  case false =>
    have hm : m s = .ok ((), (s.setReg Rd v').setPsr s.emuCtx.cpu.psr) := hm
    rw [puts_iff hm]
    simp

theorem carriesBit31_iff (h : n < 32) : CarriesBit31 x c n ↔
    x.getLsbD 31 = (Shift.lsl n).carryOut x c := by
  rw [CarriesBit31, Shift.carryOut, decide_eq_true h.le, Bool.true_and]

end

namespace Emulation

-- The shifts by a constant.
inductive ImmShift
  | lslImmT1 (Rd Rm : Fin 16) (imm : Byte)
  | lslImmT2 (Rd Rm : Fin 16) (imm : Byte) (S : Bool)
  | lsrImmT1 (Rd Rm : Fin 16) (imm : Byte)
  | lsrImmT2 (Rd Rm : Fin 16) (imm : Byte) (S : Bool)
  | asrImmT1 (Rd Rm : Fin 16) (imm : Byte)
  | rorImmT1 (Rd Rm : Fin 16) (imm : Byte) (S : Bool)

namespace ImmShift

variable {U : Type}

def handler : ImmShift → Emu U Unit
  | lslImmT1 Rd Rm imm   => i16LslImmT1 (regNo Rd) (regNo Rm) imm
  | lslImmT2 Rd Rm imm S => i32LslImmT2 (regNo Rd) (regNo Rm) imm S
  | lsrImmT1 Rd Rm imm   => i16LsrImmT1 (regNo Rd) (regNo Rm) imm
  | lsrImmT2 Rd Rm imm S => i32LsrImmT2 (regNo Rd) (regNo Rm) imm S
  | asrImmT1 Rd Rm imm   => i16AsrImmT1 (regNo Rd) (regNo Rm) imm
  | rorImmT1 Rd Rm imm S => i32RorImmT1 (regNo Rd) (regNo Rm) imm S

def dest : ImmShift → Fin 16
  | lslImmT1 Rd .. | lslImmT2 Rd .. | lsrImmT1 Rd .. | lsrImmT2 Rd .. => Rd
  | asrImmT1 Rd .. | rorImmT1 Rd ..                                   => Rd

def value (cpu : Cpu) : ImmShift → Word
  | lslImmT1 _ Rm _ | lslImmT2 _ Rm _ _ | lsrImmT1 _ Rm _ | lsrImmT2 _ Rm _ _ => cpu.reg Rm
  | asrImmT1 _ Rm _ | rorImmT1 _ Rm _ _                                       => cpu.reg Rm

-- The constant zero stands for a shift by 32, except for LSL.
def shift : ImmShift → Shift
  | lslImmT1 _ _ imm | lslImmT2 _ _ imm _ => .lsl imm.toNat
  | lsrImmT1 _ _ imm | lsrImmT2 _ _ imm _ => .lsr (if imm = 0 then 32 else imm.toNat)
  | asrImmT1 _ _ imm                      => .asr (if imm = 0 then 32 else imm.toNat)
  | rorImmT1 _ _ imm _                    => .ror imm.toNat

-- The constant has five bits, and is not zero for ROR.
def Encodable : ImmShift → Prop
  | lslImmT1 _ _ imm | lslImmT2 _ _ imm _ | lsrImmT1 _ _ imm => imm.toNat < 32
  | lsrImmT2 _ _ imm _ | asrImmT1 _ _ imm                    => imm.toNat < 32
  | rorImmT1 _ _ imm _                                       => imm.toNat < 32 ∧ imm ≠ 0

-- The flags are to be set by a narrow instruction outside of an IT block, by a wide one with S.
def IsFlagSetting (cpu : Cpu) : ImmShift → Prop
  | lslImmT1 .. | lsrImmT1 .. | asrImmT1 ..                        => cpu.itState &&& 0x03 = itNone
  | lslImmT2 _ _ _ S | lsrImmT2 _ _ _ S | rorImmT1 _ _ _ S => S

-- What the shift has to be like for the handler to get it right. `lsl_imm_T1` clears the carry for a
-- shift by zero, `lsl_imm_T2` takes it from bit 31 and `ror_imm_T1` always clears it. `lsr_imm_T2`
-- does not set the flags in an IT block. The right shifts by 32 are not defined.
def Accurate (cpu : Cpu) : ImmShift → Prop
  | lslImmT1 _ _ imm                    => imm = 0 → ¬(flags cpu.psr).c
  | lslImmT2 _ Rm imm _                 => CarriesBit31 (cpu.reg Rm) (flags cpu.psr).c imm.toNat
  | lsrImmT1 _ _ imm | asrImmT1 _ _ imm => imm ≠ 0
  | lsrImmT2 _ Rm imm _                 => imm ≠ 0 ∧ (cpu.itState &&& 0x03 = itNone ∨
    allFlags cpu.psr = (Shift.lsr imm.toNat).flagsBehind (cpu.reg Rm) cpu.psr)
  | rorImmT1 _ Rm imm _                 => ¬(cpu.reg Rm).getLsbD (imm.toNat - 1)

variable {s : InsnEmuCtx U} {Rd Rm : Fin 16} {imm : Byte}

theorem putsShift_lslImmT1_iff (he : imm.toNat < 32) (hf : s.emuCtx.cpu.itState &&& 0x03 = itNone) :
    PutsShift (lslImmT1 Rd Rm imm).handler s Rd (s.emuCtx.cpu.reg Rm) (.lsl imm.toNat) ↔
      (imm = 0 → ¬(flags s.emuCtx.cpu.psr).c) := by
  refine (putsShift_iff_carry (setsFlags_of_none hf) (i16LslImmT1_eq he) rfl).trans ?_
  by_cases h₀ : imm = 0
  case pos =>
    subst h₀
    simp [Shift.carryOut]
  case neg =>
    rw [Shift.carryOut_lsl (Bits.toNat_pos h₀).ne' he.le]
    exact iff_of_true rfl fun h => absurd h h₀

theorem putsShift_lsrImmT2_iff (h₀ : imm ≠ 0) (he : imm.toNat < 32) :
    PutsShift (lsrImmT2 Rd Rm imm true).handler s Rd (s.emuCtx.cpu.reg Rm) (.lsr imm.toNat) ↔
      s.emuCtx.cpu.itState &&& 0x03 = itNone ∨ allFlags s.emuCtx.cpu.psr =
        (Shift.lsr imm.toNat).flagsBehind (s.emuCtx.cpu.reg Rm) s.emuCtx.cpu.psr := by
  by_cases hn : s.emuCtx.cpu.itState &&& 0x03 = itNone
  case pos =>
    refine iff_of_true ?_ (.inl hn)
    refine (putsShift_iff_carry (setsFlags_of_none hn) (i32LsrImmT2_eq h₀ he) rfl).mpr ?_
    rw [Shift.carryOut_lsr (Bits.toNat_pos h₀).ne']
  case neg =>
    have hm : (lsrImmT2 Rd Rm imm true).handler s =
        .ok ((), (s.setReg Rd (s.emuCtx.cpu.reg Rm >>> imm.toNat)).setPsr s.emuCtx.cpu.psr) :=
      (i32LsrImmT2_eq h₀ he).trans <| unconditionally_of_not <| not_setsFlags hn
    exact (puts_iff hm).trans <| (and_iff_right rfl).trans (or_iff_right hn).symm

-- The shifts by a constant that do what they are for.
theorem putsShift_iff (i : ImmShift) (he : i.Encodable) (hf : i.IsFlagSetting s.emuCtx.cpu) :
    PutsShift i.handler s i.dest (i.value s.emuCtx.cpu) i.shift ↔ i.Accurate s.emuCtx.cpu := by
  cases i
  case lslImmT1 => exact putsShift_lslImmT1_iff he hf
  case lslImmT2 Rd Rm imm S =>
    cases hf
    have he : imm.toNat < 32 := he
    exact (putsShift_iff_carry setsFlags_true (i32LslImmT2_eq he) rfl).trans
      (carriesBit31_iff he).symm
  case rorImmT1 Rd Rm imm S =>
    cases hf
    have ⟨he, h₀⟩ : imm.toNat < 32 ∧ imm ≠ 0 := he
    refine (putsShift_iff_carry setsFlags_true (i32RorImmT1_eq h₀ he) rfl).trans ?_
    rw [shift, Shift.carryOut_ror (Bits.toNat_pos h₀).ne' he.le]
    rw [Accurate, Bool.not_eq_true, eq_comm]
    rfl
  case lsrImmT1 Rd Rm imm =>
    have he : imm.toNat < 32 := he
    by_cases h₀ : imm = 0
    case pos =>
      refine iff_of_false (not_puts_of_fails ?_) (not_not_intro h₀)
      exact fails_i16LsrImmT1_iff (regNo_lt Rm) he |>.mpr h₀
    case neg =>
      rw [shift, if_neg h₀]
      refine (putsShift_iff_carry (setsFlags_of_none hf) (i16LsrImmT1_eq h₀ he) rfl).trans ?_
      rw [Shift.carryOut_lsr (Bits.toNat_pos h₀).ne']
      exact iff_of_true rfl h₀
  case asrImmT1 Rd Rm imm =>
    have he : imm.toNat < 32 := he
    by_cases h₀ : imm = 0
    case pos =>
      refine iff_of_false (not_puts_of_fails ?_) (not_not_intro h₀)
      exact fails_i16AsrImmT1_iff (regNo_lt Rm) he |>.mpr h₀
    case neg =>
      rw [shift, if_neg h₀]
      refine (putsShift_iff_carry (setsFlags_of_none hf) (i16AsrImmT1_eq h₀ he) rfl).trans ?_
      rw [Shift.carryOut_asr (Bits.toNat_pos h₀).ne' he.le]
      exact iff_of_true rfl h₀
  case lsrImmT2 Rd Rm imm S =>
    cases hf
    have he : imm.toNat < 32 := he
    by_cases h₀ : imm = 0
    case pos =>
      refine iff_of_false (not_puts_of_fails ?_) fun h => h.left h₀
      exact fails_i32LsrImmT2_iff (regNo_lt Rm) he |>.mpr h₀
    case neg =>
      rw [shift, if_neg h₀]
      exact (putsShift_lsrImmT2_iff h₀ he).trans (and_iff_right h₀).symm

-- `lsls r0, r1, #1`
theorem putsShift_iff_lsl : PutsShift (lslImmT1 0 1 1).handler (cpuWith [0, 8]) 0 8 (.lsl 1) ↔
    (lslImmT1 0 1 1).Accurate (cpuWith [0, 8]).emuCtx.cpu :=
  putsShift_iff (s := cpuWith [0, 8]) (lslImmT1 0 1 1) (show 1 < 32 by decide) rfl

-- `lsls.w r0, r1, #2`
theorem not_putsShift_lsl : ¬PutsShift (lslImmT2 0 1 2 true).handler (cpuWith [0, 0x80000000]) 0
    0x80000000 (.lsl 2) := by
  rw [putsShift_iff_carry setsFlags_true (i32LslImmT2_eq (by decide)) rfl]
  decide

end ImmShift

-- The shifts by the content of a register.
inductive RegShift
  | lslRegT1 (Rdn Rm : Fin 16)
  | lslRegT2 (Rd Rn Rm : Fin 16) (S : Bool)
  | lsrRegT1 (Rdn Rm : Fin 16)
  | lsrRegT2 (Rd Rn Rm : Fin 16) (S : Bool)

namespace RegShift

variable {U : Type}

def handler : RegShift → Emu U Unit
  | lslRegT1 Rdn Rm     => i16LslRegT1 (regNo Rdn) (regNo Rm)
  | lslRegT2 Rd Rn Rm S => i32LslRegT2 (regNo Rd) (regNo Rn) (regNo Rm) S
  | lsrRegT1 Rdn Rm     => i16LsrRegT1 (regNo Rdn) (regNo Rm)
  | lsrRegT2 Rd Rn Rm S => i32LsrRegT2 (regNo Rd) (regNo Rn) (regNo Rm) S

def dest : RegShift → Fin 16
  | lslRegT1 Rd .. | lslRegT2 Rd .. | lsrRegT1 Rd .. | lsrRegT2 Rd .. => Rd

def value (cpu : Cpu) : RegShift → Word
  | lslRegT1 Rn _ | lslRegT2 _ Rn _ _ | lsrRegT1 Rn _ | lsrRegT2 _ Rn _ _ => cpu.reg Rn

def lowByte (x : Word) : Nat :=
  (x.setWidth 8).toNat

-- The amount is in the low byte of Rm.
def shift (cpu : Cpu) : RegShift → Shift
  | lslRegT1 _ Rm | lslRegT2 _ _ Rm _ => .lsl (lowByte <| cpu.reg Rm)
  | lsrRegT1 _ Rm | lsrRegT2 _ _ Rm _ => .lsr (lowByte <| cpu.reg Rm)

-- The flags are set. `lsr_reg_T1` sets them in an IT block, too.
def SetsFlags (cpu : Cpu) : RegShift → Prop
  | lslRegT1 ..                       => cpu.itState &&& 0x03 = itNone
  | lsrRegT1 ..                       => True
  | lslRegT2 _ _ _ S | lsrRegT2 _ _ _ S => S

-- The destination gets the shifted value, and the carry tells about it.
def PutsShifted (s : InsnEmuCtx U) (i : RegShift) : Prop :=
  let c := (flags s.emuCtx.cpu.psr).c
  let x := i.value s.emuCtx.cpu
  let op := i.shift s.emuCtx.cpu
  Puts i.handler s i.dest (op.value x c) fun psr =>
    i.SetsFlags s.emuCtx.cpu → (flags psr).c = op.carryOut x c

-- When the registers are such that the shift comes out right. `lsl_reg_T2` exchanges the value and
-- the amount. The handlers for LSR do not cut the amount down to a byte.
def Accurate (cpu : Cpu) : RegShift → Prop
  | lslRegT1 Rdn Rm    => lowByte (cpu.reg Rm) < 32 ∧ (cpu.itState &&& 0x03 = itNone →
    CarriesBit31 (cpu.reg Rdn) (flags cpu.psr).c (lowByte <| cpu.reg Rm))
  | lslRegT2 _ Rn Rm S => lowByte (cpu.reg Rn) < 32 ∧
    (cpu.reg Rm).toNat * 2 ^ lowByte (cpu.reg Rn) ≡
      (cpu.reg Rn).toNat * 2 ^ lowByte (cpu.reg Rm) [MOD 2 ^ 32] ∧
    (S → (cpu.reg Rm).getLsbD 31 =
      (Shift.lsl <| lowByte <| cpu.reg Rm).carryOut (cpu.reg Rn) (flags cpu.psr).c)
  | lsrRegT1 _ Rm      => (cpu.reg Rm).toNat < 32 ∧ (cpu.reg Rm = 0 → ¬(flags cpu.psr).c)
  | lsrRegT2 _ _ Rm _  => (cpu.reg Rm).toNat < 32 ∧ cpu.reg Rm ≠ 0

variable {s : InsnEmuCtx U} {Rd Rn Rm Rdn : Fin 16} {S : Bool}

theorem lowByte_of_lt {x : Word} (h : x.toNat < 256) : lowByte x = x.toNat := by
  rw [lowByte, BitVec.toNat_setWidth]
  exact Nat.mod_eq_of_lt h

theorem shiftLeft_eq_iff {x y : Word} {m n : Nat} :
    x <<< m = y <<< n ↔ x.toNat * 2 ^ m ≡ y.toNat * 2 ^ n [MOD 2 ^ 32] := by
  rw [← BitVec.toNat_inj, BitVec.toNat_shiftLeft, BitVec.toNat_shiftLeft, Nat.shiftLeft_eq,
    Nat.shiftLeft_eq, Nat.ModEq]

theorem putsShifted_lslRegT1_iff :
    PutsShifted s (lslRegT1 Rdn Rm) ↔ (lslRegT1 Rdn Rm).Accurate s.emuCtx.cpu := by
  by_cases h : lowByte (s.emuCtx.cpu.reg Rm) < 32
  case pos =>
    have hp : s.emuCtx.cpu.itState &&& 0x03 = itNone ↔ Emu.SetsFlags false s := by
      rw [Emu.SetsFlags, Bool.false_or, beq_iff_eq]
    refine (puts_carry_iff hp <| i16LslRegT1_eq h).trans ?_
    rw [Accurate, carriesBit31_iff h, and_iff_right h]
    exact and_iff_right rfl
  case neg =>
    refine iff_of_false (not_puts_of_fails ?_) fun ha => h ha.left
    refine fails_i16LslRegT1_iff (regNo_lt Rdn) (regNo_lt Rm) |>.mpr ?_
    rw [Cpu.regAt_regNo]
    exact Nat.le_of_not_lt h

theorem putsShifted_lslRegT2_iff :
    PutsShifted s (lslRegT2 Rd Rn Rm S) ↔ (lslRegT2 Rd Rn Rm S).Accurate s.emuCtx.cpu := by
  by_cases h : lowByte (s.emuCtx.cpu.reg Rn) < 32
  case pos =>
    refine (puts_carry_iff_when <| i32LslRegT2_eq h).trans ?_
    rw [Accurate, and_iff_right h, ← shiftLeft_eq_iff]
    rfl
  case neg =>
    refine iff_of_false (not_puts_of_fails ?_) fun ha => h ha.left
    refine fails_i32LslRegT2_iff (regNo_lt Rn) (regNo_lt Rm) |>.mpr ?_
    rw [Cpu.regAt_regNo]
    exact Nat.le_of_not_lt h

-- The carry of LSR is right for an amount of 1 to 31. It is cleared for the amount zero.
theorem lsr_carry_iff {x count : Word} {c : Bool} (h : count.toNat < 32) :
    (count ≠ 0 && x.getLsbD (count.toNat - 1)) = (Shift.lsr (lowByte count)).carryOut x c ↔
      (count = 0 → ¬c) := by
  rw [lowByte_of_lt (by omega)]
  by_cases h₀ : count = 0
  case pos => simp [h₀, Shift.carryOut]
  case neg =>
    have hn : count.toNat ≠ 0 := fun hn => h₀ <| BitVec.eq_of_toNat_eq hn
    rw [Shift.carryOut_lsr hn, decide_eq_true h₀, Bool.true_and]
    exact iff_of_true rfl fun h => absurd h h₀

theorem putsShifted_lsrRegT1_iff :
    PutsShifted s (lsrRegT1 Rdn Rm) ↔ (lsrRegT1 Rdn Rm).Accurate s.emuCtx.cpu := by
  by_cases h : (s.emuCtx.cpu.reg Rm).toNat < 32
  case pos =>
    refine (puts_carry_iff (iff_of_true trivial setsFlags_true) <| i16LsrRegT1_eq h).trans ?_
    rw [Accurate, and_iff_right h, ← lsr_carry_iff (x := s.emuCtx.cpu.reg Rdn) h]
    have hl : lowByte (s.emuCtx.cpu.reg Rm) = (s.emuCtx.cpu.reg Rm).toNat :=
      lowByte_of_lt <| by omega
    exact (and_iff_right <| congrArg (s.emuCtx.cpu.reg Rdn >>> ·) hl.symm).trans <|
      forall_prop_of_true trivial
  case neg =>
    refine iff_of_false (not_puts_of_fails ?_) fun ha => h ha.left
    refine fails_i16LsrRegT1_iff (regNo_lt Rdn) (regNo_lt Rm) |>.mpr ?_
    rw [Cpu.regAt_regNo]
    exact Nat.le_of_not_lt h

theorem putsShifted_lsrRegT2_iff :
    PutsShifted s (lsrRegT2 Rd Rn Rm S) ↔ (lsrRegT2 Rd Rn Rm S).Accurate s.emuCtx.cpu := by
  by_cases h : (s.emuCtx.cpu.reg Rm).toNat < 32 ∧ s.emuCtx.cpu.reg Rm ≠ 0
  case pos =>
    have hn : (s.emuCtx.cpu.reg Rm).toNat ≠ 0 := fun hn => h.right <| BitVec.eq_of_toNat_eq hn
    have hl : (lsrRegT2 Rd Rn Rm S).shift s.emuCtx.cpu = .lsr (s.emuCtx.cpu.reg Rm).toNat :=
      congrArg Shift.lsr <| lowByte_of_lt <| by omega
    refine iff_of_true ?_ h
    rw [PutsShifted, hl]
    refine (puts_carry_iff_when <| i32LsrRegT2_eq h.right h.left).mpr ⟨rfl, fun _ => ?_⟩
    exact (Shift.carryOut_lsr hn).symm
  case neg =>
    refine iff_of_false (not_puts_of_fails ?_) h
    refine fails_i32LsrRegT2_iff (regNo_lt Rn) (regNo_lt Rm) |>.mpr ?_
    rw [Cpu.regAt_regNo]
    intro ⟨h₁, h₃₂⟩
    refine h ⟨h₃₂, fun h₀ => ?_⟩
    rw [h₀] at h₁
    cases h₁

-- The shifts by the content of a register that do what they are for.
theorem putsShifted_iff (s : InsnEmuCtx U) (i : RegShift) :
    PutsShifted s i ↔ i.Accurate s.emuCtx.cpu := by
  cases i
  case lslRegT1 => exact putsShifted_lslRegT1_iff
  case lslRegT2 => exact putsShifted_lslRegT2_iff
  case lsrRegT1 => exact putsShifted_lsrRegT1_iff
  case lsrRegT2 => exact putsShifted_lsrRegT2_iff

-- `lsl.w r0, r1, r2` with the value 1 and the amount 4
theorem not_putsShifted_lsl : ¬PutsShifted (cpuWith [0, 1, 4]) (lslRegT2 0 1 2 false) := by
  rw [putsShifted_lslRegT2_iff]
  intro ⟨_, h, _⟩
  revert h
  decide

end RegShift

end Emulation
