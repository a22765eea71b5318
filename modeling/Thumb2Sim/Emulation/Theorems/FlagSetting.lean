import Thumb2Sim.Emulation.Theorems.ShiftInstructions

open Program Emu

-- N and Z tell about a word.
def Flags.Fit (f : Flags) (v : Word) : Prop :=
  f.n = v.getLsbD 31 ∧ f.z = (v = 0 : Bool)

instance {f : Flags} {v : Word} : Decidable (f.Fit v) :=
  inferInstanceAs <| Decidable (_ ∧ _)

-- A program leaves the flags alone if `keeps` holds, and makes them fit the content of the
-- destination if `sets` does.
def FlagRule {U : Type} (keeps sets : Prop) (m : Emu U Unit) (s : InsnEmuCtx U) (Rd : Fin 16) :
    Prop :=
  ∃ t, m s = .ok ((), t) ∧ (keeps → allFlags t.emuCtx.cpu.psr = allFlags s.emuCtx.cpu.psr) ∧
    (sets → (flags t.emuCtx.cpu.psr).Fit (t.emuCtx.cpu.reg Rd))

section

variable {U : Type} {m : Emu U Unit} {s : InsnEmuCtx U} {Rd : Fin 16} {v psr : Word} {b c : Bool}
  {keeps sets : Prop}

theorem not_flagRule_of_fails (h : Fails .shift m s) : ¬FlagRule keeps sets m s Rd := by
  intro ⟨_, hm, _⟩
  cases h.symm.trans hm

theorem flagRule_iff (hm : m s = .ok ((), (s.setReg Rd v).setPsr psr)) :
    FlagRule keeps sets m s Rd ↔
      (keeps → allFlags psr = allFlags s.emuCtx.cpu.psr) ∧ (sets → (flags psr).Fit v) := by
  have hv : ((s.setReg Rd v).setPsr psr).emuCtx.cpu.reg Rd = v := Function.update_self ..
  constructor
  case mp =>
    intro ⟨t, ht, hk, hs⟩
    cases hm.symm.trans ht
    exact ⟨hk, hv ▸ hs⟩
  case mpr => exact fun ⟨hk, hs⟩ => ⟨_, hm, hk, hv.symm ▸ hs⟩

theorem flagRule_bind {α : Type} {m : Emu U α} {g : α → Emu U Unit} {a : α}
    (hm : m s = .ok (a, s)) :
    FlagRule keeps sets (m >>= g) s Rd ↔ FlagRule keeps sets (g a) s Rd := by
  rw [FlagRule, FlagRule, bind_of_ok hm]

-- A program that does not touch the flags.
theorem flagRule_iff_of_kept (hm : m s = .ok ((), s.setReg Rd v)) :
    FlagRule keeps sets m s Rd ↔ (sets → (flags s.emuCtx.cpu.psr).Fit v) := by
  have hm : m s = .ok ((), (s.setReg Rd v).setPsr s.emuCtx.cpu.psr) := hm
  exact (flagRule_iff hm).trans <| and_iff_right fun _ => rfl

-- The flags for a word.

theorem fit_setMovCondCode :
    (flags (psr &&& ~~~(flagNegative ||| flagZero) ||| movCondCode v)).Fit v := by
  rw [flags_setMovCondCode]
  exact ⟨rfl, rfl⟩

theorem fit_setLslCondCode :
    (flags (psr &&& ~~~(flagNegative ||| flagZero ||| flagCarry) |||
      (movCondCode v ||| if c then flagCarry else 0))).Fit v := by
  rw [flags_setLslCondCode]
  exact ⟨rfl, rfl⟩

theorem allFlags_setMovCondCode_eq_iff :
    allFlags (psr &&& ~~~(flagNegative ||| flagZero) ||| movCondCode v) = allFlags psr ↔
      (flags psr).Fit v := by
  rw [allFlags_setMovCondCode]
  constructor
  case mp  => exact fun h => ⟨(congrArg (·.n) h).symm, (congrArg (·.z) h).symm⟩
  case mpr => exact fun ⟨hn, hz⟩ => by rw [← hn, ← hz]; rfl

theorem allFlags_setLslCondCode_eq_iff :
    allFlags (psr &&& ~~~(flagNegative ||| flagZero ||| flagCarry) |||
      (movCondCode v ||| if c then flagCarry else 0)) = allFlags psr ↔
      (flags psr).Fit v ∧ (flags psr).c = c := by
  rw [allFlags_setLslCondCode]
  constructor
  case mp  =>
    intro h
    exact ⟨⟨(congrArg (·.n) h).symm, (congrArg (·.z) h).symm⟩, (congrArg (·.c) h).symm⟩
  case mpr => exact fun ⟨⟨hn, hz⟩, hc⟩ => by rw [← hn, ← hz, ← hc]; rfl

-- The programs that set the flags for the word that they put into the destination.

theorem flagRule_iff_of_mov (hb : SetsFlags b s) (hm : m s = setMovCondCode b v (s.setReg Rd v)) :
    FlagRule keeps sets m s Rd ↔ (keeps → (flags s.emuCtx.cpu.psr).Fit v) := by
  rw [flagRule_iff <| hm.trans <| setMovCondCode_eq hb]
  exact (and_iff_left fun _ => fit_setMovCondCode).trans <|
    imp_congr_right fun _ => allFlags_setMovCondCode_eq_iff

theorem flagRule_iff_of_lsl (hb : SetsFlags b s)
    (hm : m s = setLslCondCode b v c (s.setReg Rd v)) : FlagRule keeps sets m s Rd ↔
      (keeps → (flags s.emuCtx.cpu.psr).Fit v ∧ (flags s.emuCtx.cpu.psr).c = c) := by
  rw [flagRule_iff <| hm.trans <| setLslCondCode_eq hb]
  exact (and_iff_left fun _ => fit_setLslCondCode).trans <|
    imp_congr_right fun _ => allFlags_setLslCondCode_eq_iff

end

namespace Emulation

-- The slot of the IT block that the instruction is executed in.

def IsInItBlock (cpu : Cpu) : Prop :=
  cpu.itState &&& 0x03 = itThen ∨ cpu.itState &&& 0x03 = itElse

def IsOutsideItBlock (cpu : Cpu) : Prop :=
  cpu.itState &&& 0x03 = itNone

theorem IsInItBlock.not_outside {cpu : Cpu} (h : IsInItBlock cpu) : ¬IsOutsideItBlock cpu := by
  intro hn
  rw [IsInItBlock, show cpu.itState &&& 0x03 = itNone from hn] at h
  revert h
  decide

-- The narrow instructions that are to set the flags exactly outside of an IT block.
inductive NarrowInsn
  | andRegT1 (Rdn Rm : Fin 16)
  | eorRegT1 (Rdn Rm : Fin 16)
  | orrRegT1 (Rdn Rm : Fin 16)
  | mvnRegT1 (Rd Rm : Fin 16)
  | movImmT1 (Rd : Fin 16) (imm : Byte)
  | movRegT2 (Rd Rm : Fin 16)
  | lslImmT1 (Rd Rm : Fin 16) (imm : Byte)
  | lslRegT1 (Rdn Rm : Fin 16)
  | lsrImmT1 (Rd Rm : Fin 16) (imm : Byte)
  | lsrRegT1 (Rdn Rm : Fin 16)
  | asrImmT1 (Rd Rm : Fin 16) (imm : Byte)

namespace NarrowInsn

variable {U : Type}

def handler : NarrowInsn → Emu U Unit
  | andRegT1 Rdn Rm    => i16AndRegT1 (regNo Rdn) (regNo Rm)
  | eorRegT1 Rdn Rm    => i16EorRegT1 (regNo Rdn) (regNo Rm)
  | orrRegT1 Rdn Rm    => i16OrrRegT1 (regNo Rdn) (regNo Rm)
  | mvnRegT1 Rd Rm     => i16MvnRegT1 (regNo Rd) (regNo Rm)
  | movImmT1 Rd imm    => i16MovImmT1 (regNo Rd) imm
  | movRegT2 Rd Rm     => i16MovRegT2 (regNo Rd) (regNo Rm)
  | lslImmT1 Rd Rm imm => i16LslImmT1 (regNo Rd) (regNo Rm) imm
  | lslRegT1 Rdn Rm    => i16LslRegT1 (regNo Rdn) (regNo Rm)
  | lsrImmT1 Rd Rm imm => i16LsrImmT1 (regNo Rd) (regNo Rm) imm
  | lsrRegT1 Rdn Rm    => i16LsrRegT1 (regNo Rdn) (regNo Rm)
  | asrImmT1 Rd Rm imm => i16AsrImmT1 (regNo Rd) (regNo Rm) imm

def dest : NarrowInsn → Fin 16
  | andRegT1 Rd _ | eorRegT1 Rd _ | orrRegT1 Rd _ | mvnRegT1 Rd _ | movRegT2 Rd _ => Rd
  | lslRegT1 Rd _ | lsrRegT1 Rd _ | movImmT1 Rd _                                 => Rd
  | lslImmT1 Rd _ _ | lsrImmT1 Rd _ _ | asrImmT1 Rd _ _                           => Rd

-- The constant of a shift has five bits.
def Encodable : NarrowInsn → Prop
  | lslImmT1 _ _ imm | lsrImmT1 _ _ imm | asrImmT1 _ _ imm => imm.toNat < 32
  | _                                                      => True

def FollowsRule (s : InsnEmuCtx U) (i : NarrowInsn) : Prop :=
  FlagRule (IsInItBlock s.emuCtx.cpu) (IsOutsideItBlock s.emuCtx.cpu) i.handler s i.dest

-- What the state has to be like for the handler to get it right. `and_reg_T1`, `mvn_reg_T1` and
-- `lsr_reg_T1` set the flags in an IT block, too, and `mov_reg_T2` never does. Shifts are not
-- defined for all amounts.
def Accurate (cpu : Cpu) : NarrowInsn → Prop
  | andRegT1 Rdn Rm => IsInItBlock cpu → (flags cpu.psr).Fit (cpu.reg Rdn &&& cpu.reg Rm)
  | mvnRegT1 _ Rm   => IsInItBlock cpu → (flags cpu.psr).Fit (~~~cpu.reg Rm)
  | movRegT2 _ Rm   => IsOutsideItBlock cpu → (flags cpu.psr).Fit (cpu.reg Rm)
  | lslRegT1 _ Rm   => ((cpu.reg Rm).setWidth 8).toNat < 32
  | lsrRegT1 Rdn Rm => (cpu.reg Rm).toNat < 32 ∧ (IsInItBlock cpu →
    (flags cpu.psr).Fit (cpu.reg Rdn >>> (cpu.reg Rm).toNat) ∧ (flags cpu.psr).c =
      (cpu.reg Rm ≠ 0 && (cpu.reg Rdn).getLsbD ((cpu.reg Rm).toNat - 1)))
  | lsrImmT1 _ _ imm | asrImmT1 _ _ imm                              => imm ≠ 0
  | eorRegT1 .. | orrRegT1 .. | movImmT1 .. | lslImmT1 ..            => True

variable {s : InsnEmuCtx U} {m : Emu U Unit} {Rd Rm Rdn : Fin 16} {v : Word} {c : Bool} {imm : Byte}

-- The instructions that set the flags outside of an IT block only.

theorem followsRule_of_inside (hn : ¬IsOutsideItBlock s.emuCtx.cpu)
    (hm : m s = .ok ((), s.setReg Rd v)) :
    FlagRule (IsInItBlock s.emuCtx.cpu) (IsOutsideItBlock s.emuCtx.cpu) m s Rd :=
  (flagRule_iff_of_kept hm).mpr fun hs => absurd hs hn

theorem followsRule_of_mov (hm : m s = setMovCondCode false v (s.setReg Rd v)) :
    FlagRule (IsInItBlock s.emuCtx.cpu) (IsOutsideItBlock s.emuCtx.cpu) m s Rd := by
  by_cases hn : IsOutsideItBlock s.emuCtx.cpu
  case pos =>
    exact (flagRule_iff_of_mov (setsFlags_of_none hn) hm).mpr fun hi => absurd hn hi.not_outside
  case neg =>
    exact followsRule_of_inside hn <| hm.trans <| unconditionally_of_not <| not_setsFlags hn

theorem followsRule_of_lsl (hm : m s = setLslCondCode false v c (s.setReg Rd v)) :
    FlagRule (IsInItBlock s.emuCtx.cpu) (IsOutsideItBlock s.emuCtx.cpu) m s Rd := by
  by_cases hn : IsOutsideItBlock s.emuCtx.cpu
  case pos =>
    exact (flagRule_iff_of_lsl (setsFlags_of_none hn) hm).mpr fun hi => absurd hn hi.not_outside
  case neg =>
    exact followsRule_of_inside hn <| hm.trans <| unconditionally_of_not <| not_setsFlags hn

theorem followsRule_lsrRegT1_iff :
    FollowsRule s (lsrRegT1 Rdn Rm) ↔ (lsrRegT1 Rdn Rm).Accurate s.emuCtx.cpu := by
  by_cases h : (s.emuCtx.cpu.reg Rm).toNat < 32
  case pos =>
    refine (flagRule_iff_of_lsl setsFlags_true <| i16LsrRegT1_eq h).trans ?_
    exact (and_iff_right h).symm
  case neg =>
    refine iff_of_false (not_flagRule_of_fails ?_) fun ha => h ha.left
    refine fails_i16LsrRegT1_iff (regNo_lt Rdn) (regNo_lt Rm) |>.mpr ?_
    rw [Cpu.regAt_regNo]
    exact Nat.le_of_not_lt h

theorem followsRule_lslRegT1_iff :
    FollowsRule s (lslRegT1 Rdn Rm) ↔ (lslRegT1 Rdn Rm).Accurate s.emuCtx.cpu := by
  by_cases h : ((s.emuCtx.cpu.reg Rm).setWidth 8).toNat < 32
  case pos => exact iff_of_true (followsRule_of_lsl <| i16LslRegT1_eq h) h
  case neg =>
    refine iff_of_false (not_flagRule_of_fails ?_) h
    refine fails_i16LslRegT1_iff (regNo_lt Rdn) (regNo_lt Rm) |>.mpr ?_
    rw [Cpu.regAt_regNo]
    exact Nat.le_of_not_lt h

-- The narrow instructions that set the flags exactly outside of an IT block.
theorem followsRule_iff (i : NarrowInsn) (he : i.Encodable) :
    i.FollowsRule s ↔ i.Accurate s.emuCtx.cpu := by
  cases i
  case andRegT1 => exact flagRule_iff_of_mov setsFlags_true <| logical_eq getReg_eq
  case eorRegT1 => exact iff_of_true (followsRule_of_mov <| logical_eq getReg_eq) trivial
  case orrRegT1 => exact iff_of_true (followsRule_of_mov <| logical_eq getReg_eq) trivial
  case mvnRegT1 => exact flagRule_iff_of_mov setsFlags_true <| move_eq <| bind_of_ok getReg_eq
  case movImmT1 => exact iff_of_true (followsRule_of_mov <| bind_of_ok setReg_eq) trivial
  case movRegT2 => exact flagRule_iff_of_kept <| (bind_of_ok getReg_eq).trans setReg_eq
  case lslImmT1 => exact iff_of_true (followsRule_of_lsl <| i16LslImmT1_eq he) trivial
  case lslRegT1 => exact followsRule_lslRegT1_iff
  case lsrRegT1 => exact followsRule_lsrRegT1_iff
  case lsrImmT1 Rd Rm imm =>
    by_cases h₀ : imm = 0
    case pos =>
      refine iff_of_false (not_flagRule_of_fails ?_) (not_not_intro h₀)
      exact fails_i16LsrImmT1_iff (regNo_lt Rm) he |>.mpr h₀
    case neg => exact iff_of_true (followsRule_of_lsl <| i16LsrImmT1_eq h₀ he) h₀
  case asrImmT1 Rd Rm imm =>
    by_cases h₀ : imm = 0
    case pos =>
      refine iff_of_false (not_flagRule_of_fails ?_) (not_not_intro h₀)
      exact fails_i16AsrImmT1_iff (regNo_lt Rm) he |>.mpr h₀
    case neg => exact iff_of_true (followsRule_of_lsl <| i16AsrImmT1_eq h₀ he) h₀

-- `movs r0, r1` outside of an IT block
theorem followsRule_iff_mov : (movRegT2 0 1).FollowsRule (cpuWith [0, 1]) ↔
    (movRegT2 0 1).Accurate (cpuWith [0, 1]).emuCtx.cpu :=
  followsRule_iff (s := cpuWith [0, 1]) (movRegT2 0 1) trivial

theorem not_followsRule_mov : ¬(movRegT2 0 1).FollowsRule (cpuWith [1, 0]) := by
  intro h
  have hf := (flagRule_iff_of_kept <| (bind_of_ok getReg_eq).trans setReg_eq).mp h rfl
  exact absurd hf (by decide)

end NarrowInsn

end Emulation
