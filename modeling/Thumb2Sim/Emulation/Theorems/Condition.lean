import Thumb2Sim.Emulation.Basic

-- The flags of a program status register.
structure Flags where
  n : Bool
  z : Bool
  c : Bool
  v : Bool
deriving DecidableEq

def flags (psr : Word) : Flags where
  n := psr.getLsbD 31
  z := psr.getLsbD 30
  c := psr.getLsbD 29
  v := psr.getLsbD 28

-- The flags with the one for saturation.
structure AllFlags extends Flags where
  q : Bool
deriving DecidableEq

def allFlags (psr : Word) : AllFlags where
  toFlags := flags psr
  q       := psr.getLsbD 27

-- The conditions of instructions and of IT blocks.
inductive ItCond
  | eq | ne | cs | cc | mi | pl | vs | vc | hi | ls | ge | lt | gt | le | al
deriving DecidableEq

namespace ItCond

def number : ItCond → Byte
  | eq => 0
  | ne => 1
  | cs => 2
  | cc => 3
  | mi => 4
  | pl => 5
  | vs => 6
  | vc => 7
  | hi => 8
  | ls => 9
  | ge => 10
  | lt => 11
  | gt => 12
  | le => 13
  | al => 14

def Holds (f : Flags) : ItCond → Prop
  | eq => f.z
  | ne => ¬f.z
  | cs => f.c
  | cc => ¬f.c
  | mi => f.n
  | pl => ¬f.n
  | vs => f.v
  | vc => ¬f.v
  | hi => f.c ∧ ¬f.z
  | ls => ¬f.c ∨ f.z
  | ge => f.n = f.v
  | lt => f.n ≠ f.v
  | gt => ¬f.z ∧ f.n = f.v
  | le => f.z ∨ f.n ≠ f.v
  | al => True

end ItCond

-- A status register with given flags, and nothing else.
def Flags.toPsr (f : Flags) : Word :=
  (if f.n then flagNegative else 0) ||| (if f.z then flagZero else 0) |||
  (if f.c then flagCarry else 0) ||| if f.v then flagOverflow else 0

section

variable {psr : Word}

theorem and_flagNegative : psr &&& flagNegative = if (flags psr).n then flagNegative else 0 :=
  BitVec.and_twoPow psr 31

theorem and_flagZero : psr &&& flagZero = if (flags psr).z then flagZero else 0 :=
  BitVec.and_twoPow psr 30

theorem and_flagCarry : psr &&& flagCarry = if (flags psr).c then flagCarry else 0 :=
  BitVec.and_twoPow psr 29

theorem and_flagOverflow : psr &&& flagOverflow = if (flags psr).v then flagOverflow else 0 :=
  BitVec.and_twoPow psr 28

theorem flags_toPsr (f : Flags) : flags f.toPsr = f := by
  obtain ⟨n, z, c, v⟩ := f
  revert n z c v
  decide

-- Conditions only depend on the flags, for any number in the place of a condition.
theorem condSatisfied_toPsr {cond : Byte} :
    condSatisfied psr cond = condSatisfied (flags psr).toPsr cond := by
  unfold condSatisfied
  simp only [BitVec.and_or_distrib_left, and_flagNegative, and_flagZero, and_flagCarry,
    and_flagOverflow, flags_toPsr]

-- `cond_satisfied` decides the conditions.
theorem condSatisfied_iff {c : ItCond} : condSatisfied psr c.number ↔ c.Holds (flags psr) := by
  rw [condSatisfied_toPsr]
  generalize flags psr = f
  obtain ⟨n, z, v, c'⟩ := f
  cases c <;> revert n z v c' <;> simp only [ItCond.Holds] <;> decide

end

section

variable {psr v a b : Word} {c : Bool}

theorem flags_or : flags (a ||| b) = {
    n := (flags a).n || (flags b).n
    z := (flags a).z || (flags b).z
    c := (flags a).c || (flags b).c
    v := (flags a).v || (flags b).v
  } := by
  simp only [flags, BitVec.getLsbD_or]

theorem flags_and : flags (a &&& b) = {
    n := (flags a).n && (flags b).n
    z := (flags a).z && (flags b).z
    c := (flags a).c && (flags b).c
    v := (flags a).v && (flags b).v
  } := by
  simp only [flags, BitVec.getLsbD_and]

-- The condition codes that leave some of the flags alone.

theorem and_highBit : (v &&& 0x80000000 ≠ 0) = (v.getLsbD 31 = true) := by
  have h : v &&& 0x80000000 = if v.getLsbD 31 then 0x80000000 else 0 := BitVec.and_twoPow v 31
  rw [h]
  cases v.getLsbD 31 <;> decide

theorem flags_movCondCode :
    flags (movCondCode v) = { n := v.getLsbD 31, z := v = 0, c := false, v := false } := by
  have h : movCondCode v =
      Flags.toPsr { n := v.getLsbD 31, z := v = 0, c := false, v := false } := by
    simp only [movCondCode, Flags.toPsr, and_highBit, decide_eq_true_eq, Bool.false_eq_true,
      if_false]
    simp
  rw [h, flags_toPsr]

theorem flags_setMovCondCode :
    flags (psr &&& ~~~(flagNegative ||| flagZero) ||| movCondCode v) =
      { flags psr with n := v.getLsbD 31, z := v = 0 } := by
  have hm : flags (~~~(flagNegative ||| flagZero)) =
      { n := false, z := false, c := true, v := true } := by decide
  simp only [flags_or, flags_and, flags_movCondCode, hm, Bool.and_true, Bool.and_false,
    Bool.false_or, Bool.or_false]

theorem flags_setLslCondCode :
    flags (psr &&& ~~~(flagNegative ||| flagZero ||| flagCarry) |||
      (movCondCode v ||| if c then flagCarry else 0)) =
      { flags psr with n := v.getLsbD 31, z := v = 0, c := c } := by
  have hm : flags (~~~(flagNegative ||| flagZero ||| flagCarry)) =
      { n := false, z := false, c := false, v := true } := by decide
  have hc : flags (if c then flagCarry else 0) =
      { n := false, z := false, c := c, v := false } := by
    cases c <;> decide
  simp only [flags_or, flags_and, flags_movCondCode, hm, hc, Bool.and_true, Bool.and_false,
    Bool.false_or, Bool.or_false]

theorem movCondCode_saturation : (movCondCode v).getLsbD 27 = false := by
  unfold movCondCode
  split_ifs <;> rfl

theorem allFlags_setMovCondCode :
    allFlags (psr &&& ~~~(flagNegative ||| flagZero) ||| movCondCode v) =
      { allFlags psr with n := v.getLsbD 31, z := v = 0 } := by
  have hm : (~~~(flagNegative ||| flagZero)).getLsbD 27 = true := rfl
  simp only [allFlags, flags_setMovCondCode, BitVec.getLsbD_or, BitVec.getLsbD_and, hm,
    movCondCode_saturation, Bool.and_true, Bool.or_false]

theorem allFlags_setLslCondCode :
    allFlags (psr &&& ~~~(flagNegative ||| flagZero ||| flagCarry) |||
      (movCondCode v ||| if c then flagCarry else 0)) =
      { allFlags psr with n := v.getLsbD 31, z := v = 0, c := c } := by
  have hm : (~~~(flagNegative ||| flagZero ||| flagCarry)).getLsbD 27 = true := rfl
  have hc : (if c then flagCarry else 0).getLsbD 27 = false := by cases c <;> rfl
  simp only [allFlags, flags_setLslCondCode, BitVec.getLsbD_or, BitVec.getLsbD_and, hm, hc,
    movCondCode_saturation, Bool.and_true, Bool.or_false]

end
