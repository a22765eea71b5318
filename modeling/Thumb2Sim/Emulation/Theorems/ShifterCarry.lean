import Thumb2Sim.Emulation.Theorems.BarrelShifter
import Thumb2Sim.Emulation.Theorems.WideFlagSetting

open Program Emu

-- A program gives the carry a new value, and leaves V and Q alone.
def CarryRule {U : Type} (m : Emu U Unit) (s : InsnEmuCtx U) (c : Bool) : Prop :=
  ∃ t, m s = .ok ((), t) ∧ (flags t.emuCtx.cpu.psr).c = c ∧
    (flags t.emuCtx.cpu.psr).v = (flags s.emuCtx.cpu.psr).v ∧
    (allFlags t.emuCtx.cpu.psr).q = (allFlags s.emuCtx.cpu.psr).q

section

variable {U : Type} {m : Emu U Unit} {s : InsnEmuCtx U} {Rd : Fin 16} {v psr : Word} {c c' : Bool}

theorem not_carryRule_of_fails (h : Fails .shift m s) : ¬CarryRule m s c := by
  intro ⟨_, hm, _⟩
  cases h.symm.trans hm

theorem carryRule_bind {α : Type} {m : Emu U α} {g : α → Emu U Unit} {a : α}
    (hm : m s = .ok (a, s)) : CarryRule (m >>= g) s c ↔ CarryRule (g a) s c := by
  rw [CarryRule, CarryRule, bind_of_ok hm]

-- All flags but those for the result and the carry are kept.
theorem carryRule_iff {n z : Bool} (hm : m s = .ok ((), (s.setReg Rd v).setPsr psr))
    (hf : allFlags psr = { allFlags s.emuCtx.cpu.psr with n := n, z := z, c := c' }) :
    CarryRule m s c ↔ c' = c := by
  have hc : (flags psr).c = c' := congrArg (·.c) hf
  constructor
  case mp =>
    intro ⟨t, ht, hp, _⟩
    cases hm.symm.trans ht
    exact hc.symm.trans hp
  case mpr => exact fun h => ⟨_, hm, hc.trans h, congrArg (·.v) hf, congrArg (·.q) hf⟩

-- The programs that set the flags for the word that they put into the destination.

theorem carryRule_iff_of_mov (hm : m s = setMovCondCode true v (s.setReg Rd v)) :
    CarryRule m s c ↔ (flags s.emuCtx.cpu.psr).c = c :=
  carryRule_iff (hm.trans <| setMovCondCode_eq setsFlags_true) allFlags_setMovCondCode

theorem carryRule_iff_of_lsl (hm : m s = setLslCondCode true v c' (s.setReg Rd v)) :
    CarryRule m s c ↔ c' = c :=
  carryRule_iff (hm.trans <| setLslCondCode_eq setsFlags_true) allFlags_setLslCondCode

end

namespace Emulation

-- A register that is shifted, with the two bits for the type and the five bits for the amount.
structure ShiftedRegister where
  Rm      : Fin 16
  type    : Byte
  imm     : Byte
  type_lt : type.toNat < 4
  imm_lt  : imm.toNat < 32

namespace ShiftedRegister

def shift (o : ShiftedRegister) : Shift :=
  printedShift o.type o.imm

-- The last bit that is shifted out of a word, if any is. The constant zero stands for RRX or for a
-- shift by 32 to the right.
def lastBit (x : Word) (o : ShiftedRegister) : Bool :=
  if o.type = typeLsl then
    x.getLsbD (32 - o.imm.toNat)
  else if o.imm ≠ 0 then
    x.getLsbD (o.imm.toNat - 1)
  else if o.type = typeRor then
    x.getLsbD 0
  else
    x.getLsbD 31

-- The carry is right if it stays as it is.
def KeepsCarry (cpu : Cpu) (o : ShiftedRegister) : Prop :=
  o.type = typeLsl ∧ o.imm = 0 ∨ (flags cpu.psr).c = o.lastBit (cpu.reg o.Rm)

-- The carry of the barrel shifter is right. It is bit 31 for LSL, and is always cleared for ASR and
-- ROR.
def PutsCarry (cpu : Cpu) (o : ShiftedRegister) : Prop :=
  if o.type = typeLsl then
    CarriesBit31 (cpu.reg o.Rm) (flags cpu.psr).c o.imm.toNat
  else
    o.type = typeLsr ∨ ¬o.lastBit (cpu.reg o.Rm)

variable {o : ShiftedRegister} {x : Word} {c : Bool}

theorem carryOut_eq : o.shift.carryOut x c =
    if o.type = typeLsl ∧ o.imm = 0 then c else o.lastBit x := by
  obtain ⟨Rm, type, imm, ht, hi⟩ := o
  by_cases h₀ : imm = 0
  case pos =>
    subst h₀
    obtain rfl | rfl | rfl | rfl := type_cases ht <;> rfl
  case neg =>
    have hn := (Bits.toNat_pos h₀).ne'
    rw [if_neg fun h => h₀ h.right, shift, lastBit]
    obtain rfl | rfl | rfl | rfl := type_cases ht
    case inl => exact Shift.carryOut_lsl hn hi.le
    case inr.inl =>
      rw [printedShift_lsr h₀, Shift.carryOut_lsr hn]
      exact (if_pos h₀).symm
    case inr.inr.inl =>
      rw [printedShift_asr h₀, Shift.carryOut_asr hn hi.le]
      exact (if_pos h₀).symm
    case inr.inr.inr =>
      rw [printedShift_ror h₀, Shift.carryOut_ror hn hi.le]
      exact (if_pos h₀).symm

theorem keepsCarry_iff {cpu : Cpu} : (flags cpu.psr).c =
    o.shift.carryOut (cpu.reg o.Rm) (flags cpu.psr).c ↔ o.KeepsCarry cpu := by
  rw [carryOut_eq, KeepsCarry]
  split_ifs with h
  case pos => exact iff_of_true rfl (.inl h)
  case neg => exact (or_iff_right h).symm

-- The carry of the barrel shifter.

theorem putsCarry_iff_of_cleared {cpu : Cpu} (hl : o.type ≠ typeLsl) (hr : o.type ≠ typeLsr) :
    false = o.shift.carryOut (cpu.reg o.Rm) (flags cpu.psr).c ↔ o.PutsCarry cpu := by
  rw [carryOut_eq, if_neg fun h => hl h.left, PutsCarry, if_neg hl, or_iff_right hr,
    Bool.not_eq_true, eq_comm]

theorem putsCarry_iff {cpu : Cpu} {out : BarrelshifterOutput} (h : WideInsn.IsShift o.type o.imm)
    (ho : barrelShift (cpu.reg o.Rm) o.type o.imm = .ok out) :
    out.carry = o.shift.carryOut (cpu.reg o.Rm) (flags cpu.psr).c ↔ o.PutsCarry cpu := by
  obtain ⟨Rm, type, imm, ht, hi⟩ := o
  obtain rfl | rfl | rfl | rfl := type_cases ht
  case inl =>
    cases (barrelShift_lsl hi).symm.trans ho
    exact (carriesBit31_iff hi).symm
  case inr.inl =>
    have h₀ : imm ≠ 0 := h (.inl rfl)
    cases (barrelShift_lsr h₀ hi).symm.trans ho
    refine iff_of_true ?_ (.inl rfl)
    rw [carryOut_eq]
    exact (if_pos h₀).symm
  case inr.inr.inl =>
    cases barrelShift_asr.symm.trans ho
    exact putsCarry_iff_of_cleared (show typeAsr ≠ typeLsl by decide)
      (show typeAsr ≠ typeLsr by decide)
  case inr.inr.inr =>
    cases (barrelShift_ror (h <| .inr rfl) hi).symm.trans ho
    exact putsCarry_iff_of_cleared (show typeRor ≠ typeLsl by decide)
      (show typeRor ≠ typeLsr by decide)

end ShiftedRegister

-- The logical instructions with a shifted register.
inductive LogicalInsn
  | andRegT2 (Rd Rn : Fin 16)
  | bicRegT2 (Rd Rn : Fin 16)
  | eorRegT2 (Rd Rn : Fin 16)
  | orrRegT2 (Rd Rn : Fin 16)
  | ornRegT1 (Rd Rn : Fin 16)
  | mvnRegT2 (Rd : Fin 16)

namespace LogicalInsn

variable {U : Type}

-- The handlers for S = 1.
def handler (o : ShiftedRegister) : LogicalInsn → Emu U Unit
  | andRegT2 Rd Rn => i32AndRegT2 (regNo Rd) (regNo Rn) (regNo o.Rm) o.imm o.type true
  | bicRegT2 Rd Rn => i32BicRegT2 (regNo Rd) (regNo Rn) (regNo o.Rm) o.imm o.type true
  | eorRegT2 Rd Rn => i32EorRegT2 (regNo Rd) (regNo Rn) (regNo o.Rm) o.imm o.type true
  | orrRegT2 Rd Rn => i32OrrRegT2 (regNo Rd) (regNo Rn) (regNo o.Rm) o.imm o.type true
  | ornRegT1 Rd Rn => i32OrnRegT1 (regNo Rd) (regNo Rn) (regNo o.Rm) o.imm o.type true
  | mvnRegT2 Rd    => i32MvnRegT2 (regNo Rd) (regNo o.Rm) (o.imm.setWidth 32) o.type true

-- The carry is the one of the shift.
def SetsShifterCarry (s : InsnEmuCtx U) (o : ShiftedRegister) (i : LogicalInsn) : Prop :=
  CarryRule (i.handler o) s <|
    o.shift.carryOut (s.emuCtx.cpu.reg o.Rm) (flags s.emuCtx.cpu.psr).c

-- What the state has to be like for the handler to get it right. Only `orr_reg_T2` takes the carry
-- of the barrel shifter. The constant zero of LSR and ROR is not defined. It does not matter for
-- `and_reg_T2`, `bic_reg_T2` and `eor_reg_T2` if the destination is PC, as nothing is done then.
def Accurate (cpu : Cpu) (o : ShiftedRegister) : LogicalInsn → Prop
  | andRegT2 Rd _ | bicRegT2 Rd _ | eorRegT2 Rd _ =>
    (Rd ≠ 15 → WideInsn.IsShift o.type o.imm) ∧ o.KeepsCarry cpu
  | ornRegT1 .. | mvnRegT2 _ => WideInsn.IsShift o.type o.imm ∧ o.KeepsCarry cpu
  | orrRegT2 ..              => WideInsn.IsShift o.type o.imm ∧ o.PutsCarry cpu

variable {s : InsnEmuCtx U} {o : ShiftedRegister} {Rd Rn : Fin 16}

theorem carryRule_iff_of_shiftReg {g : BarrelshifterOutput → Emu U Unit} {c : Bool} {p : Prop}
    (hg : ∀ out, WideInsn.IsShift o.type o.imm →
      barrelShift (s.emuCtx.cpu.reg o.Rm) o.type o.imm = .ok out → (CarryRule (g out) s c ↔ p)) :
    CarryRule (shiftReg (regNo o.Rm) o.type o.imm >>= g) s c ↔
      WideInsn.IsShift o.type o.imm ∧ p := by
  by_cases hi : WideInsn.IsShift o.type o.imm
  case pos =>
    obtain ⟨out, hb, ho⟩ := WideInsn.shiftReg_ok s o.Rm o.imm_lt hi
    exact (carryRule_bind ho).trans <| (hg out hi hb).trans (and_iff_right hi).symm
  case neg =>
    refine iff_of_false (not_carryRule_of_fails ?_) fun h => hi h.left
    exact fails_bind.mpr <| .inl <| WideInsn.fails_shiftReg o.imm_lt hi

-- The handlers that do not look at the carry of the barrel shifter.
theorem setsShifterCarry_iff_of_mov {g : BarrelshifterOutput → Emu U Unit}
    (hg : ∀ out, ∃ v, g out s = setMovCondCode true v (s.setReg Rd v)) :
    CarryRule (shiftReg (regNo o.Rm) o.type o.imm >>= g) s
        (o.shift.carryOut (s.emuCtx.cpu.reg o.Rm) (flags s.emuCtx.cpu.psr).c) ↔
      WideInsn.IsShift o.type o.imm ∧ o.KeepsCarry s.emuCtx.cpu := by
  refine carryRule_iff_of_shiftReg fun out _ _ => ?_
  obtain ⟨v, hv⟩ := hg out
  exact (carryRule_iff_of_mov hv).trans ShiftedRegister.keepsCarry_iff

-- They do nothing if the destination is PC.
theorem setsShifterCarry_iff_unless_pc {m : Emu U Unit}
    (hm : CarryRule m s
        (o.shift.carryOut (s.emuCtx.cpu.reg o.Rm) (flags s.emuCtx.cpu.psr).c) ↔
      WideInsn.IsShift o.type o.imm ∧ o.KeepsCarry s.emuCtx.cpu) :
    CarryRule (if regNo Rd ≠ regPc then m else return) s
        (o.shift.carryOut (s.emuCtx.cpu.reg o.Rm) (flags s.emuCtx.cpu.psr).c) ↔
      (Rd ≠ 15 → WideInsn.IsShift o.type o.imm) ∧ o.KeepsCarry s.emuCtx.cpu := by
  by_cases hr : Rd = 15
  case pos =>
    subst hr
    have hn : (return : Emu U Unit) s =
        .ok ((), (s.setReg 15 (s.emuCtx.cpu.reg 15)).setPsr s.emuCtx.cpu.psr) := by
      rw [InsnEmuCtx.setReg_self]
      rfl
    have hp : ¬regNo 15 ≠ regPc := not_not_intro rfl
    rw [if_neg hp]
    refine (carryRule_iff hn rfl).trans <| ShiftedRegister.keepsCarry_iff.trans ?_
    exact (and_iff_right fun h => absurd rfl h).symm
  case neg => rw [if_pos <| regNo_ne_regPc hr, hm, forall_prop_of_true hr]

theorem setsShifterCarry_andRegT2_iff :
    (andRegT2 Rd Rn).SetsShifterCarry s o ↔ (andRegT2 Rd Rn).Accurate s.emuCtx.cpu o :=
  setsShifterCarry_iff_unless_pc <| setsShifterCarry_iff_of_mov fun _ => ⟨_, logical_eq rfl⟩

theorem setsShifterCarry_orrRegT2_iff :
    (orrRegT2 Rd Rn).SetsShifterCarry s o ↔ (orrRegT2 Rd Rn).Accurate s.emuCtx.cpu o := by
  refine carryRule_iff_of_shiftReg fun out hi ho => ?_
  rw [← ShiftedRegister.putsCarry_iff hi ho]
  by_cases hr : regNo Rn ≠ 0x0f
  case pos => exact if_pos hr ▸ carryRule_iff_of_lsl (logical_eq rfl)
  case neg => exact if_neg hr ▸ carryRule_iff_of_lsl (move_eq rfl)

theorem setsShifterCarry_mvnRegT2_iff :
    (mvnRegT2 Rd).SetsShifterCarry s o ↔ (mvnRegT2 Rd).Accurate s.emuCtx.cpu o := by
  have hi : (o.imm.setWidth 32).setWidth 8 = o.imm := by
    rw [BitVec.setWidth_setWidth_of_le _ (by decide), BitVec.setWidth_eq]
  unfold SetsShifterCarry handler i32MvnRegT2
  rw [hi]
  exact setsShifterCarry_iff_of_mov fun _ => ⟨_, move_eq rfl⟩

-- The logical instructions that give the carry of the shift to the flag.
theorem setsShifterCarry_iff (s : InsnEmuCtx U) (o : ShiftedRegister) (i : LogicalInsn) :
    i.SetsShifterCarry s o ↔ i.Accurate s.emuCtx.cpu o := by
  cases i
  case andRegT2 => exact setsShifterCarry_andRegT2_iff
  case bicRegT2 =>
    exact setsShifterCarry_iff_unless_pc <| setsShifterCarry_iff_of_mov fun _ => ⟨_, logical_eq rfl⟩
  case eorRegT2 =>
    exact setsShifterCarry_iff_unless_pc <| setsShifterCarry_iff_of_mov fun _ => ⟨_, logical_eq rfl⟩
  case ornRegT1 => exact setsShifterCarry_iff_of_mov fun _ => ⟨_, logical_eq rfl⟩
  case orrRegT2 => exact setsShifterCarry_orrRegT2_iff
  case mvnRegT2 => exact setsShifterCarry_mvnRegT2_iff

-- `ands.w r0, r1, r2, lsl #1` with the highest bit in r2
theorem not_forall_setsShifterCarry : ¬∀ (s : InsnEmuCtx Unit) (o : ShiftedRegister)
    (i : LogicalInsn), i.SetsShifterCarry s o := by
  intro h
  let o : ShiftedRegister := ⟨2, typeLsl, 1, by decide, by decide⟩
  have h := setsShifterCarry_andRegT2_iff.mp <| h (cpuWith [0, 0, 0x80000000]) o (andRegT2 0 1)
  cases h.right
  case inl h => exact absurd h.right (show (1 : Byte) ≠ 0 by decide)
  case inr h => exact absurd h (by decide)

end LogicalInsn

end Emulation
