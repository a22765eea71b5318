import Mathlib.Tactic.Ring
import Thumb2Sim.Emulation.Control
import Thumb2Sim.Emulation.LoadStore
import Thumb2Sim.Emulation.Theorems.Compare
import Thumb2Sim.Emulation.Theorems.ShiftInstructions

open Program Emu

namespace Emulation

-- The operations that have an encoding with 16 bits and one with 32 bits for the same operands: low
-- registers, and the immediate of the narrow encoding.
inductive Twofold
  | addReg (Rd Rn Rm : Fin 8)
  | subReg (Rd Rn Rm : Fin 8)
  | andReg (Rdn Rm : Fin 8)
  | eorReg (Rdn Rm : Fin 8)
  | orrReg (Rdn Rm : Fin 8)
  | addImm (Rd Rn : Fin 8) (imm : Byte)
  | addImm8 (Rdn : Fin 8) (imm : Byte)
  | subImm (Rd Rn : Fin 8) (imm : Byte)
  | subImm8 (Rdn : Fin 8) (imm : Byte)
  | movImm (Rd : Fin 8) (imm : Byte)
  | cmpImm (Rn : Fin 8) (imm : Byte)
  | mvnReg (Rd Rm : Fin 8)
  | lslImm (Rd Rm : Fin 8) (imm : Byte) (h : 1 ≤ imm ∧ imm ≤ 31)
  | lsrImm (Rd Rm : Fin 8) (imm : Byte) (h : 1 ≤ imm ∧ imm ≤ 31)
  | lslReg (Rdn Rm : Fin 8)
  | lsrReg (Rdn Rm : Fin 8)
  | ldrImm (Rt Rn : Fin 8) (imm : Byte)
  | strImm (Rt Rn : Fin 8) (imm : Byte)
  | ldrbImm (Rt Rn : Fin 8) (imm : Byte)
  | strbImm (Rt Rn : Fin 8) (imm : Byte)
  | ldrhImm (Rt Rn : Fin 8) (imm : Byte)
  | strhImm (Rt Rn : Fin 8) (imm : Byte)
  | ldrReg (Rt Rn Rm : Fin 8)
  | strReg (Rt Rn Rm : Fin 8)
  | ldrbReg (Rt Rn Rm : Fin 8)
  | strbReg (Rt Rn Rm : Fin 8)
  | bCond (imm cond : Byte)
  | b (imm : BitVec 11)

def lowReg (r : Fin 8) : Fin 16 :=
  r.castLE (by decide)

def lowRegNo (r : Fin 8) : RegNo :=
  regNo (lowReg r)

namespace Twofold

variable {U : Type}

-- The handler of the encoding with 16 bits.
def narrow (overflow : SignedOverflow) : Twofold → Emu U Unit
  | addReg Rd Rn Rm    => i16AddRegT1 (lowRegNo Rd) (lowRegNo Rn) (lowRegNo Rm)
  | subReg Rd Rn Rm    => i16SubRegT1 overflow (lowRegNo Rd) (lowRegNo Rn) (lowRegNo Rm)
  | andReg Rdn Rm      => i16AndRegT1 (lowRegNo Rdn) (lowRegNo Rm)
  | eorReg Rdn Rm      => i16EorRegT1 (lowRegNo Rdn) (lowRegNo Rm)
  | orrReg Rdn Rm      => i16OrrRegT1 (lowRegNo Rdn) (lowRegNo Rm)
  | addImm Rd Rn imm   => i16AddImmT1 (lowRegNo Rd) (lowRegNo Rn) imm
  | addImm8 Rdn imm    => i16AddImmT2 (lowRegNo Rdn) imm
  | subImm Rd Rn imm   => i16SubImmT1 overflow (lowRegNo Rd) (lowRegNo Rn) imm
  | subImm8 Rdn imm    => i16SubImmT2 overflow (lowRegNo Rdn) imm
  | movImm Rd imm      => i16MovImmT1 (lowRegNo Rd) imm
  | cmpImm Rn imm      => i16CmpImmT1 overflow (lowRegNo Rn) imm
  | mvnReg Rd Rm       => i16MvnRegT1 (lowRegNo Rd) (lowRegNo Rm)
  | lslImm Rd Rm imm _ => i16LslImmT1 (lowRegNo Rd) (lowRegNo Rm) imm
  | lsrImm Rd Rm imm _ => i16LsrImmT1 (lowRegNo Rd) (lowRegNo Rm) imm
  | lslReg Rdn Rm      => i16LslRegT1 (lowRegNo Rdn) (lowRegNo Rm)
  | lsrReg Rdn Rm      => i16LsrRegT1 (lowRegNo Rdn) (lowRegNo Rm)
  | ldrImm Rt Rn imm   => i16LdrImmT1 (lowRegNo Rt) (lowRegNo Rn) imm
  | strImm Rt Rn imm   => i16StrImmT1 (lowRegNo Rt) (lowRegNo Rn) imm
  | ldrbImm Rt Rn imm  => i16LdrbImmT1 (lowRegNo Rt) (lowRegNo Rn) imm
  | strbImm Rt Rn imm  => i16StrbImmT1 (lowRegNo Rt) (lowRegNo Rn) imm
  | ldrhImm Rt Rn imm  => i16LdrhImmT1 (lowRegNo Rt) (lowRegNo Rn) imm
  | strhImm Rt Rn imm  => i16StrhImmT1 (lowRegNo Rt) (lowRegNo Rn) imm
  | ldrReg Rt Rn Rm    => i16LdrRegT1 (lowRegNo Rt) (lowRegNo Rn) (lowRegNo Rm)
  | strReg Rt Rn Rm    => i16StrRegT1 (lowRegNo Rt) (lowRegNo Rn) (lowRegNo Rm)
  | ldrbReg Rt Rn Rm   => i16LdrbRegT1 (lowRegNo Rt) (lowRegNo Rn) (lowRegNo Rm)
  | strbReg Rt Rn Rm   => i16StrbRegT1 (lowRegNo Rt) (lowRegNo Rn) (lowRegNo Rm)
  | bCond imm cond     => i16BT1 imm cond
  | b imm              => i16BT2 (imm.setWidth 16)

-- The handler of the encoding with 32 bits, which sets the flags and shifts no operand. The offset
-- of an access is not scaled, and the one of a branch is extended by the decoder.
def wide (overflow : SignedOverflow) : Twofold → Emu U Unit
  | addReg Rd Rn Rm    => i32AddRegT3 (lowRegNo Rd) (lowRegNo Rn) (lowRegNo Rm) 0 typeLsl true
  | subReg Rd Rn Rm    =>
    i32SubRegT2 overflow (lowRegNo Rd) (lowRegNo Rn) (lowRegNo Rm) 0 typeLsl true
  | andReg Rdn Rm      => i32AndRegT2 (lowRegNo Rdn) (lowRegNo Rdn) (lowRegNo Rm) 0 typeLsl true
  | eorReg Rdn Rm      => i32EorRegT2 (lowRegNo Rdn) (lowRegNo Rdn) (lowRegNo Rm) 0 typeLsl true
  | orrReg Rdn Rm      => i32OrrRegT2 (lowRegNo Rdn) (lowRegNo Rdn) (lowRegNo Rm) 0 typeLsl true
  | addImm Rd Rn imm   => i32AddImmT3 (lowRegNo Rd) (lowRegNo Rn) (imm.setWidth 32) true
  | addImm8 Rdn imm    => i32AddImmT3 (lowRegNo Rdn) (lowRegNo Rdn) (imm.setWidth 32) true
  | subImm Rd Rn imm   => i32SubImmT3 overflow (lowRegNo Rd) (lowRegNo Rn) (imm.setWidth 32) true
  | subImm8 Rdn imm    => i32SubImmT3 overflow (lowRegNo Rdn) (lowRegNo Rdn) (imm.setWidth 32) true
  | movImm Rd imm      => i32MovImmT2 (lowRegNo Rd) (imm.setWidth 32) true
  | cmpImm Rn imm      => i32CmpImmT2 overflow (lowRegNo Rn) (imm.setWidth 32)
  | mvnReg Rd Rm       => i32MvnRegT2 (lowRegNo Rd) (lowRegNo Rm) 0 typeLsl true
  | lslImm Rd Rm imm _ => i32LslImmT2 (lowRegNo Rd) (lowRegNo Rm) imm true
  | lsrImm Rd Rm imm _ => i32LsrImmT2 (lowRegNo Rd) (lowRegNo Rm) imm true
  | lslReg Rdn Rm      => i32LslRegT2 (lowRegNo Rdn) (lowRegNo Rdn) (lowRegNo Rm) true
  | lsrReg Rdn Rm      => i32LsrRegT2 (lowRegNo Rdn) (lowRegNo Rdn) (lowRegNo Rm) true
  | ldrImm Rt Rn imm   => i32LdrImmT3 (lowRegNo Rt) (lowRegNo Rn) (4 * imm.setWidth 16)
  | strImm Rt Rn imm   => i32StrImmT3 (lowRegNo Rt) (lowRegNo Rn) (4 * imm.setWidth 16)
  | ldrbImm Rt Rn imm  => i32LdrbImmT2 (lowRegNo Rt) (lowRegNo Rn) (imm.setWidth 16)
  | strbImm Rt Rn imm  => i32StrbImmT2 (lowRegNo Rt) (lowRegNo Rn) (imm.setWidth 16)
  | ldrhImm Rt Rn imm  => i32LdrhImmT2 (lowRegNo Rt) (lowRegNo Rn) (2 * imm.setWidth 16)
  | strhImm Rt Rn imm  => i32StrhImmT2 (lowRegNo Rt) (lowRegNo Rn) (2 * imm.setWidth 16)
  | ldrReg Rt Rn Rm    => i32LdrRegT2 (lowRegNo Rt) (lowRegNo Rn) (lowRegNo Rm) 0
  | strReg Rt Rn Rm    => i32StrRegT2 (lowRegNo Rt) (lowRegNo Rn) (lowRegNo Rm) 0
  | ldrbReg Rt Rn Rm   => i32LdrbRegT2 (lowRegNo Rt) (lowRegNo Rn) (lowRegNo Rm) 0
  | strbReg Rt Rn Rm   => i32StrbRegT2 (lowRegNo Rt) (lowRegNo Rn) (lowRegNo Rm) 0
  | bCond imm cond     => i32BT3 (imm.signExtend 32) cond
  | b imm              => i32BT4 (imm.signExtend 32)

-- Either word shifted by the other one, cut down to eight bits, gives the same, and so do the
-- carries that are taken from the highest bits.
structure ShiftsCommute (v w : Word) : Prop where
  left  : (w.setWidth 8).toNat < 32
  right : (v.setWidth 8).toNat < 32
  value : v <<< (w.setWidth 8).toNat = w <<< (v.setWidth 8).toNat
  carry : v.getLsbD 31 = w.getLsbD 31

-- The exact condition under which the two encodings do the same. The wide ORRS replaces the carry
-- flag by the highest bit of the second operand, the wide LSLS takes it from the highest bit in
-- place of the last one shifted out, LSLS by a register exchanges the operands, and the wide LSRS
-- by a register shifts by the count minus one to get the carry.
def Agrees (cpu : Cpu) : Twofold → Prop
  | orrReg _ Rm       => (flags cpu.psr).c = (cpu.reg (lowReg Rm)).getLsbD 31
  | lslImm _ Rm imm _ =>
    (cpu.reg (lowReg Rm)).getLsbD (32 - imm.toNat) = (cpu.reg (lowReg Rm)).getLsbD 31
  | lslReg Rdn Rm     => ShiftsCommute (cpu.reg (lowReg Rdn)) (cpu.reg (lowReg Rm))
  | lsrReg _ Rm       => 1 ≤ (cpu.reg (lowReg Rm)).toNat ∧ (cpu.reg (lowReg Rm)).toNat < 32
  | _                 => True

end Twofold

-- The same registers, flags and memory.
structure SameResult {U : Type} (s t : InsnEmuCtx U) : Prop where
  reg    : s.emuCtx.cpu.reg = t.emuCtx.cpu.reg
  flags  : flags s.emuCtx.cpu.psr = flags t.emuCtx.cpu.psr
  memory : s.emuCtx.memory = t.emuCtx.memory

-- Both computations have the same result, or both run into an access to memory of the host that is
-- not there. A shift that is not defined does not agree with anything.
inductive Agree {U : Type} :
    Except Undefined (Unit × InsnEmuCtx U) → Except Undefined (Unit × InsnEmuCtx U) → Prop
  | ok {s t : InsnEmuCtx U} : SameResult s t → Agree (.ok ((), s)) (.ok ((), t))
  | access : Agree (.error .access) (.error .access)

section

variable {U : Type} {s t : InsnEmuCtx U} {x y : Except Undefined (Unit × InsnEmuCtx U)}
  {psr psr' : Word}

theorem agree_ok_iff : Agree (.ok ((), s)) (.ok ((), t)) ↔ SameResult s t := by
  constructor
  case mpr => exact .ok
  case mp  =>
    intro h
    cases h
    case ok h => exact h

theorem agree_setPsr_iff :
    Agree (.ok ((), s.setPsr psr)) (.ok ((), s.setPsr psr')) ↔ flags psr = flags psr' := by
  rw [agree_ok_iff]
  exact ⟨fun h => h.flags, fun h => ⟨rfl, h, rfl⟩⟩

theorem not_agree_shift_left : ¬Agree (.error .shift) y := by
  intro h
  cases h

theorem not_agree_shift_right : ¬Agree x (.error .shift) := by
  intro h
  cases h

-- Two computations that are the same, and that can only go wrong in an access.
theorem agree_of_eq (h : x = y) (hx : ∀ e, x = .error e → e = .access) : Agree x y := by
  subst h
  cases x
  case error e => rw [hx e rfl]; exact .access
  case ok p    => exact .ok ⟨rfl, rfl, rfl⟩

theorem agree_of_ok (hx : x = .ok ((), s)) (hy : y = .ok ((), s)) : Agree x y := by
  rw [hx, hy]
  exact .ok ⟨rfl, rfl, rfl⟩

end

section

variable {U : Type} {s : InsnEmuCtx U} {Rd Rn Rm Rdn Rt : Fin 8} {imm : Byte}
  {overflow : SignedOverflow}

theorem setsFlags_of_itState (h : s.emuCtx.cpu.itState = 0) (b : Bool) : Emu.SetsFlags b s := by
  simp [Emu.SetsFlags, h, itNone]

-- Additions, subtractions and comparisons.

theorem agree_addReg (h : s.emuCtx.cpu.itState = 0) :
    Agree ((Twofold.addReg Rd Rn Rm).narrow overflow s)
      ((Twofold.addReg Rd Rn Rm).wide overflow s) :=
  agree_of_ok (arithmetic_eq (fun _ => getReg_eq) <| setAddCondCode_eq <| setsFlags_of_itState h _)
    ((bind_of_ok shiftReg_zero).trans <|
      arithmetic_eq (fun _ => rfl) <| setAddCondCode_eq setsFlags_true)

theorem agree_subReg (h : s.emuCtx.cpu.itState = 0) :
    Agree ((Twofold.subReg Rd Rn Rm).narrow overflow s)
      ((Twofold.subReg Rd Rn Rm).wide overflow s) :=
  agree_of_ok (arithmetic_eq (fun _ => getReg_eq) <| setSubCondCode_eq <| setsFlags_of_itState h _)
    ((bind_of_ok shiftReg_zero).trans <|
      arithmetic_eq (fun _ => rfl) <| setSubCondCode_eq setsFlags_true)

theorem agree_addImm (overflow : SignedOverflow) (h : s.emuCtx.cpu.itState = 0) :
    Agree ((Twofold.addImm Rd Rn imm).narrow overflow s)
      ((Twofold.addImm Rd Rn imm).wide overflow s) :=
  agree_of_ok (arithmetic_eq (fun _ => rfl) <| setAddCondCode_eq <| setsFlags_of_itState h _)
    (arithmetic_eq (fun _ => rfl) <| setAddCondCode_eq setsFlags_true)

theorem agree_subImm (h : s.emuCtx.cpu.itState = 0) :
    Agree ((Twofold.subImm Rd Rn imm).narrow overflow s)
      ((Twofold.subImm Rd Rn imm).wide overflow s) :=
  agree_of_ok (arithmetic_eq (fun _ => rfl) <| setSubCondCode_eq <| setsFlags_of_itState h _)
    (arithmetic_eq (fun _ => rfl) <| setSubCondCode_eq setsFlags_true)

theorem agree_cmpImm :
    Agree ((Twofold.cmpImm Rn imm).narrow overflow s) ((Twofold.cmpImm Rn imm).wide overflow s) :=
  agree_of_ok ((bind_of_ok getReg_eq).trans <| setSubCondCode_eq setsFlags_true)
    ((bind_of_ok getReg_eq).trans <| setSubCondCode_eq setsFlags_true)

-- Bitwise operations and moves.

theorem lowRegNo_ne_pc {r : Fin 8} : lowRegNo r ≠ regPc := by
  revert r
  decide

theorem agree_andReg :
    Agree ((Twofold.andReg Rdn Rm).narrow overflow s)
      ((Twofold.andReg Rdn Rm).wide overflow s) := by
  refine agree_of_ok ((logical_eq getReg_eq).trans <| setMovCondCode_eq setsFlags_true) ?_
  exact (congrFun (if_pos lowRegNo_ne_pc) s).trans <| (bind_of_ok shiftReg_zero).trans <|
    (logical_eq rfl).trans <| setMovCondCode_eq setsFlags_true

theorem agree_eorReg (h : s.emuCtx.cpu.itState = 0) :
    Agree ((Twofold.eorReg Rdn Rm).narrow overflow s)
      ((Twofold.eorReg Rdn Rm).wide overflow s) := by
  refine agree_of_ok
    ((logical_eq getReg_eq).trans <| setMovCondCode_eq <| setsFlags_of_itState h _) ?_
  exact (congrFun (if_pos lowRegNo_ne_pc) s).trans <| (bind_of_ok shiftReg_zero).trans <|
    (logical_eq rfl).trans <| setMovCondCode_eq setsFlags_true

theorem agree_orrReg_iff (h : s.emuCtx.cpu.itState = 0) :
    Agree ((Twofold.orrReg Rdn Rm).narrow overflow s) ((Twofold.orrReg Rdn Rm).wide overflow s) ↔
      (flags s.emuCtx.cpu.psr).c = (s.emuCtx.cpu.reg (lowReg Rm)).getLsbD 31 := by
  have hn : (Twofold.orrReg Rdn Rm).narrow overflow s = .ok ((), _) :=
    (logical_eq getReg_eq).trans <| setMovCondCode_eq <| setsFlags_of_itState h _
  have hw : (Twofold.orrReg Rdn Rm).wide overflow s = .ok ((), _) :=
    (bind_of_ok shiftReg_zero).trans <| (congrFun (if_pos lowRegNo_ne_pc) s).trans <|
      (logical_eq rfl).trans <| setLslCondCode_eq setsFlags_true
  rw [hn, hw, agree_setPsr_iff, flags_setMovCondCode, flags_setLslCondCode]
  simp

theorem agree_movImm (h : s.emuCtx.cpu.itState = 0) :
    Agree ((Twofold.movImm Rd imm).narrow overflow s) ((Twofold.movImm Rd imm).wide overflow s) :=
  agree_of_ok ((bind_of_ok setReg_eq).trans <| setMovCondCode_eq <| setsFlags_of_itState h _)
    ((bind_of_ok setReg_eq).trans <| setMovCondCode_eq setsFlags_true)

theorem agree_mvnReg :
    Agree ((Twofold.mvnReg Rd Rm).narrow overflow s) ((Twofold.mvnReg Rd Rm).wide overflow s) :=
  agree_of_ok ((move_eq <| bind_of_ok getReg_eq).trans <| setMovCondCode_eq setsFlags_true)
    ((bind_of_ok shiftReg_zero).trans <| (move_eq rfl).trans <| setMovCondCode_eq setsFlags_true)

-- Shifts.

theorem agree_lslImm_iff (hi : 1 ≤ imm ∧ imm ≤ 31) (h : s.emuCtx.cpu.itState = 0) :
    Agree ((Twofold.lslImm Rd Rm imm hi).narrow overflow s)
      ((Twofold.lslImm Rd Rm imm hi).wide overflow s) ↔
      (s.emuCtx.cpu.reg (lowReg Rm)).getLsbD (32 - imm.toNat) =
        (s.emuCtx.cpu.reg (lowReg Rm)).getLsbD 31 := by
  have h₃₂ : imm.toNat < 32 := Nat.lt_succ_of_le hi.right
  have hn : (Twofold.lslImm Rd Rm imm hi).narrow overflow s = .ok ((), _) :=
    (i16LslImmT1_eq h₃₂).trans <| setLslCondCode_eq <| setsFlags_of_itState h _
  have hw : (Twofold.lslImm Rd Rm imm hi).wide overflow s = .ok ((), _) :=
    (i32LslImmT2_eq h₃₂).trans <| setLslCondCode_eq setsFlags_true
  rw [hn, hw, agree_setPsr_iff, flags_setLslCondCode, flags_setLslCondCode]
  simp

theorem agree_lsrImm (hi : 1 ≤ imm ∧ imm ≤ 31) (h : s.emuCtx.cpu.itState = 0) :
    Agree ((Twofold.lsrImm Rd Rm imm hi).narrow overflow s)
      ((Twofold.lsrImm Rd Rm imm hi).wide overflow s) := by
  have h₀ : imm ≠ 0 := by
    rintro rfl
    exact absurd hi.left (by decide)
  have h₃₂ : imm.toNat < 32 := Nat.lt_succ_of_le hi.right
  have hn : (Twofold.lsrImm Rd Rm imm hi).narrow overflow s = .ok ((), _) :=
    (i16LsrImmT1_eq h₀ h₃₂).trans <| setLslCondCode_eq <| setsFlags_of_itState h _
  have hw : (Twofold.lsrImm Rd Rm imm hi).wide overflow s = .ok ((), _) :=
    (i32LsrImmT2_eq h₀ h₃₂).trans <| setLslCondCode_eq <| setsFlags_of_itState h _
  exact agree_of_ok hn hw

theorem agree_setReg_iff {r : Fin 16} {v w psr psr' : Word} :
    Agree (.ok ((), (s.setReg r v).setPsr psr)) (.ok ((), (s.setReg r w).setPsr psr')) ↔
      v = w ∧ flags psr = flags psr' := by
  rw [agree_ok_iff]
  constructor
  case mp  => exact fun h => ⟨Function.update_injective s.emuCtx.cpu.reg r h.reg, h.flags⟩
  case mpr =>
    rintro ⟨rfl, h⟩
    exact ⟨rfl, h, rfl⟩

theorem agree_lslReg_iff (h : s.emuCtx.cpu.itState = 0) :
    Agree ((Twofold.lslReg Rdn Rm).narrow overflow s) ((Twofold.lslReg Rdn Rm).wide overflow s) ↔
      Twofold.ShiftsCommute (s.emuCtx.cpu.reg (lowReg Rdn)) (s.emuCtx.cpu.reg (lowReg Rm)) := by
  by_cases hc : ((s.emuCtx.cpu.reg (lowReg Rm)).setWidth 8).toNat < 32
  case neg =>
    have hn : (Twofold.lslReg Rdn Rm).narrow overflow s = .error .shift :=
      (bind_of_ok getReg_eq).trans <| bind_of_error <| shiftReg_error <| Nat.le_of_not_lt hc
    exact iff_of_false (hn ▸ not_agree_shift_left) fun h => hc h.left
  case pos =>
    by_cases hv : ((s.emuCtx.cpu.reg (lowReg Rdn)).setWidth 8).toNat < 32
    case neg =>
      have hw : (Twofold.lslReg Rdn Rm).wide overflow s = .error .shift :=
        (bind_of_ok getReg_eq).trans <| bind_of_error <| shiftReg_error <| Nat.le_of_not_lt hv
      exact iff_of_false (hw ▸ not_agree_shift_right) fun h => hv h.right
    case pos =>
      have hn : (Twofold.lslReg Rdn Rm).narrow overflow s = .ok ((), _) :=
        (i16LslRegT1_eq hc).trans <| setLslCondCode_eq <| setsFlags_of_itState h _
      have hw : (Twofold.lslReg Rdn Rm).wide overflow s = .ok ((), _) :=
        (i32LslRegT2_eq hv).trans <| setLslCondCode_eq setsFlags_true
      rw [hn, hw, agree_setReg_iff, flags_setLslCondCode, flags_setLslCondCode]
      constructor
      case mp  => exact fun ⟨h, hf⟩ => ⟨hc, hv, h, congrArg Flags.c hf⟩
      case mpr => exact fun h => ⟨h.value, by rw [h.value, h.carry]⟩

-- The wide handler does not look whether the count is zero.
theorem lsrReg_wide_zero (h : s.emuCtx.cpu.reg (lowReg Rm) = 0) :
    (Twofold.lsrReg Rdn Rm).wide overflow s = .error .shift := by
  refine (bind_of_ok getReg_eq).trans <| (bind_of_ok getReg_eq).trans <| bind_of_error ?_
  rw [h]
  rfl

theorem lsrReg_narrow_of_le (h : 32 ≤ (s.emuCtx.cpu.reg (lowReg Rm)).toNat) :
    (Twofold.lsrReg Rdn Rm).narrow overflow s = .error .shift := by
  refine fails_i16LsrRegT1_iff (regNo_lt _) (regNo_lt (lowReg Rm)) |>.mpr ?_
  rw [Cpu.regAt_regNo]
  exact h

theorem agree_lsrReg (h₁ : 1 ≤ (s.emuCtx.cpu.reg (lowReg Rm)).toNat)
    (h : (s.emuCtx.cpu.reg (lowReg Rm)).toNat < 32) :
    Agree ((Twofold.lsrReg Rdn Rm).narrow overflow s)
      ((Twofold.lsrReg Rdn Rm).wide overflow s) := by
  have h₀ : s.emuCtx.cpu.reg (lowReg Rm) ≠ 0 := by
    intro h₀
    simp [h₀] at h₁
  have hn : (Twofold.lsrReg Rdn Rm).narrow overflow s = .ok ((), _) :=
    (i16LsrRegT1_eq h).trans <| setLslCondCode_eq setsFlags_true
  have hw : (Twofold.lsrReg Rdn Rm).wide overflow s = .ok ((), _) :=
    (i32LsrRegT2_eq h₀ h).trans <| setLslCondCode_eq setsFlags_true
  rw [decide_eq_true h₀, Bool.true_and] at hn
  exact agree_of_ok hn hw

theorem agree_lsrReg_iff :
    Agree ((Twofold.lsrReg Rdn Rm).narrow overflow s) ((Twofold.lsrReg Rdn Rm).wide overflow s) ↔
      1 ≤ (s.emuCtx.cpu.reg (lowReg Rm)).toNat ∧ (s.emuCtx.cpu.reg (lowReg Rm)).toNat < 32 := by
  constructor
  case mpr => exact fun ⟨h₁, h⟩ => agree_lsrReg h₁ h
  case mp  =>
    intro ha
    refine ⟨?_, ?_⟩ <;> by_contra h
    case refine_1 =>
      have h₀ : s.emuCtx.cpu.reg (lowReg Rm) = 0 := BitVec.eq_of_toNat_eq <| by simpa using h
      rw [lsrReg_wide_zero h₀] at ha
      exact not_agree_shift_right ha
    case refine_2 =>
      rw [lsrReg_narrow_of_le <| Nat.le_of_not_lt h] at ha
      exact not_agree_shift_left ha

-- Loads and stores.

theorem setWidth_mul {m : BitVec 16} (h : m.toNat ≤ 4) :
    (m * imm.setWidth 16).setWidth 32 = m.setWidth 32 * imm.setWidth 32 := by
  have hi := imm.isLt
  have hm : m.toNat * imm.toNat ≤ 4 * 255 := Nat.mul_le_mul h (by omega)
  apply BitVec.eq_of_toNat_eq
  simp only [BitVec.toNat_setWidth, BitVec.toNat_mul]
  rw [Nat.mod_eq_of_lt (a := imm.toNat) (by omega), Nat.mod_eq_of_lt (a := imm.toNat) (by omega),
    Nat.mod_eq_of_lt (a := m.toNat) (by omega),
    Nat.mod_eq_of_lt (a := m.toNat * imm.toNat) (by omega)]

theorem setWidth_setWidth : (imm.setWidth 16).setWidth 32 = imm.setWidth 32 := by
  simp

end

-- Nothing goes wrong but an access to the memory of the host.
def OnlyAccess {U α : Type} (m : Emu U α) : Prop :=
  ∀ s e, m s = .error e → e = .access

namespace OnlyAccess

variable {U α β : Type}

theorem bind {m : Emu U α} {f : α → Emu U β} (h : OnlyAccess m) (hf : ∀ a, OnlyAccess (f a)) :
    OnlyAccess (m >>= f) := by
  intro s e he
  cases hm : m s
  case error e' =>
    rw [bind_of_error hm] at he
    cases he
    exact h s _ hm
  case ok p =>
    rw [bind_of_ok hm] at he
    exact hf _ _ e he

theorem getReg {r : Fin 16} : OnlyAccess (U := U) (Emu.getReg (regNo r)) := by
  intro s e he
  rw [getReg_eq] at he
  cases he

theorem setReg {r : Fin 16} {v : Word} : OnlyAccess (U := U) (Emu.setReg (regNo r) v) := by
  intro s e he
  rw [setReg_eq] at he
  cases he

theorem load {f : Addrspace → HostMemory → Except Undefined α}
    (h : ∀ as m e, f as m = .error e → e = .access) : OnlyAccess (U := U) (Emu.load f) := by
  intro s e he
  simp only [Emu.load, Bind.bind, Except.bind] at he
  split at he <;> cases he
  exact h _ _ _ ‹_›

theorem store {f : Addrspace → HostMemory → Except Undefined HostMemory}
    (h : ∀ as m e, f as m = .error e → e = .access) : OnlyAccess (U := U) (Emu.store f) := by
  intro s e he
  simp only [Emu.store, Bind.bind, Except.bind] at he
  split at he <;> cases he
  exact h _ _ _ ‹_›

theorem map {f : α → β} {x : Except Undefined α} {e : Undefined}
    (h : (do return f (← x)) = .error e) : x = .error e := by
  cases x <;> cases h
  rfl

variable {Rt : Fin 16} {address : Word}

theorem ldr : OnlyAccess (U := U) (Emu.ldr (regNo Rt) address) :=
  bind (load fun _ _ _ => Addrspace.readN_error) fun _ => setReg

theorem ldrb : OnlyAccess (U := U) (Emu.ldrb (regNo Rt) address) :=
  bind (load fun _ _ _ h => Addrspace.readN_error <| map h) fun _ => setReg

theorem ldrh : OnlyAccess (U := U) (Emu.ldrh (regNo Rt) address) :=
  bind (load fun _ _ _ h => Addrspace.readN_error <| map h) fun _ => setReg

theorem str : OnlyAccess (U := U) (Emu.str (regNo Rt) address) :=
  bind getReg fun _ => store fun _ _ _ => Addrspace.writeN_error

theorem strb : OnlyAccess (U := U) (Emu.strb (regNo Rt) address) :=
  bind getReg fun _ => store fun _ _ _ => Addrspace.writeN_error

theorem strh : OnlyAccess (U := U) (Emu.strh (regNo Rt) address) :=
  bind getReg fun _ => store fun _ _ _ => Addrspace.writeN_error

end OnlyAccess

-- Branches.

theorem signExtend_eq_sub {w : Nat} {x : BitVec w} (hw : w ≤ 31) (h : x.msb) :
    x.signExtend 32 = x.setWidth 32 - (1 : Word) <<< w := by
  have hp : 2 ^ w ≤ 2 ^ 31 := Nat.pow_le_pow_right (by decide) hw
  have hx := x.isLt
  apply BitVec.eq_of_toNat_eq
  rw [BitVec.toNat_signExtend, if_pos h, BitVec.toNat_sub, BitVec.toNat_setWidth,
    BitVec.toNat_shiftLeft]
  simp [Nat.shiftLeft_eq]
  omega

theorem branch_back (pc i p : Word) : pc - (4 + 2 * (p - i)) + 8 = pc + 2 * (i - p) + 4 := by
  ring

theorem relativeBranchTarget_signExtend {w : Nat} {imm : BitVec w} {pc : Word} {bits : Byte}
    (hb : bits.toNat = w) (h₀ : 1 ≤ w) (hw : w ≤ 31) :
    relativeBranchTarget pc (imm.setWidth 32) bits = .ok (pc + 2 * imm.signExtend 32 + 4) := by
  have hp : (2 : Nat) ^ w ≤ 2 ^ 31 := Nat.pow_le_pow_right (by decide) hw
  have hq : (2 : Nat) ^ (w - 1) ≤ 2 ^ 30 := Nat.pow_le_pow_right (by decide) (by omega)
  have hi := imm.isLt
  have hn : (w - 1 : Int) = (w - 1 : Nat) := by omega
  have hc : imm.setWidth 32 ≥ (1 : Word) <<< (w - 1) ↔ imm.msb := by
    rw [BitVec.msb_eq_decide, decide_eq_true_iff, ge_iff_le, BitVec.le_def,
      BitVec.toNat_shiftLeft, BitVec.toNat_setWidth]
    simp [Nat.shiftLeft_eq]
    rw [Nat.mod_eq_of_lt (by omega), Nat.mod_eq_of_lt (by omega)]
  rw [relativeBranchTarget, hb, hn, CInt.shl_of_lt (by omega)]
  change (if imm.setWidth 32 ≥ (1 : Word) <<< (w - 1) then _ else _) = _
  rw [CInt.shl_of_lt (by omega)]
  by_cases hm : imm.msb
  case pos =>
    rw [if_pos (hc.mpr hm), signExtend_eq_sub hw hm]
    exact congrArg Except.ok <| branch_back pc _ _
  case neg =>
    rw [if_neg (hc.not.mpr hm), BitVec.signExtend_eq_setWidth_of_msb_false (by simpa using hm)]
    rfl

theorem onlyAccess_branchBy {U : Type} {imm : Word} : OnlyAccess (U := U) (branchBy imm) := by
  intro s e he
  have hb : branchBy imm s =
      .ok ((), { s.setReg 15 (s.emuCtx.pc + 2 * imm + 4) with advancePc := false }) := rfl
  rw [hb] at he
  cases he

theorem branch_eq_branchBy {U : Type} {w : Nat} {imm : BitVec w} {bits : Byte}
    (hb : bits.toNat = w) (h₀ : 1 ≤ w) (hw : w ≤ 31) :
    branch (U := U) (fun pc => relativeBranchTarget pc (imm.setWidth 32) bits) =
      branchBy (imm.signExtend 32) := by
  simp only [relativeBranchTarget_signExtend hb h₀ hw]
  rfl

namespace Twofold

variable {U : Type} {p : Twofold} {overflow : SignedOverflow}

-- The loads, stores and branches, whose two handlers are the same program.
def SameProgram : Twofold → Prop
  | ldrImm .. | strImm .. | ldrbImm .. | strbImm .. | ldrhImm .. | strhImm .. | ldrReg ..
  | strReg .. | ldrbReg .. | strbReg .. | bCond .. | b .. => True
  | _ => False

theorem narrow_eq_wide (h : p.SameProgram) : p.narrow (U := U) overflow = p.wide overflow := by
  have hs (a : Word) : CInt.shl a (0 : Byte).toNat = .ok a := by
    rw [CInt.shl_of_lt (by decide)]
    simp
  cases p <;> try exact False.elim h
  case ldrImm =>
    simp only [narrow, wide, i16LdrImmT1, i32LdrImmT3, setWidth_mul (m := 4) (by decide)]
    rfl
  case strImm =>
    simp only [narrow, wide, i16StrImmT1, i32StrImmT3, setWidth_mul (m := 4) (by decide)]
    rfl
  case ldrhImm =>
    simp only [narrow, wide, i16LdrhImmT1, i32LdrhImmT2, setWidth_mul (m := 2) (by decide)]
    rfl
  case strhImm =>
    simp only [narrow, wide, i16StrhImmT1, i32StrhImmT2, setWidth_mul (m := 2) (by decide)]
    rfl
  case ldrbImm => simp only [narrow, wide, i16LdrbImmT1, i32LdrbImmT2, setWidth_setWidth]
  case strbImm => simp only [narrow, wide, i16StrbImmT1, i32StrbImmT2, setWidth_setWidth]
  case ldrReg =>
    simp only [narrow, wide, i16LdrRegT1, i32LdrRegT2, hs]
    rfl
  case strReg =>
    simp only [narrow, wide, i16StrRegT1, i32StrRegT2, hs]
    rfl
  case ldrbReg =>
    simp only [narrow, wide, i16LdrbRegT1, i32LdrbRegT2]
    rfl
  case strbReg => simp [narrow, wide, i16StrbRegT1, i32StrbRegT2]
  case bCond =>
    simp only [narrow, wide, i16BT1, i32BT3]
    rw [branch_eq_branchBy (show (8 : Byte).toNat = 8 from rfl) (by decide) (by decide)]
  case b imm =>
    have hi : (imm.setWidth 16).setWidth 32 = imm.setWidth 32 := by simp
    simp only [narrow, wide, i16BT2, i32BT4, hi]
    exact branch_eq_branchBy rfl (by decide) (by decide)

theorem onlyAccess_narrow (h : p.SameProgram) : OnlyAccess (U := U) (p.narrow overflow) := by
  cases p <;> try exact False.elim h
  case ldrImm  => exact .bind .getReg fun _ => .ldr
  case strImm  => exact .bind .getReg fun _ => .str
  case ldrbImm => exact .bind .getReg fun _ => .ldrb
  case strbImm => exact .bind .getReg fun _ => .strb
  case ldrhImm => exact .bind .getReg fun _ => .ldrh
  case strhImm => exact .bind .getReg fun _ => .strh
  case ldrReg  => exact .bind .getReg fun _ => .bind .getReg fun _ => .ldr
  case strReg  => exact .bind .getReg fun _ => .bind .getReg fun _ => .str
  case ldrbReg => exact .bind .getReg fun _ => .bind .getReg fun _ => .ldrb
  case strbReg => exact .bind .getReg fun _ => .bind .getReg fun _ => .strb
  case b => exact narrow_eq_wide h ▸ onlyAccess_branchBy
  case bCond imm cond =>
    rw [narrow_eq_wide h]
    refine .bind (fun _ _ h => by cases h) fun psr => ?_
    cases condSatisfied psr cond
    case false => exact fun _ _ h => by cases h
    case true  => exact onlyAccess_branchBy

theorem SameProgram.agree (h : p.SameProgram) (s : InsnEmuCtx U) :
    Agree (p.narrow overflow s) (p.wide overflow s) :=
  agree_of_eq (congrFun (narrow_eq_wide h) s) (onlyAccess_narrow h s)

variable {s : InsnEmuCtx U}

-- The two encodings of an operation do the same if and only if its condition holds, which is no
-- condition at all for most of the operations.
theorem agree_iff (p : Twofold) (h : s.emuCtx.cpu.itState = 0) :
    Agree (p.narrow overflow s) (p.wide overflow s) ↔ p.Agrees s.emuCtx.cpu := by
  cases p
  case orrReg => exact agree_orrReg_iff h
  case lslImm => exact agree_lslImm_iff _ h
  case lslReg => exact agree_lslReg_iff h
  case lsrReg => exact agree_lsrReg_iff
  all_goals refine iff_of_true ?_ trivial
  case addReg  => exact agree_addReg h
  case subReg  => exact agree_subReg h
  case andReg  => exact agree_andReg
  case eorReg  => exact agree_eorReg h
  case addImm  => exact agree_addImm _ h
  case addImm8 => exact agree_addImm overflow h
  case subImm  => exact agree_subImm h
  case subImm8 => exact agree_subImm h
  case movImm  => exact agree_movImm h
  case cmpImm  => exact agree_cmpImm
  case mvnReg  => exact agree_mvnReg
  case lsrImm  => exact agree_lsrImm _ h
  all_goals exact SameProgram.agree (by trivial) s

-- `lsls r0, r1, #1` shifts out the highest bit.
theorem agree_iff_lsls_one :
    Agree ((lslImm 0 1 1 (by decide)).narrow .excluded (cpuWith [0, 0xc0000001]))
      ((lslImm 0 1 1 (by decide)).wide .excluded (cpuWith [0, 0xc0000001])) :=
  (agree_iff _ rfl).mpr rfl

-- `lsls r0, r1, #2` does not.
theorem not_forall_agree :
    ¬∀ (p : Twofold) (s : InsnEmuCtx Unit), s.emuCtx.cpu.itState = 0 →
      Agree (p.narrow .excluded s) (p.wide .excluded s) := by
  intro h
  have ha := h (lslImm 0 1 2 (by decide)) (cpuWith [0, 0x80000000]) rfl
  exact absurd ((agree_lslImm_iff _ rfl).mp ha) (by decide)

end Twofold

end Emulation
