import Thumb2Sim.Emulation.DataProcessing
import Thumb2Sim.Emulation.Theorems.Condition
import Thumb2Sim.Lib.Bits

open Program

namespace InsnEmuCtx

variable {U : Type} (s : InsnEmuCtx U)

def setReg (r : Fin 16) (v : Word) : InsnEmuCtx U :=
  { s with emuCtx := s.emuCtx.setReg r v }

def setPsr (psr : Word) : InsnEmuCtx U :=
  { s with emuCtx := s.emuCtx.setPsr psr }

def setMemory (memory : HostMemory) : InsnEmuCtx U :=
  { s with emuCtx.memory := memory }

@[simp]
theorem setPsr_reg (psr : Word) : (s.setPsr psr).emuCtx.cpu.reg = s.emuCtx.cpu.reg :=
  rfl

@[simp]
theorem setPsr_psr (psr : Word) : (s.setPsr psr).emuCtx.cpu.psr = psr :=
  rfl

@[simp]
theorem setReg_reg (r : Fin 16) (v : Word) :
    (s.setReg r v).emuCtx.cpu.reg = Function.update s.emuCtx.cpu.reg r v :=
  rfl

@[simp]
theorem setReg_psr (r : Fin 16) (v : Word) : (s.setReg r v).emuCtx.cpu.psr = s.emuCtx.cpu.psr :=
  rfl

theorem setReg_self (r : Fin 16) : s.setReg r (s.emuCtx.cpu.reg r) = s := by
  simp [setReg, EmuCtx.setReg]

@[simp]
theorem setReg_setReg (r : Fin 16) (v w : Word) : (s.setReg r v).setReg r w = s.setReg r w := by
  simp [setReg, EmuCtx.setReg]

end InsnEmuCtx

namespace Emu

variable {U : Type} {s : InsnEmuCtx U} {Rd Rn : Fin 16} {v w : Word} {b : Bool}

-- The flags are set in this state, if not always then because there is no IT block.
def SetsFlags (alwaysSet : Bool) (s : InsnEmuCtx U) : Prop :=
  alwaysSet || s.emuCtx.cpu.itState &&& 0x03 == itNone

theorem setsFlags_true : SetsFlags true s :=
  rfl

theorem setsFlags_of_none (h : s.emuCtx.cpu.itState &&& 0x03 = itNone) : SetsFlags b s := by
  rw [SetsFlags, beq_iff_eq.mpr h, Bool.or_true]

theorem not_setsFlags (h : s.emuCtx.cpu.itState &&& 0x03 ≠ itNone) : ¬SetsFlags false s := by
  rw [SetsFlags, Bool.false_or, beq_iff_eq]
  exact h

theorem regNo_ne_regPc {r : Fin 16} (h : r ≠ 15) : regNo r ≠ regPc := by
  revert r
  decide

theorem getReg_eq {r : Fin 16} : getReg (regNo r) s = .ok (s.emuCtx.cpu.reg r, s) :=
  getReg_regNo

theorem getReg_setReg {r : Fin 16} :
    getReg (regNo r) (s.setReg r v) = .ok (v, s.setReg r v) := by
  rw [getReg_eq, InsnEmuCtx.setReg_reg, Function.update_self]

theorem setReg_eq {r : Fin 16} : setReg (regNo r) v s = .ok ((), s.setReg r v) :=
  setReg_regNo

-- Accesses to the address space.

theorem load_bind {α β : Type} {f : Addrspace → HostMemory → Except Undefined α}
    {g : α → Emu U β} : (load f >>= g) s =
    f s.emuCtx.addrSpace s.emuCtx.memory >>= fun v => g v s := by
  change (load f s >>= fun p => g p.1 p.2) = _
  simp only [load]
  cases f s.emuCtx.addrSpace s.emuCtx.memory <;> rfl

theorem read32_ok {address : Word}
    (h : s.emuCtx.addrSpace.read32 s.emuCtx.memory address = .ok v) :
    read32 address s = .ok (v, s) := by
  simp only [read32, load, h]
  rfl

theorem write32_ok {address : Word} {memory : HostMemory}
    (h : s.emuCtx.addrSpace.write32 s.emuCtx.memory address v = .ok memory) :
    write32 address v s = .ok ((), s.setMemory memory) := by
  simp only [write32, store, h]
  rfl

theorem unconditionally_eq {m : Emu U Unit} (h : SetsFlags b s) :
    (emulatorExecutionUnconditionally >>= fun c => when (b || c) m) s = m s := by
  have hc : emulatorExecutionUnconditionally s =
      .ok (s.emuCtx.cpu.itState &&& 0x03 == itNone, s) := rfl
  unfold SetsFlags at h
  rw [bind_of_ok hc, when, if_pos h]

theorem unconditionally_of_not {m : Emu U Unit} (h : ¬SetsFlags b s) :
    (emulatorExecutionUnconditionally >>= fun c => when (b || c) m) s = .ok ((), s) := by
  have hc : emulatorExecutionUnconditionally s =
      .ok (s.emuCtx.cpu.itState &&& 0x03 == itNone, s) := rfl
  unfold SetsFlags at h
  rw [bind_of_ok hc, when, if_neg h]
  rfl

theorem setMovCondCode_eq (h : SetsFlags b s) : setMovCondCode b v s = .ok ((), s.setPsr
    (s.emuCtx.cpu.psr &&& ~~~(flagNegative ||| flagZero) ||| movCondCode v)) :=
  unconditionally_eq h

theorem setLslCondCode_eq {c : Bool} (h : SetsFlags b s) :
    setLslCondCode b v c s = .ok ((), s.setPsr
      (s.emuCtx.cpu.psr &&& ~~~(flagNegative ||| flagZero ||| flagCarry) |||
        (movCondCode v ||| if c then flagCarry else 0))) :=
  unconditionally_eq h

theorem setSubCondCode_eq {overflow : SignedOverflow} (h : SetsFlags b s) :
    setSubCondCode overflow b v w s = .ok ((), s.setPsr
      (s.emuCtx.cpu.psr &&& ~~~flagMask ||| subCondCode overflow v w)) :=
  unconditionally_eq h

theorem setAddCondCode_eq (h : SetsFlags b s) : setAddCondCode b v w s = .ok ((), s.setPsr
    (s.emuCtx.cpu.psr &&& ~~~flagMask ||| addCondCode v w)) :=
  unconditionally_eq h

-- The operand of an instruction is read from a register or known already.
theorem arithmetic_eq {setCondCode : Word → Word → Emu U Unit} {op : Word → Word → Word}
    {operand : Emu U Word} {psr : Word}
    (ho : ∀ psr, operand (s.setPsr psr) = .ok (w, s.setPsr psr))
    (hs : setCondCode (s.emuCtx.cpu.reg Rn) w s = .ok ((), s.setPsr psr)) :
    arithmetic setCondCode op (regNo Rd) (regNo Rn) operand s =
      .ok ((), (s.setPsr psr).setReg Rd (op (s.emuCtx.cpu.reg Rn) w)) := by
  have ho' : operand s = .ok (w, s) := ho s.emuCtx.cpu.psr
  rw [arithmetic, bind_of_ok getReg_eq, bind_of_ok ho', bind_of_ok hs, bind_of_ok getReg_eq,
    bind_of_ok (ho psr), setReg_eq, InsnEmuCtx.setPsr_reg]

theorem logical_eq {setCondCode : Word → Emu U Unit} {op : Word → Word → Word}
    {operand : Emu U Word} (ho : operand s = .ok (w, s)) :
    logical setCondCode op (regNo Rd) (regNo Rn) operand s =
      setCondCode (op (s.emuCtx.cpu.reg Rn) w) (s.setReg Rd (op (s.emuCtx.cpu.reg Rn) w)) := by
  rw [logical, bind_of_ok getReg_eq, bind_of_ok ho, bind_of_ok setReg_eq, bind_of_ok getReg_eq,
    InsnEmuCtx.setReg_reg, Function.update_self]

theorem move_eq {setCondCode : Word → Emu U Unit} {operand : Emu U Word}
    (ho : operand s = .ok (w, s)) :
    move setCondCode (regNo Rd) operand s = setCondCode w (s.setReg Rd w) := by
  rw [move, bind_of_ok ho, bind_of_ok setReg_eq, bind_of_ok getReg_eq, InsnEmuCtx.setReg_reg,
    Function.update_self]

-- Shifts whose counts are in range, and a left shift by the count minus one.

theorem checked_shl {m n : Nat} {x : BitVec m} (h : n < m) :
    (checked (CInt.shl x n) : Emu U _) s = .ok (x <<< n, s) := by
  rw [CInt.shl_of_lt h]
  rfl

theorem checked_shr {m n : Nat} {x : BitVec m} (h : n < m) :
    (checked (CInt.shr x n) : Emu U _) s = .ok (x >>> n, s) := by
  rw [CInt.shr_of_lt h]
  rfl

theorem checked_sar {m n : Nat} {x : BitVec m} (h : n < m) :
    (checked (CInt.sar x n) : Emu U _) s = .ok (x.sshiftRight n, s) := by
  simp [CInt.sar, h, checked]

theorem checked_shl_pred {m n : Nat} {x : BitVec m} (h₀ : 1 ≤ n) (h : n ≤ m) :
    (checked (CInt.shl x (n - 1 : Int)) : Emu U _) s = .ok (x <<< (n - 1), s) := by
  have hn : (n - 1 : Int) = (n - 1 : Nat) := by omega
  rw [hn]
  exact checked_shl (by omega)

-- A left shift by a constant. The carry is taken from the highest bit.
theorem barrelShift_lsl {imm : Byte} (h : imm.toNat < 32) :
    barrelShift v typeLsl imm = .ok ⟨v <<< imm.toNat, v.getLsbD 31⟩ := by
  simp only [barrelShift, if_pos, CInt.shl_of_lt h, and_highBit, Bool.decide_eq_true]
  rfl

-- The bit 32 of the doubled width is the last one that is shifted out.
theorem shl_carry {n : Nat} (h : n ≤ 31) :
    decide (v.setWidth 64 <<< n &&& 0x100000000 ≠ 0) = v.getLsbD (32 - n) := by
  have hb : v.setWidth 64 <<< n &&& 0x100000000 =
      if (v.setWidth 64 <<< n).getLsbD 32 then 0x100000000 else 0 := BitVec.and_twoPow _ 32
  have hv : (v.setWidth 64 <<< n).getLsbD 32 = v.getLsbD (32 - n) := by
    have hn : ¬32 < n := by omega
    have hm : 32 - n < 64 := by omega
    simp [BitVec.getLsbD_shiftLeft, BitVec.getLsbD_setWidth, hn, hm, -BitVec.getLsbD_eq_getElem]
  rw [hb, hv]
  cases v.getLsbD (32 - n) <;> decide

-- LSR and ROR take the count minus one or 32 minus the count as the count of another shift.

theorem barrelShift_lsr {imm : Byte} (h₀ : imm ≠ 0) (h : imm.toNat < 32) :
    barrelShift v typeLsr imm = .ok ⟨v >>> imm.toNat, v.getLsbD (imm.toNat - 1)⟩ := by
  have hi : imm.toNat ≠ 0 := fun hi => h₀ <| BitVec.eq_of_toNat_eq hi
  have hp : (imm.toNat - 1 : Int) = (imm.toNat - 1 : Nat) := by omega
  have hs : imm.toNat - 1 < 32 := by omega
  have hc : decide (v &&& (1 : Word) <<< (imm.toNat - 1) ≠ 0) = v.getLsbD (imm.toNat - 1) := by
    simp only [Bits.and_bit_ne_zero hs, Bool.decide_eq_true]
  simp only [barrelShift, hp, CInt.shl_of_lt hs, CInt.shr_of_lt h]
  rw [← hc]
  rfl

theorem barrelShift_ror {imm : Byte} (h₀ : imm ≠ 0) (h : imm.toNat < 32) :
    barrelShift v typeRor imm = .ok ⟨v.rotateRight imm.toNat, false⟩ := by
  have hi : imm.toNat ≠ 0 := fun hi => h₀ <| BitVec.eq_of_toNat_eq hi
  have hp : (32 - imm.toNat : Int) = (32 - imm.toNat : Nat) := by omega
  have hs : 32 - imm.toNat < 32 := by omega
  simp only [barrelShift, hp, CInt.shl_of_lt h, CInt.shl_of_lt hs, CInt.shr_of_lt h]
  rw [← Bits.shiftLeft_or_shiftRight h, ← Bits.and_lowMask_shiftLeft h,
    ← Bits.and_not_lowMask_shiftRight h]
  rfl

theorem barrelShift_zero {type : Byte} (ht : type = typeLsr ∨ type = typeRor) :
    barrelShift v type 0 = .error .shift := by
  obtain rfl | rfl := ht <;> rfl

theorem barrelShift_ok {type imm : Byte} (h : imm.toNat < 32)
    (hi : type = typeLsr ∨ type = typeRor → imm ≠ 0) : ∃ out, barrelShift v type imm = .ok out := by
  by_cases hl : type = typeLsl
  case pos => exact hl ▸ ⟨_, barrelShift_lsl h⟩
  case neg =>
    by_cases hr : type = typeLsr
    case pos => exact hr ▸ ⟨_, barrelShift_lsr (hi <| .inl hr) h⟩
    case neg =>
      by_cases ho : type = typeRor
      case pos => exact ho ▸ ⟨_, barrelShift_ror (hi <| .inr ho) h⟩
      case neg => exact ⟨_, by rw [barrelShift, if_neg hl, if_neg hr, if_neg ho]; rfl⟩

theorem barrelShift_eq_error_iff {type imm : Byte} (h : imm.toNat < 32) :
    barrelShift v type imm = .error .shift ↔ (type = typeLsr ∨ type = typeRor) ∧ imm = 0 := by
  constructor
  case mpr =>
    intro ⟨ht, hi⟩
    rw [hi, barrelShift_zero ht]
  case mp =>
    intro he
    by_contra hn
    have ⟨out, ho⟩ := barrelShift_ok (v := v) h fun ht hi => hn ⟨ht, hi⟩
    cases he.symm.trans ho

theorem barrelShift_lsl_of_le {imm : Byte} (h : 32 ≤ imm.toNat) :
    barrelShift v typeLsl imm = .error .shift := by
  simp only [barrelShift, if_pos, CInt.shl_of_le h]
  rfl

theorem shiftReg_eq {r : Fin 16} {imm : Byte} (h : imm.toNat < 32) :
    shiftReg (regNo r) typeLsl imm s =
      .ok (⟨s.emuCtx.cpu.reg r <<< imm.toNat, (s.emuCtx.cpu.reg r).getLsbD 31⟩, s) := by
  rw [shiftReg, bind_of_ok getReg_eq, barrelShift_lsl h]
  rfl

theorem shiftReg_error {r : Fin 16} {imm : Byte} (h : 32 ≤ imm.toNat) :
    shiftReg (regNo r) typeLsl imm s = .error .shift := by
  rw [shiftReg, bind_of_ok getReg_eq, barrelShift_lsl_of_le h]
  rfl

theorem shiftReg_zero {r : Fin 16} :
    shiftReg (regNo r) typeLsl 0 s =
      .ok (⟨s.emuCtx.cpu.reg r, (s.emuCtx.cpu.reg r).getLsbD 31⟩, s) := by
  simpa using shiftReg_eq (r := r) (s := s) (show (0 : Byte).toNat < 32 by decide)

end Emu

namespace Emulation

-- The carry of LSR by register is taken from the bit in front of the count.

theorem lsrCarry_of_lt (value : Word) {count : Word} (h : (count - 1).toNat < 32) :
    lsrCarry value count = .ok (value.getLsbD (count - 1).toNat) := by
  rw [lsrCarry, CInt.shl_of_lt h]
  refine congrArg Except.ok ?_
  simp only [Bits.and_bit_ne_zero h, Bool.decide_eq_true]

theorem lsrCarry_of_le (value : Word) {count : Word} (h : 32 ≤ (count - 1).toNat) :
    lsrCarry value count = .error .shift := by
  rw [lsrCarry, CInt.shl_of_le h]
  rfl

theorem lsrCarry_cases (value count : Word) :
    lsrCarry value count = .error .shift ∨ ∃ c, lsrCarry value count = .ok c := by
  by_cases h : (count - 1).toNat < 32
  case pos => exact .inr ⟨_, lsrCarry_of_lt value h⟩
  case neg => exact .inl <| lsrCarry_of_le value <| Nat.le_of_not_lt h

theorem lsrCarry_eq_error_iff {value count : Word} :
    lsrCarry value count = .error .shift ↔ 32 ≤ (count - 1).toNat := by
  by_cases h : (count - 1).toNat < 32
  case pos =>
    simp only [lsrCarry_of_lt value h, reduceCtorEq, false_iff]
    omega
  case neg => exact iff_of_true (lsrCarry_of_le value <| Nat.le_of_not_lt h) (Nat.le_of_not_lt h)

end Emulation

-- A CPU with the given content of the registers, outside of an IT block.
def cpuWith (regs : List Word) : InsnEmuCtx Unit where
  emuCtx := {
    cpu            := { reg := (regs.getD · 0), psr := 0, insnCtr := 0, itCond := 0, itState := 0 }
    addrSpace      := Addrspace.init
    memory         := fun _ => []
    ivtBaseAddress := 0
    user           := ()
  }
  countNextInsn    := true
  shiftInsnItState := true
  advancePc        := true
