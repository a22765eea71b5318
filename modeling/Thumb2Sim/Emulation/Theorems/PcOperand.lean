import Thumb2Sim.Emulation.Control
import Thumb2Sim.Emulation.LoadStore
import Thumb2Sim.Emulation.Theorems.Compare
import Thumb2Sim.Emulation.Theorems.Evaluation
import Thumb2Sim.Lib.Bits

open Program Emu

namespace Emulation

-- The instructions that may have PC as a source operand.
inductive PcReader
  | movRegT1 (Rd Rm : Fin 16)
  | addRegT2 (Rdn Rm : Fin 16)
  | cmpRegT2 (Rn Rm : Fin 16)
  | bxT1 (Rm : Fin 16)
  | tbbT1 (Rn Rm : Fin 16) (H : Bool)
  | ldrLitT1 (Rt : Fin 16) (imm : Byte)
  | ldrLitT2 (Rt : Fin 16) (imm : BitVec 16) (up : Bool)

namespace PcReader

variable {U : Type}

def handler (overflow : SignedOverflow) : PcReader → Emu U Unit
  | movRegT1 Rd Rm       => i16MovRegT1 (regNo Rd) (regNo Rm)
  | addRegT2 Rdn Rm      => i16AddRegT2 (regNo Rdn) (regNo Rm)
  | cmpRegT2 Rn Rm       => i16CmpRegT2 overflow (regNo Rn) (regNo Rm)
  | bxT1 Rm              => i16BxT1 (regNo Rm)
  | tbbT1 Rn Rm H        => i32TbbT1 (regNo Rn) (regNo Rm) H
  | ldrLitT1 Rt imm      => i16LdrLitT1 (regNo Rt) imm
  | ldrLitT2 Rt imm up   => i32LdrLitT2 (regNo Rt) imm up

def ReadsPc : PcReader → Prop
  | movRegT1 _ Rm                 => Rm = 15
  | addRegT2 Rdn Rm               => Rdn = 15 ∨ Rm = 15
  | cmpRegT2 Rn Rm                => Rn = 15 ∨ Rm = 15
  | bxT1 Rm                       => Rm = 15
  | tbbT1 Rn _ _                  => Rn = 15
  | ldrLitT1 .. | ldrLitT2 ..     => True

-- The value that PC has as an operand of the instruction at the given address.
def pcOperand (address : Word) : PcReader → Word
  | ldrLitT1 .. | ldrLitT2 .. => (address + 4) &&& ~~~3
  | _                         => address + 4

-- An operand, with the value `x` for PC.
def operand (x : Word) (r : Fin 16) : Emu U Word :=
  if r = 15 then pure x else getReg (regNo r)

-- What the instruction does if it uses the value `x` for PC. `tbb_T1` without H only skips itself.
def operation (overflow : SignedOverflow) (x : Word) : PcReader → Emu U Unit
  | movRegT1 Rd Rm => do
    setReg (regNo Rd) (← operand x Rm)
  | addRegT2 Rdn Rm => do
    setReg (regNo Rdn) ((← operand x Rdn) + (← operand x Rm))
  | cmpRegT2 Rn Rm => do
    setSubCondCode overflow true (← operand x Rn) (← operand x Rm)
  | bxT1 Rm => do
    setReg regPc ((← operand x Rm) &&& ~~~1)
    setAdvancePc false
  | tbbT1 Rn Rm H => do
    setAdvancePc false
    setReg regPc ((← getReg regPc) + 4)
    when H do
      let entry ← read16 ((← operand x Rn) + 2 * (← operand x Rm))
      setReg regPc ((← getReg regPc) + 2 * entry.setWidth 32)
  | ldrLitT1 Rt imm => do
    ldr (regNo Rt) (x + imm.setWidth 32 * 4)
    setAdvancePc (regNo Rt ≠ regPc)
  | ldrLitT2 Rt imm up => do
    ldr (regNo Rt) (x + offset up (imm.setWidth 32))
    setAdvancePc (regNo Rt ≠ regPc)

-- Whatever else is in the registers and in memory, the instruction at the address uses the right
-- value for PC.
def UsesPcOperand (U : Type) (overflow : SignedOverflow) (address : Word) (i : PcReader) : Prop :=
  ∀ s : InsnEmuCtx U, s.emuCtx.pc = address →
    i.handler overflow s = i.operation overflow (i.pcOperand address) s

-- The instructions that add the offset. `cmp_reg_T2` does not, which makes no difference when PC is
-- compared with itself.
def AddsOffset : PcReader → Prop
  | addRegT2 .. | bxT1 .. => False
  | cmpRegT2 Rn Rm        => Rn = 15 ∧ Rm = 15
  | _                     => True

variable {i : PcReader} {s : InsnEmuCtx U} {x y : Word} {Rd Rn Rm Rdn Rt : Fin 16} {H : Bool}
  {overflow : SignedOverflow}

theorem align_add_four (x : Word) : (x + 4) &&& ~~~3 = (x &&& ~~~3) + 4 := by
  have hm : (x + 4) &&& 3 = x &&& 3 := by
    have h (n : Nat) : n &&& 3 = n % 2 ^ 2 := Nat.and_two_pow_sub_one_eq_mod n 2
    apply BitVec.eq_of_toNat_eq
    simp only [BitVec.toNat_and, BitVec.toNat_add, BitVec.reduceToNat, h]
    omega
  have h₁ := Bits.and_not_add_and (x + 4) 3
  have h₂ := Bits.and_not_add_and x 3
  rw [hm] at h₁
  bv_omega

theorem add_four_and_not_one_ne (x : Word) : x &&& ~~~1 ≠ (x + 4) &&& ~~~1 := by
  intro h
  have h₁ := Bits.and_not_add_and (x + 4) 1
  have h₂ := Bits.and_not_add_and x 1
  have hl (y : Word) : (y &&& 1).toNat ≤ 1 := Nat.and_le_right
  have := hl x
  have := hl (x + 4)
  rw [← h] at h₁
  bv_omega

-- The operands with any value for PC, and with the one that is in the array of registers.

theorem operand_pc : operand x 15 s = .ok (x, s) :=
  rfl

theorem operand_of_ne (h : Rm ≠ 15) : operand x Rm s = .ok (s.emuCtx.cpu.reg Rm, s) := by
  rw [operand, if_neg h, getReg_eq]

theorem operand_eq : operand x Rm s = .ok (if Rm = 15 then x else s.emuCtx.cpu.reg Rm, s) := by
  split
  case isTrue h  => rw [h, operand_pc]
  case isFalse h => exact operand_of_ne h

-- The value that is in the array of registers makes no difference.
theorem operand_eq_getReg (h : s.emuCtx.pc = x) : operand x Rm s = getReg (regNo Rm) s := by
  rw [operand_eq, getReg_eq]
  split
  case isTrue hm  => rw [← h, hm]; rfl
  case isFalse hm => rfl

-- The instructions that add the offset.

theorem movRegT1_eq (h : Rm = 15) :
    (movRegT1 Rd Rm).handler overflow s =
      (movRegT1 Rd Rm).operation overflow (s.emuCtx.pc + 4) s := by
  subst h
  have hd : decide (regNo 15 = regPc) := rfl
  simp only [handler, operation, i16MovRegT1]
  rw [bind_of_ok getReg_eq, bind_of_ok setReg_eq, when, if_pos hd, bind_of_ok getReg_setReg,
    setReg_eq, bind_of_ok operand_pc, setReg_eq, InsnEmuCtx.setReg_setReg]
  rfl

-- PC is advanced before the operands are read.
theorem tbbT1_eq : (tbbT1 Rn Rm H).handler overflow s =
    (tbbT1 Rn Rm H).operation overflow (s.emuCtx.pc + 4) s := by
  let t := { s with advancePc := false }
  have ha : setAdvancePc false s = .ok ((), t) := rfl
  have hg : getReg regPc t = .ok (s.emuCtx.pc, t) := getReg_eq (r := 15)
  have hs : setReg regPc (s.emuCtx.pc + 4) t = .ok ((), t.setReg 15 (s.emuCtx.pc + 4)) :=
    setReg_eq (r := 15)
  have ho {r : Fin 16} : operand (s.emuCtx.pc + 4) r (t.setReg 15 (s.emuCtx.pc + 4)) =
      getReg (regNo r) (t.setReg 15 (s.emuCtx.pc + 4)) := operand_eq_getReg rfl
  simp only [handler, operation, i32TbbT1]
  rw [bind_of_ok ha, bind_of_ok ha, bind_of_ok hg, bind_of_ok hg, bind_of_ok hs, bind_of_ok hs]
  cases H
  case false => rfl
  case true  =>
    simp only [when, if_true]
    rw [bind_of_ok getReg_eq, bind_of_ok getReg_eq, bind_of_ok (ho.trans getReg_eq),
      bind_of_ok (ho.trans getReg_eq)]

theorem literal_eq {imm : Word} :
    literal imm s = .ok (((s.emuCtx.pc + 4) &&& ~~~3) + imm, s) := by
  have h : ((s.emuCtx.pc + 4) &&& ~~~3) + imm = (s.emuCtx.pc &&& ~~~3) + imm + 4 := by
    rw [align_add_four]
    exact add_right_comm ..
  rw [h]
  rfl

-- The other ones.

theorem addRegT2_ne (h : Rdn = 15 ∨ Rm = 15) :
    (addRegT2 Rdn Rm).handler overflow s ≠
      (addRegT2 Rdn Rm).operation overflow (s.emuCtx.pc + 4) s := by
  simp only [handler, operation, i16AddRegT2]
  rw [bind_of_ok getReg_eq, bind_of_ok getReg_eq, setReg_eq, bind_of_ok operand_eq,
    bind_of_ok operand_eq, setReg_eq]
  intro he
  have hr := congrFun (congrArg (·.emuCtx.cpu.reg) (Prod.mk.inj <| Except.ok.inj he).2) Rdn
  simp only [InsnEmuCtx.setReg_reg, Function.update_self, EmuCtx.pc] at hr
  obtain rfl | rfl := h
  case inl =>
    rw [if_pos rfl] at hr
    split at hr
    case isTrue hm  => rw [hm] at hr; bv_omega
    case isFalse hm => bv_omega
  case inr =>
    rw [if_pos (rfl : (15 : Fin 16) = 15)] at hr
    split at hr
    case isTrue hd  => rw [hd] at hr; bv_omega
    case isFalse hd => bv_omega

theorem bxT1_ne (h : Rm = 15) :
    (bxT1 Rm).handler overflow s ≠ (bxT1 Rm).operation overflow (s.emuCtx.pc + 4) s := by
  subst h
  have hs {x : Word} : setReg regPc x s = .ok ((), s.setReg 15 x) := setReg_eq (r := 15)
  simp only [handler, operation, i16BxT1]
  rw [bind_of_ok getReg_eq, bind_of_ok hs, bind_of_ok operand_pc, bind_of_ok hs]
  intro he
  have hr := congrFun (congrArg (·.emuCtx.cpu.reg) (Prod.mk.inj <| Except.ok.inj he).2) 15
  simp only [InsnEmuCtx.setReg_reg, Function.update_self] at hr
  exact add_four_and_not_one_ne _ hr

theorem cmpRegT2_eq : (cmpRegT2 Rn Rm).handler overflow s =
    setSubCondCode overflow true (s.emuCtx.cpu.reg Rn) (s.emuCtx.cpu.reg Rm) s := by
  simp only [handler, i16CmpRegT2]
  rw [bind_of_ok getReg_eq, bind_of_ok getReg_eq]

theorem cmpRegT2_operation_eq : (cmpRegT2 Rn Rm).operation overflow x s =
    setSubCondCode overflow true (if Rn = 15 then x else s.emuCtx.cpu.reg Rn)
      (if Rm = 15 then x else s.emuCtx.cpu.reg Rm) s := by
  simp only [operation]
  rw [bind_of_ok operand_eq, bind_of_ok operand_eq]

theorem subCondCode_self : subCondCode overflow x x = subCondCode overflow y y := by
  simp [subCondCode]

-- PC and another register that holds the same address are not equal.
theorem exists_cmpRegT2_ne (h : Rn = 15 ∨ Rm = 15) (hn : ¬(Rn = 15 ∧ Rm = 15))
    (overflow : SignedOverflow) (s : InsnEmuCtx U) : ∃ t : InsnEmuCtx U, t.emuCtx.pc = s.emuCtx.pc ∧
      (cmpRegT2 Rn Rm).handler overflow t ≠
        (cmpRegT2 Rn Rm).operation overflow (s.emuCtx.pc + 4) t := by
  let t : InsnEmuCtx U := { s with emuCtx.cpu.reg := fun _ => s.emuCtx.pc }
  refine ⟨t, rfl, fun he => ?_⟩
  rw [cmpRegT2_eq, cmpRegT2_operation_eq, setSubCondCode_eq setsFlags_true,
    setSubCondCode_eq setsFlags_true] at he
  have hf := congrArg (fun c => (flags c.emuCtx.cpu.psr).z) (Prod.mk.inj <| Except.ok.inj he).2
  simp only [InsnEmuCtx.setPsr_psr, flags_setCondCode, flags_subCondCode, t, decide_true] at hf
  have := of_decide_eq_true hf.symm
  split_ifs at this <;> bv_omega

-- The instructions that use the right value for PC.
theorem usesPcOperand_iff (h : i.ReadsPc) (s : InsnEmuCtx U) :
    UsesPcOperand U overflow s.emuCtx.pc i ↔ i.AddsOffset := by
  cases i
  case movRegT1 => exact iff_of_true (fun t ht => ht ▸ movRegT1_eq h) trivial
  case addRegT2 => exact iff_of_false (fun hu => addRegT2_ne h <| hu s rfl) not_false
  case bxT1     => exact iff_of_false (fun hu => bxT1_ne h <| hu s rfl) not_false
  case tbbT1    => exact iff_of_true (fun t ht => ht ▸ tbbT1_eq) trivial
  case cmpRegT2 =>
    constructor
    case mp =>
      intro hu
      by_contra hn
      have ⟨t, ht, hne⟩ := exists_cmpRegT2_ne h hn overflow s
      exact hne <| hu t ht
    case mpr =>
      intro ⟨hn, hm⟩ t ht
      subst hn hm
      rw [cmpRegT2_eq, cmpRegT2_operation_eq, setSubCondCode_eq setsFlags_true,
        setSubCondCode_eq setsFlags_true, subCondCode_self]
  case ldrLitT1 | ldrLitT2 =>
    refine iff_of_true (fun t ht => ?_) trivial
    simp only [handler, operation, i16LdrLitT1, i32LdrLitT2]
    rw [bind_of_ok literal_eq, ht]
    rfl

-- `mov r0, pc` at the address 0x100
theorem usesPcOperand_mov_iff :
    UsesPcOperand Unit .excluded 0x100 (movRegT1 0 15) ↔ (movRegT1 0 15).AddsOffset :=
  usesPcOperand_iff (i := movRegT1 0 15) rfl { cpuWith [] with emuCtx.cpu.reg := fun _ => 0x100 }

-- `add r0, pc` at the address 0x100
theorem not_usesPcOperand_add : ¬UsesPcOperand Unit .excluded 0x100 (addRegT2 0 15) := by
  intro hu
  exact addRegT2_ne (.inr rfl) <| hu { cpuWith [] with emuCtx.cpu.reg := fun _ => 0x100 } rfl

end PcReader

end Emulation
