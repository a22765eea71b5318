import Thumb2Sim.Emulation.Theorems.Compare
import Thumb2Sim.Emulation.Theorems.Evaluation

open Program Emu

-- What is computed of the operands.
inductive SumOp
  | add
  | sub
deriving DecidableEq

namespace SumOp

def value (x y : Word) : SumOp → Word
  | add => x + y
  | sub => x - y

-- The result for the operands as signed numbers, without bounds.
def exact (x y : Word) : SumOp → Int
  | add => x.toInt + y.toInt
  | sub => x.toInt - y.toInt

-- The carry out of an addition, or that nothing is borrowed for a subtraction.
def Carries (x y : Word) : SumOp → Prop
  | add => 2 ^ 32 ≤ x.toNat + y.toNat
  | sub => x.toNat ≥ y.toNat

instance {x y : Word} : DecidablePred (Carries x y)
  | add => inferInstanceAs <| Decidable (_ ≤ _)
  | sub => inferInstanceAs <| Decidable (_ ≥ _)

def resultFlags (x y : Word) (op : SumOp) : Flags where
  n := (op.value x y).getLsbD 31
  z := op.value x y = 0
  c := op.Carries x y
  v := ¬(-2 ^ 31 ≤ op.exact x y ∧ op.exact x y < 2 ^ 31)

-- The exact result is a signed number of 32 bits.
def Fits (x y : Word) (op : SumOp) : Prop :=
  -2 ^ 31 ≤ op.exact x y ∧ op.exact x y < 2 ^ 31

instance {x y : Word} : DecidablePred (Fits x y) :=
  fun _ => inferInstanceAs <| Decidable (_ ∧ _)

-- The flags that a build of the emulator computes.
def buildFlags (overflow : SignedOverflow) (x y : Word) : SumOp → Flags
  | add => add.resultFlags x y
  | sub => { sub.resultFlags x y with v := overflow = .wraps ∧ ¬sub.Fits x y }

-- The functions of the handlers for the condition code.

section

variable (overflow : SignedOverflow)

def condCode (x y : Word) : SumOp → Word
  | add => addCondCode x y
  | sub => subCondCode overflow x y

def setFlags {U : Type} (alwaysSet : Bool) (x y : Word) : SumOp → Emu U Unit
  | add => setAddCondCode alwaysSet x y
  | sub => setSubCondCode overflow alwaysSet x y

end

variable {overflow : SignedOverflow}

theorem flags_condCode (op : SumOp) (x y : Word) :
    flags (op.condCode overflow x y) = op.buildFlags overflow x y := by
  cases op
  case add => exact flags_addCondCode
  case sub =>
    have hz : x - y = 0 ↔ x = y := by
      rw [BitVec.sub_eq_iff_eq_add, zero_add]
    rw [condCode, flags_subCondCode, buildFlags, Flags.mk.injEq]
    refine ⟨?_, decide_eq_decide.mpr hz.symm, rfl, rfl⟩
    rw [Bool.eq_iff_iff, decide_eq_true_iff, ← getLsbD_31_iff]
    rfl

-- Only the overflow of a difference is missed.
theorem buildFlags_eq_iff (op : SumOp) (x y : Word) :
    op.buildFlags overflow x y = op.resultFlags x y ↔
      (overflow = .excluded → op = .sub → op.Fits x y) := by
  cases op
  case add => simp [buildFlags]
  case sub =>
    cases overflow
    case wraps    => simp [buildFlags, resultFlags, Fits]
    case excluded => simp [buildFlags, resultFlags, Fits, Flags.mk.injEq]

theorem condCode_and (op : SumOp) (x y : Word) :
    op.condCode overflow x y &&& ~~~flagMask = 0 := by
  cases op
  case add =>
    simp only [condCode, addCondCode]
    split_ifs <;> rfl
  case sub =>
    simp only [condCode, subCondCode]
    split_ifs <;> rfl

end SumOp

namespace Emulation

-- The instructions for addition and subtraction. The wide ones have a field for the flags.
inductive AddSub
  | addImmT1 (Rd Rn : Fin 16) (imm : Byte)
  | addImmT2 (Rdn : Fin 16) (imm : Byte)
  | addImmT3 (Rd Rn : Fin 16) (imm : Word) (S : Bool)
  | addRegT1 (Rd Rn Rm : Fin 16)
  | addRegT3 (Rd Rn Rm : Fin 16) (imm type : Byte) (S : Bool)
  | subImmT1 (Rd Rn : Fin 16) (imm : Byte)
  | subImmT2 (Rdn : Fin 16) (imm : Byte)
  | subImmT3 (Rd Rn : Fin 16) (imm : Word) (S : Bool)
  | subRegT1 (Rd Rn Rm : Fin 16)
  | subRegT2 (Rd Rn Rm : Fin 16) (imm type : Byte) (S : Bool)
  | rsbImmT2 (Rd Rn : Fin 16) (imm : Word) (S : Bool)
  | rsbRegT1 (Rd Rn Rm : Fin 16) (imm type : Byte) (S : Bool)

namespace AddSub

variable {U : Type}

def handler (overflow : SignedOverflow) : AddSub → Emu U Unit
  | addImmT1 Rd Rn imm           => i16AddImmT1 (regNo Rd) (regNo Rn) imm
  | addImmT2 Rdn imm             => i16AddImmT2 (regNo Rdn) imm
  | addImmT3 Rd Rn imm S         => i32AddImmT3 (regNo Rd) (regNo Rn) imm S
  | addRegT1 Rd Rn Rm            => i16AddRegT1 (regNo Rd) (regNo Rn) (regNo Rm)
  | addRegT3 Rd Rn Rm imm type S => i32AddRegT3 (regNo Rd) (regNo Rn) (regNo Rm) imm type S
  | subImmT1 Rd Rn imm           => i16SubImmT1 overflow (regNo Rd) (regNo Rn) imm
  | subImmT2 Rdn imm             => i16SubImmT2 overflow (regNo Rdn) imm
  | subImmT3 Rd Rn imm S         => i32SubImmT3 overflow (regNo Rd) (regNo Rn) imm S
  | subRegT1 Rd Rn Rm            => i16SubRegT1 overflow (regNo Rd) (regNo Rn) (regNo Rm)
  | subRegT2 Rd Rn Rm imm type S => i32SubRegT2 overflow (regNo Rd) (regNo Rn) (regNo Rm) imm type S
  | rsbImmT2 Rd Rn imm S         => i32RsbImmT2 overflow (regNo Rd) (regNo Rn) imm S
  | rsbRegT1 Rd Rn Rm imm type S => i32RsbRegT1 overflow (regNo Rd) (regNo Rn) (regNo Rm) imm type S

def op : AddSub → SumOp
  | addImmT1 .. | addImmT2 .. | addImmT3 .. | addRegT1 .. | addRegT3 .. => .add
  | subImmT1 .. | subImmT2 .. | subImmT3 .. | subRegT1 .. | subRegT2 .. => .sub
  | rsbImmT2 .. | rsbRegT1 ..                                           => .sub

def dest : AddSub → Fin 16
  | addImmT1 Rd .. | addImmT2 Rd .. | addImmT3 Rd .. | addRegT1 Rd .. | addRegT3 Rd .. => Rd
  | subImmT1 Rd .. | subImmT2 Rd .. | subImmT3 Rd .. | subRegT1 Rd .. | subRegT2 Rd .. => Rd
  | rsbImmT2 Rd .. | rsbRegT1 Rd ..                                                    => Rd

-- The operand that is shifted is the value that the barrel shifter puts out.
def shifted (cpu : Cpu) (Rm : Fin 16) (type imm : Byte) : Except Undefined Word :=
  return (← barrelShift (cpu.reg Rm) type imm).value

-- The operands x and y. They are exchanged by RSB.
def operands (cpu : Cpu) : AddSub → Except Undefined (Word × Word)
  | addImmT1 _ Rn imm   | subImmT1 _ Rn imm   => return (cpu.reg Rn, imm.setWidth 32)
  | addImmT2 Rdn imm    | subImmT2 Rdn imm    => return (cpu.reg Rdn, imm.setWidth 32)
  | addImmT3 _ Rn imm _ | subImmT3 _ Rn imm _ => return (cpu.reg Rn, imm)
  | addRegT1 _ Rn Rm    | subRegT1 _ Rn Rm    => return (cpu.reg Rn, cpu.reg Rm)
  | addRegT3 _ Rn Rm imm type _               => return (cpu.reg Rn, ← shifted cpu Rm type imm)
  | subRegT2 _ Rn Rm imm type _               => return (cpu.reg Rn, ← shifted cpu Rm type imm)
  | rsbImmT2 _ Rn imm _                       => return (imm, cpu.reg Rn)
  | rsbRegT1 _ Rn Rm imm type _               => return (← shifted cpu Rm type imm, cpu.reg Rn)

-- The flags are set by a wide instruction if S is, and by a narrow one outside of an IT block.
def setsFlags (cpu : Cpu) : AddSub → Bool
  | addImmT1 .. | addImmT2 .. | addRegT1 .. | subImmT1 .. | subImmT2 .. | subRegT1 .. =>
    cpu.itState &&& 0x03 == itNone
  | addImmT3 _ _ _ S | addRegT3 _ _ _ _ _ S | subImmT3 _ _ _ S | subRegT2 _ _ _ _ _ S => S
  | rsbImmT2 _ _ _ S | rsbRegT1 _ _ _ _ _ S                                           => S

-- The destination holds the sum or the difference of the old values of the operands, and the flags
-- tell about it or are left alone. Nothing else is changed, except for the saturation flag.
def Computes (overflow : SignedOverflow) (s : InsnEmuCtx U) (x y : Word) (i : AddSub) : Prop :=
  ∃ psr, i.handler overflow s = .ok ((), (s.setPsr psr).setReg i.dest (i.op.value x y)) ∧
    psr &&& ~~~flagMask = s.emuCtx.cpu.psr &&& ~~~flagMask ∧
    flags psr = if i.setsFlags s.emuCtx.cpu then i.op.resultFlags x y
      else flags s.emuCtx.cpu.psr

-- The status register behind the instruction.
def psrBehind (overflow : SignedOverflow) (cpu : Cpu) (x y : Word) (i : AddSub) : Word :=
  if i.setsFlags cpu then cpu.psr &&& ~~~flagMask ||| i.op.condCode overflow x y else cpu.psr

variable {overflow : SignedOverflow} {s : InsnEmuCtx U} {x y : Word}

theorem setFlags_eq {b : Bool} (op : SumOp) :
    op.setFlags overflow b x y s = .ok ((), s.setPsr <|
      if b || s.emuCtx.cpu.itState &&& 0x03 == itNone then
        s.emuCtx.cpu.psr &&& ~~~flagMask ||| op.condCode overflow x y
      else
        s.emuCtx.cpu.psr) := by
  split
  case isTrue h =>
    cases op
    case add => exact setAddCondCode_eq h
    case sub => exact setSubCondCode_eq h
  case isFalse h =>
    cases op
    case add => exact unconditionally_of_not h
    case sub => exact unconditionally_of_not h

theorem when_setFlags_eq {S : Bool} (op : SumOp) :
    when S (op.setFlags overflow true x y) s = .ok ((), s.setPsr <|
      if S then
        s.emuCtx.cpu.psr &&& ~~~flagMask ||| op.condCode overflow x y
      else
        s.emuCtx.cpu.psr) := by
  cases S
  case false => rfl
  case true  => exact setFlags_eq op

theorem shiftReg_of_shifted {Rm : Fin 16} {type imm : Byte} {f : Word → Word × Word}
    (h : (shifted s.emuCtx.cpu Rm type imm >>= fun z => pure (f z)) = .ok (x, y)) :
    ∃ out, shiftReg (regNo Rm) type imm s = .ok (out, s) ∧ f out.value = (x, y) := by
  unfold shifted at h
  rw [shiftReg, bind_of_ok getReg_eq]
  cases ho : barrelShift (s.emuCtx.cpu.reg Rm) type imm
  case error =>
    rw [ho] at h
    cases h
  case ok out =>
    rw [ho] at h
    exact ⟨out, rfl, Except.ok.inj h⟩

theorem handler_eq (i : AddSub) (h : i.operands s.emuCtx.cpu = .ok (x, y)) :
    i.handler overflow s = .ok ((), (s.setPsr (i.psrBehind overflow s.emuCtx.cpu x y)).setReg i.dest
      (i.op.value x y)) := by
  cases i
  case addImmT1 | addImmT2 =>
    cases h
    exact arithmetic_eq (fun _ => rfl) (setFlags_eq .add)
  case subImmT1 | subImmT2 =>
    cases h
    exact arithmetic_eq (fun _ => rfl) (setFlags_eq .sub)
  case addRegT1 =>
    cases h
    exact arithmetic_eq (fun _ => getReg_eq) (setFlags_eq .add)
  case subRegT1 =>
    cases h
    exact arithmetic_eq (fun _ => getReg_eq) (setFlags_eq .sub)
  case addImmT3 =>
    cases h
    exact arithmetic_eq (fun _ => rfl) (when_setFlags_eq .add)
  case subImmT3 | rsbImmT2 =>
    cases h
    exact arithmetic_eq (fun _ => rfl) (when_setFlags_eq .sub)
  case addRegT3 =>
    obtain ⟨out, ho, hz⟩ := shiftReg_of_shifted h
    cases hz
    exact (bind_of_ok ho).trans <| arithmetic_eq (fun _ => rfl) (when_setFlags_eq .add)
  case subRegT2 | rsbRegT1 =>
    obtain ⟨out, ho, hz⟩ := shiftReg_of_shifted h
    cases hz
    exact (bind_of_ok ho).trans <| arithmetic_eq (fun _ => rfl) (when_setFlags_eq .sub)

theorem psrBehind_and (i : AddSub) (cpu : Cpu) :
    i.psrBehind overflow cpu x y &&& ~~~flagMask = cpu.psr &&& ~~~flagMask := by
  unfold psrBehind
  split
  case isTrue  =>
    rw [BitVec.and_or_distrib_right, SumOp.condCode_and, BitVec.and_assoc, BitVec.and_self]
    exact BitVec.or_zero
  case isFalse => rfl

theorem flags_psrBehind (i : AddSub) (cpu : Cpu) : flags (i.psrBehind overflow cpu x y) =
    if i.setsFlags cpu then i.op.buildFlags overflow x y else flags cpu.psr := by
  unfold psrBehind
  split
  case isTrue  => rw [flags_setCondCode, SumOp.flags_condCode]
  case isFalse => rfl

-- Additions are right, and subtractions are if they set no flags, or if the exact difference is a
-- signed number of 32 bits. A build in which differences wrap around gets the others right as well.
theorem computes_iff (i : AddSub) (h : i.operands s.emuCtx.cpu = .ok (x, y)) :
    i.Computes overflow s x y ↔
      (overflow = .excluded → i.setsFlags s.emuCtx.cpu → i.op = .sub → i.op.Fits x y) := by
  have hm : i.handler overflow s = _ := i.handler_eq h
  have hf : flags (i.psrBehind overflow s.emuCtx.cpu x y) = _ := i.flags_psrBehind _
  have hc : i.Computes overflow s x y ↔ flags (i.psrBehind overflow s.emuCtx.cpu x y) =
      if i.setsFlags s.emuCtx.cpu then i.op.resultFlags x y else flags s.emuCtx.cpu.psr := by
    constructor
    case mp =>
      intro ⟨psr, hp, _, hr⟩
      have he := congrArg (·.emuCtx.cpu.psr) (Prod.mk.inj <| Except.ok.inj <| hm.symm.trans hp).2
      simp only [InsnEmuCtx.setReg_psr, InsnEmuCtx.setPsr_psr] at he
      rw [he, hr]
    case mpr => exact fun hr => ⟨_, hm, i.psrBehind_and _, hr⟩
  rw [hc, hf]
  split
  case isTrue hs =>
    rw [SumOp.buildFlags_eq_iff, forall_prop_of_true hs]
  case isFalse hs => exact iff_of_true rfl fun _ h => absurd h hs

-- `subs.w r0, r1, r2, lsl #1` with 5 - 2 * 2
theorem computes_iff_subs : (subRegT2 0 1 2 1 typeLsl true).Computes .excluded
    (cpuWith [0, 5, 2]) 5 4 :=
  (computes_iff _ rfl).mpr fun _ _ _ => by decide

-- `subs r0, r1, r2` with 0 - -2 ^ 31
theorem not_computes_subs : ¬(subRegT1 0 1 2).Computes .excluded
    (cpuWith [0, 0, 0x80000000]) 0 0x80000000 := by
  intro ⟨psr, hp, _, hf⟩
  have he := congrArg (·.emuCtx.cpu.psr) (Prod.mk.inj <| Except.ok.inj hp).2
  change _ = psr at he
  subst he
  exact absurd hf (by decide)

end AddSub

end Emulation
