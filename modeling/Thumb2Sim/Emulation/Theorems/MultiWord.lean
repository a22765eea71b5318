import Thumb2Sim.Emulation.Theorems.Compare
import Thumb2Sim.Emulation.Theorems.Evaluation
import Thumb2Sim.Lib.Ripple

open Program Emu

theorem carry_addCondCode {a b : Word} :
    (flags (addCondCode a b)).c = decide (2 ^ 32 ≤ a.toNat + b.toNat) := by
  rw [flags_addCondCode]

-- The carry flag as a word that is added.
theorem ite_flagCarry {psr : Word} :
    (if psr &&& flagCarry ≠ 0 then 1 else 0) = BitVec.ofNat 32 (flags psr).c.toNat := by
  rw [and_flagCarry]
  cases (flags psr).c <;> rfl

namespace Emulation

-- The instructions for the addition of numbers that take several words. The register operands are
-- not shifted.
inductive WordAddition
  | addRegT1 (Rd Rn Rm : Fin 16)
  | addRegT3 (Rd Rn Rm : Fin 16)
  | adcRegT2 (Rd Rn Rm : Fin 16)
  | adcImmT1 (Rd Rn : Fin 16) (imm : Word)

namespace WordAddition

variable {U : Type}

def handler : WordAddition → Emu U Unit
  | addRegT1 Rd Rn Rm  => i16AddRegT1 (regNo Rd) (regNo Rn) (regNo Rm)
  | addRegT3 Rd Rn Rm  => i32AddRegT3 (regNo Rd) (regNo Rn) (regNo Rm) 0 typeLsl true
  | adcRegT2 Rd Rn Rm  => i32AdcRegT2 (regNo Rd) (regNo Rn) (regNo Rm) 0 typeLsl true
  | adcImmT1 Rd Rn imm => i32AdcImmT1 (regNo Rd) (regNo Rn) imm true

def dest : WordAddition → Fin 16
  | addRegT1 Rd _ _ | addRegT3 Rd _ _ | adcRegT2 Rd _ _ | adcImmT1 Rd _ _ => Rd

-- The registers that hold the operands.
def sources : WordAddition → List (Fin 16)
  | addRegT1 _ Rn Rm | addRegT3 _ Rn Rm | adcRegT2 _ Rn Rm => [Rn, Rm]
  | adcImmT1 _ Rn _ => [Rn]

def first (cpu : Cpu) : WordAddition → Word
  | addRegT1 _ Rn _ | addRegT3 _ Rn _ | adcRegT2 _ Rn _ | adcImmT1 _ Rn _ => cpu.reg Rn

def second (cpu : Cpu) : WordAddition → Word
  | addRegT1 _ _ Rm | addRegT3 _ _ Rm | adcRegT2 _ _ Rm => cpu.reg Rm
  | adcImmT1 _ _ imm => imm

-- Whether the carry flag is added.
def withCarry : WordAddition → Bool
  | addRegT1 .. | addRegT3 .. => false
  | adcRegT2 .. | adcImmT1 .. => true

-- The state of the IT block lets the instruction set the flags.
def SetsFlags (s : InsnEmuCtx U) : WordAddition → Prop
  | addRegT1 .. => Emu.SetsFlags false s
  | _           => True

-- The carry flag that the handler computes. For ADC it is taken from other operands than the sum:
-- from the old content of the destination, or with one more added to the immediate.
def carry (cpu : Cpu) (c : Bool) : WordAddition → Bool
  | addRegT1 _ Rn Rm | addRegT3 _ Rn Rm => 2 ^ 32 ≤ (cpu.reg Rn).toNat + (cpu.reg Rm).toNat
  | adcRegT2 Rd _ Rm  => 2 ^ 32 ≤ (cpu.reg Rd).toNat + ((cpu.reg Rm).toNat + c.toNat) % 2 ^ 32
  | adcImmT1 _ Rn imm => 2 ^ 32 ≤ (cpu.reg Rn).toNat + (imm.toNat + c.toNat + 1) % 2 ^ 32

def adder (cpu : Cpu) (i : WordAddition) : Adder where
  x     := (i.first cpu).toNat
  y     := (i.second cpu).toNat
  carry := fun c => i.carry cpu c

-- The carry that comes in.
def carryIn (psr : Word) (i : WordAddition) : Bool :=
  i.withCarry && (flags psr).c

variable {s : InsnEmuCtx U}

theorem i32AdcRegT2_eq {Rd Rn Rm : Fin 16} :
    let value := s.emuCtx.cpu.reg Rm + BitVec.ofNat 32 (flags s.emuCtx.cpu.psr).c.toNat
    i32AdcRegT2 (regNo Rd) (regNo Rn) (regNo Rm) 0 typeLsl true s =
      .ok ((), s.setPsr (s.emuCtx.cpu.psr &&& ~~~flagMask |||
        addCondCode (s.emuCtx.cpu.reg Rd) value) |>.setReg Rd (s.emuCtx.cpu.reg Rn + value)) := by
  intro value
  have hp : getPsr s = .ok (s.emuCtx.cpu.psr, s) := rfl
  have hf : (getReg (regNo Rd) >>= fun x => setAddCondCode true x value) s =
      .ok ((), s.setPsr (s.emuCtx.cpu.psr &&& ~~~flagMask |||
        addCondCode (s.emuCtx.cpu.reg Rd) value)) := by
    rw [bind_of_ok getReg_eq, setAddCondCode_eq setsFlags_true]
  rw [i32AdcRegT2, bind_of_ok shiftReg_zero, bind_of_ok hp, ite_flagCarry, when, if_pos rfl]
  rw [bind_of_ok hf, bind_of_ok getReg_eq, setReg_eq]
  rfl

theorem i32AdcImmT1_eq {Rd Rn : Fin 16} {imm : Word} :
    let value := imm + BitVec.ofNat 32 (flags s.emuCtx.cpu.psr).c.toNat
    i32AdcImmT1 (regNo Rd) (regNo Rn) imm true s =
      .ok ((), s.setPsr (s.emuCtx.cpu.psr &&& ~~~flagMask |||
        addCondCode (s.emuCtx.cpu.reg Rn) (value + 1)) |>.setReg Rd
          (s.emuCtx.cpu.reg Rn + value)) := by
  intro value
  have hp : getPsr s = .ok (s.emuCtx.cpu.psr, s) := rfl
  have hf : (getReg (regNo Rn) >>= fun x => setAddCondCode true x (value + 1)) s =
      .ok ((), s.setPsr (s.emuCtx.cpu.psr &&& ~~~flagMask |||
        addCondCode (s.emuCtx.cpu.reg Rn) (value + 1))) := by
    rw [bind_of_ok getReg_eq, setAddCondCode_eq setsFlags_true]
  rw [i32AdcImmT1, bind_of_ok hp, ite_flagCarry, when, if_pos rfl]
  rw [bind_of_ok hf, bind_of_ok getReg_eq, setReg_eq]
  rfl

-- The instruction adds the operands and the carry that comes in, and sets the carry flag.
theorem handler_eq (i : WordAddition) (hf : i.SetsFlags s) :
    let c := i.carryIn s.emuCtx.cpu.psr
    ∃ psr v, i.handler s = .ok ((), (s.setPsr psr).setReg i.dest v) ∧
      v.toNat = (i.adder s.emuCtx.cpu).digit (2 ^ 32) c ∧
      (flags psr).c = i.carry s.emuCtx.cpu c := by
  intro c
  have hc : c.toNat < 2 := c.toNat_lt
  cases i
  case addRegT1 Rd Rn Rm =>
    refine ⟨_, _, arithmetic_eq (fun _ => getReg_eq) (setAddCondCode_eq hf), ?_, ?_⟩
    · simp [Adder.digit, adder, first, second, c, carryIn, withCarry]
    · rw [flags_setCondCode, carry_addCondCode, carry]
  case addRegT3 Rd Rn Rm =>
    have hs : i32AddRegT3 (regNo Rd) (regNo Rn) (regNo Rm) 0 typeLsl true s = _ :=
      (bind_of_ok shiftReg_zero).trans <|
        arithmetic_eq (fun _ => rfl) (setAddCondCode_eq setsFlags_true)
    refine ⟨_, _, hs, ?_, ?_⟩
    · simp [Adder.digit, adder, first, second, c, carryIn, withCarry]
    · rw [flags_setCondCode, carry_addCondCode, carry]
  case adcRegT2 Rd Rn Rm =>
    refine ⟨_, _, i32AdcRegT2_eq, ?_, ?_⟩
    · simp only [BitVec.toNat_add, BitVec.toNat_ofNat]
      simp [Adder.digit, adder, first, second, c, carryIn, withCarry]
      omega
    · rw [flags_setCondCode, carry_addCondCode, carry]
      simp [c, carryIn, withCarry]
  case adcImmT1 Rd Rn imm =>
    refine ⟨_, _, i32AdcImmT1_eq, ?_, ?_⟩
    · simp [Adder.digit, adder, first, second, c, carryIn, withCarry]
      omega
    · rw [flags_setCondCode, carry_addCondCode, carry]
      simp [c, carryIn, withCarry]

-- The instructions, one after the other.
def execute : List WordAddition → Emu U Unit
  | []     => pure ()
  | i :: l => do
    i.handler
    execute l

-- The instruction leaves the registers alone that a later one needs.
def Before (i j : WordAddition) : Prop :=
  i.dest ≠ j.dest ∧ i.dest ∉ j.sources

-- The carry that comes in, or the flag itself if there are no more words.
def carryInto (psr : Word) : List WordAddition → Bool
  | []     => (flags psr).c
  | i :: _ => i.carryIn psr

-- The words of the sum and its carry are those that the chain of adders computes.
structure Adds (l : List WordAddition) (s s' : InsnEmuCtx U) : Prop where
  digits : l.map (fun i => (s'.emuCtx.cpu.reg i.dest).toNat) =
    Adder.digits (2 ^ 32) (l.map (adder s.emuCtx.cpu)) (carryInto s.emuCtx.cpu.psr l)
  carry  : (flags s'.emuCtx.cpu.psr).c =
    Adder.lastCarry (l.map (adder s.emuCtx.cpu)) (carryInto s.emuCtx.cpu.psr l)
  frame  : ∀ r, (∀ i ∈ l, r ≠ i.dest) → s'.emuCtx.cpu.reg r = s.emuCtx.cpu.reg r

theorem carryInto_eq {psr : Word} {l : List WordAddition} (h : ∀ i ∈ l, i.withCarry) :
    carryInto psr l = (flags psr).c := by
  cases l
  case nil => rfl
  case cons => simp [carryInto, carryIn, h]

theorem adder_congr {cpu cpu' : Cpu} {i : WordAddition}
    (h : ∀ r, r = i.dest ∨ r ∈ i.sources → cpu'.reg r = cpu.reg r) :
    i.adder cpu' = i.adder cpu := by
  cases i <;> simp [dest, sources] at h <;> simp [adder, first, second, carry, h]

theorem Before.adder_eq {i j : WordAddition} (h : i.Before j) {psr v : Word} :
    j.adder ((s.setPsr psr).setReg i.dest v).emuCtx.cpu = j.adder s.emuCtx.cpu := by
  refine adder_congr fun r hr => Function.update_of_ne ?_ _ _
  rintro rfl
  exact hr.elim h.left h.right

theorem execute_adds {l : List WordAddition} (hp : l.Pairwise Before)
    (hf : ∀ i ∈ l, i.SetsFlags s) (hc : ∀ i ∈ l.tail, i.withCarry) :
    ∃ s', execute l s = .ok ((), s') ∧ Adds l s s' := by
  induction l generalizing s
  case nil => exact ⟨s, rfl, rfl, rfl, fun _ _ => rfl⟩
  case cons i l hi =>
    obtain ⟨hb, hp⟩ := List.pairwise_cons.mp hp
    have ⟨psr, v, hs, hv, hpsr⟩ := i.handler_eq (hf i <| .head l)
    have hf' : ∀ j ∈ l, j.SetsFlags ((s.setPsr psr).setReg i.dest v) := by
      intro j hj
      have := hf j <| .tail i hj
      cases j <;> exact this
    obtain ⟨s', he, ha⟩ := hi hp hf' fun j hj => hc j <| List.mem_of_mem_tail hj
    refine ⟨s', (bind_of_ok hs).trans he, ?_⟩
    have hl : l.map (adder ((s.setPsr psr).setReg i.dest v).emuCtx.cpu) =
        l.map (adder s.emuCtx.cpu) :=
      List.map_congr_left fun j hj => (hb j hj).adder_eq
    have hi : carryInto psr l = i.carry s.emuCtx.cpu (i.carryIn s.emuCtx.cpu.psr) :=
      (carryInto_eq hc).trans hpsr
    have hr : s'.emuCtx.cpu.reg i.dest = v := by
      rw [ha.frame i.dest fun j hj => (hb j hj).left, InsnEmuCtx.setReg_reg, Function.update_self]
    have hd := ha.digits
    have hk := ha.carry
    rw [hl, InsnEmuCtx.setReg_psr, InsnEmuCtx.setPsr_psr, hi] at hd hk
    refine ⟨?_, hk, fun r hr => ?_⟩
    case refine_1 => rw [List.map_cons, hr, hv, hd]; rfl
    case refine_2 =>
      obtain ⟨hn, hr⟩ := List.forall_mem_cons.mp hr
      rw [ha.frame r hr, InsnEmuCtx.setReg_reg, Function.update_of_ne hn, InsnEmuCtx.setPsr_reg]

-- The carry flag is right behind the instruction if it was right before. For ADC, this is a
-- question about the operands: the registers, the immediate and the carry out of the lower words.
def ExactCarry (cpu : Cpu) (c : Bool) : WordAddition → Prop
  | addRegT1 .. | addRegT3 .. => True
  | adcRegT2 Rd Rn Rm =>
    2 ^ 32 ≤ (cpu.reg Rd).toNat + ((cpu.reg Rm).toNat + c.toNat) % 2 ^ 32 ↔
    2 ^ 32 ≤ (cpu.reg Rn).toNat + (cpu.reg Rm).toNat + c.toNat
  | adcImmT1 _ Rn imm =>
    2 ^ 32 ≤ (cpu.reg Rn).toNat + (imm.toNat + c.toNat + 1) % 2 ^ 32 ↔
    2 ^ 32 ≤ (cpu.reg Rn).toNat + imm.toNat + c.toNat

def ExactCarries (cpu : Cpu) : List WordAddition → Bool → Prop
  | [],     _ => True
  | i :: l, c => i.ExactCarry cpu c ∧
    ExactCarries cpu l (2 ^ 32 ≤ (i.first cpu).toNat + (i.second cpu).toNat + c.toNat)

theorem exactCarry_iff {cpu : Cpu} {i : WordAddition} {c : Bool} (h : c = (i.withCarry && c)) :
    i.ExactCarry cpu c ↔ (i.adder cpu).carry c = (i.adder cpu).carryOut (2 ^ 32) c := by
  cases i
  case addRegT1 | addRegT3 =>
    have hc : c = false := h
    simp [ExactCarry, adder, carry, Adder.carryOut, first, second, hc]
  all_goals exact decide_eq_decide.symm

theorem exactCarries_iff {cpu : Cpu} {l : List WordAddition} {c : Bool}
    (h : ∀ i ∈ l.head?, c = (i.withCarry && c)) (hc : ∀ i ∈ l.tail, i.withCarry) :
    ExactCarries cpu l c ↔ Adder.Exact (2 ^ 32) (l.map (adder cpu)) c := by
  induction l generalizing c
  case nil => rfl
  case cons i l hi =>
    refine and_congr (exactCarry_iff <| h i rfl) <| hi (fun j hj => ?_) fun j hj => ?_
    case refine_1 => simp [hc j <| List.mem_of_mem_head? hj]
    case refine_2 => exact hc j <| List.mem_of_mem_tail hj

-- The number whose words belong to the instructions, the lowest one first.
def number (word : WordAddition → Word) (l : List WordAddition) : Nat :=
  Nat.ofDigits (2 ^ 32) <| l.map fun i => (word i).toNat

-- The destinations hold the sum of the operands, and the carry flag the carry out of it.
structure Sums (l : List WordAddition) (s s' : InsnEmuCtx U) : Prop where
  sum   : number (fun i => s'.emuCtx.cpu.reg i.dest) l =
    (number (first s.emuCtx.cpu) l + number (second s.emuCtx.cpu) l) % (2 ^ 32) ^ l.length
  carry : (flags s'.emuCtx.cpu.psr).c ↔
    (2 ^ 32) ^ l.length ≤ number (first s.emuCtx.cpu) l + number (second s.emuCtx.cpu) l

theorem Adds.sums_iff {i : WordAddition} {l : List WordAddition} {s' : InsnEmuCtx U}
    (h : Adds (i :: l) s s') (hi : i.withCarry = false) :
    Sums (i :: l) s s' ↔ Adder.Exact (2 ^ 32) ((i :: l).map (adder s.emuCtx.cpu)) false := by
  have hb : Adder.InBase (2 ^ 32) ((i :: l).map (adder s.emuCtx.cpu)) :=
    List.forall_mem_map.mpr fun j _ => ⟨(j.first _).isLt, (j.second _).isLt⟩
  have hc : carryInto s.emuCtx.cpu.psr (i :: l) = false := by simp [carryInto, carryIn, hi]
  have hx : Adder.first (2 ^ 32) ((i :: l).map (adder s.emuCtx.cpu)) =
      number (first s.emuCtx.cpu) (i :: l) := by
    simp only [Adder.first, List.map_map]
    rfl
  have hy : Adder.second (2 ^ 32) ((i :: l).map (adder s.emuCtx.cpu)) =
      number (second s.emuCtx.cpu) (i :: l) := by
    simp only [Adder.second, List.map_map]
    rfl
  rw [← Adder.sum_iff (by decide) hb, hx, hy, List.length_map, ← hc, ← h.digits, ← h.carry]
  exact ⟨fun h => ⟨h.sum, h.carry⟩, fun h => ⟨h.left, h.right⟩⟩

-- An addition of several words computes the sum and the carry out of it if and only if every ADC
-- sets the carry flag right.
theorem execute_sums_iff {i : WordAddition} {l : List WordAddition}
    (hp : (i :: l).Pairwise Before) (hi : i.withCarry = false) (hl : ∀ j ∈ l, j.withCarry)
    (hf : i.SetsFlags s) : ∃ s', execute (i :: l) s = .ok ((), s') ∧
      (Sums (i :: l) s s' ↔ ExactCarries s.emuCtx.cpu (i :: l) false) := by
  have hf' : ∀ j ∈ i :: l, j.SetsFlags s := by
    refine List.forall_mem_cons.mpr ⟨hf, fun j hj => ?_⟩
    have := hl j hj
    cases j <;> trivial
  have ⟨s', he, ha⟩ := execute_adds hp hf' hl
  refine ⟨s', he, (ha.sums_iff hi).trans <| (exactCarries_iff (l := i :: l) ?_ hl).symm⟩
  simp

-- `adds r0, r0, r2; adcs r1, r1, r3` adds 0x1ffffffff and 0x200000001.
theorem execute_sums_iff_two :
    ∃ s', execute [addRegT1 0 0 2, adcRegT2 1 1 3] (cpuWith [0xffffffff, 1, 1, 2]) =
      .ok ((), s') ∧ Sums [addRegT1 0 0 2, adcRegT2 1 1 3] (cpuWith [0xffffffff, 1, 1, 2]) s' := by
  have ⟨s', he, hs⟩ := execute_sums_iff (s := cpuWith [0xffffffff, 1, 1, 2])
    (i := addRegT1 0 0 2) (l := [adcRegT2 1 1 3]) (by simp [Before, dest, sources]) rfl
    (by simp [withCarry]) rfl
  exact ⟨s', he, hs.mpr ⟨trivial, iff_of_false (by decide) (by decide), trivial⟩⟩

-- With `adds r4, r0, r2; adcs r5, r1, r3`, the carry flag comes from the old content of R5.
theorem not_forall_sums :
    ¬∀ (s : InsnEmuCtx Unit) (i : WordAddition) (l : List WordAddition), l ≠ [] →
      ((i :: l).flatMap sources).Nodup → (∀ r ∈ (i :: l).flatMap sources, r ≤ 12) →
      (i :: l).Pairwise Before → i.withCarry = false → (∀ j ∈ l, j.withCarry) → i.SetsFlags s →
      ∀ s', execute (i :: l) s = .ok ((), s') → Sums (i :: l) s s' := by
  intro h
  have hs := h (cpuWith [0, 0x80000000, 0, 0x80000000]) (addRegT1 4 0 2) [adcRegT2 5 1 3]
    (by simp) (by decide) (by decide) (by simp [Before, dest, sources]) rfl (by simp [withCarry])
    rfl _ rfl
  exact absurd hs.carry (by decide +kernel)

end WordAddition

end Emulation
