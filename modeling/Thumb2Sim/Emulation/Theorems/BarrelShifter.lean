import Thumb2Sim.Disassembly.Operands
import Thumb2Sim.Emulation.Theorems.Evaluation

open Emu

-- The barrel shifter puts out the operand that the disassembly prints for the same fields.
def MatchesPrinted (x : Word) (type imm : Byte) (c : Bool) : Prop :=
  ∃ out shift, barrelShift x type imm = .ok out ∧ printS type imm = Shift.text shift ∧
    out.value = shift.value x c

-- For ASR, a constant is put out. LSR and ROR have no special case for zero.
def ShiftsLikePrinted (x : Word) (type imm : Byte) : Prop :=
  if type = typeLsl then
    True
  else if type = typeAsr then
    x.sshiftRight (if imm = 0 then 32 else imm.toNat) = 0xabcdef
  else
    imm ≠ 0

variable {x : Word} {type imm : Byte} {c : Bool}

theorem matchesPrinted_of_ok {out : BarrelshifterOutput} (h : barrelShift x type imm = .ok out) :
    MatchesPrinted x type imm c ↔ out.value = (printedShift type imm).value x c := by
  constructor
  case mp =>
    intro ⟨out', shift, ho, hs, hv⟩
    cases h.symm.trans ho
    rw [printS_eq] at hs
    rw [Shift.text_injective hs, hv]
  case mpr => exact fun hv => ⟨out, _, h, printS_eq .., hv⟩

theorem not_matchesPrinted_of_error {e : Undefined} (h : barrelShift x type imm = .error e) :
    ¬MatchesPrinted x type imm c := by
  intro ⟨_, _, ho, _⟩
  cases h.symm.trans ho

-- The four types of shifts.

theorem barrelShift_asr : barrelShift x typeAsr imm = .ok ⟨0xabcdef, false⟩ :=
  rfl

theorem printedShift_lsr (h : imm ≠ 0) : printedShift typeLsr imm = .lsr imm.toNat := by
  change Shift.lsr (if imm = 0 then 32 else imm.toNat) = _
  rw [if_neg h]

theorem printedShift_asr (h : imm ≠ 0) : printedShift typeAsr imm = .asr imm.toNat := by
  change Shift.asr (if imm = 0 then 32 else imm.toNat) = _
  rw [if_neg h]

theorem printedShift_ror (h : imm ≠ 0) : printedShift typeRor imm = .ror imm.toNat := by
  change (if imm = 0 then Shift.rrx else .ror imm.toNat) = _
  rw [if_neg h]

theorem type_cases (h : type.toNat < 4) :
    type = typeLsl ∨ type = typeLsr ∨ type = typeAsr ∨ type = typeRor := by
  simp only [← BitVec.toNat_inj]
  change _ = 0 ∨ _ = 1 ∨ _ = 2 ∨ _ = 3
  omega

-- The values that are the printed ones.
theorem matchesPrinted_iff (ht : type.toNat < 4) (hi : imm.toNat < 32) :
    MatchesPrinted x type imm c ↔ ShiftsLikePrinted x type imm := by
  obtain rfl | rfl | rfl | rfl := type_cases ht
  case inl => exact iff_of_true (matchesPrinted_of_ok (barrelShift_lsl hi) |>.mpr rfl) trivial
  case inr.inr.inl =>
    rw [matchesPrinted_of_ok barrelShift_asr, eq_comm]
    rfl
  case inr.inl =>
    constructor
    case mp =>
      intro hm h₀
      exact not_matchesPrinted_of_error (barrelShift_zero <| .inl rfl) <| h₀ ▸ hm
    case mpr =>
      intro h₀
      rw [matchesPrinted_of_ok (barrelShift_lsr h₀ hi), printedShift_lsr h₀]
      rfl
  case inr.inr.inr =>
    constructor
    case mp =>
      intro hm h₀
      exact not_matchesPrinted_of_error (barrelShift_zero <| .inr rfl) <| h₀ ▸ hm
    case mpr =>
      intro h₀
      rw [matchesPrinted_of_ok (barrelShift_ror h₀ hi), printedShift_ror h₀]
      rfl

-- `lsr #3`
theorem matchesPrinted_iff_lsr :
    MatchesPrinted 8 typeLsr 3 false ↔ ShiftsLikePrinted 8 typeLsr 3 :=
  matchesPrinted_iff (by decide) (by decide)

-- `asr #1`
theorem not_matchesPrinted_asr : ¬MatchesPrinted 8 typeAsr 1 false := by
  rw [matchesPrinted_of_ok barrelShift_asr]
  decide
