import Mathlib.Tactic.IntervalCases
import Thumb2Sim.Decoder.Decode
import Thumb2Sim.Lib.Bits

-- The branches that have their offset in the instruction. Of the narrow ones, the next halfword is
-- in the lower half of the opcode.
inductive BranchInsn
  | bT1 (cond : BitVec 4) (next : BitVec 16)
  | bT2 (next : BitVec 16)
  | bT3 (cond : BitVec 4)
  | bT4
  | blT1
  | cbnzT1 (op : Bool) (Rn : Fin 8) (next : BitVec 16)

-- The number of halfwords to branch over is spread over the fields `S:J2:J1:imm6:imm11`.
def bT3Word (cond : BitVec 4) (imm : BitVec 20) : Word :=
  0b11110#5 ++ imm.extractLsb' 19 1 ++ cond ++ imm.extractLsb' 11 6 ++ 0b10#2 ++
    imm.extractLsb' 17 1 ++ 0#1 ++ imm.extractLsb' 18 1 ++ imm.extractLsb' 0 11

-- It is `S:I1:I2:imm10:imm11` here. The fields J1 and J2 are `NOT(I1 XOR S)` and `NOT(I2 XOR S)`.
def bT4Word (link : Bool) (imm : BitVec 24) : Word :=
  0b11110#5 ++ imm.extractLsb' 23 1 ++ imm.extractLsb' 11 10 ++ 1#1 ++ BitVec.ofBool link ++
    ~~~(imm.extractLsb' 22 1 ^^^ imm.extractLsb' 23 1) ++ 1#1 ++
    ~~~(imm.extractLsb' 21 1 ^^^ imm.extractLsb' 23 1) ++ imm.extractLsb' 0 11

-- The bits of the offset in front of and behind those of the register.
def cbnzT1Word (op : Bool) (Rn : Fin 8) (next : BitVec 16) (imm : BitVec 6) : Word :=
  0b1011#4 ++ BitVec.ofBool op ++ 0#1 ++ imm.extractLsb' 5 1 ++ 1#1 ++ imm.extractLsb' 0 5 ++
    BitVec.ofNat 3 Rn ++ next

namespace BranchInsn

def variant : BranchInsn → Variant
  | bT1 ..    => .bT1
  | bT2 ..    => .bT2
  | bT3 ..    => .bT3
  | bT4       => .bT4
  | blT1      => .blT1
  | cbnzT1 .. => .cbnzT1

-- The width of the number of halfwords.
def immBits : BranchInsn → Nat
  | bT1 ..       => 8
  | bT2 ..       => 11
  | bT3 ..       => 20
  | bT4 | blT1   => 24
  | cbnzT1 ..    => 6

-- The offsets in bytes that the fields can express. With `cbnz_T1`, one can branch forward only.
def Reaches (offset : Int) (i : BranchInsn) : Prop :=
  2 ∣ offset ∧ match i with
    | cbnzT1 .. => 0 ≤ offset ∧ offset < 2 * 2 ^ i.immBits
    | _         => -2 ^ i.immBits ≤ offset ∧ offset < 2 ^ i.immBits

-- The opcode for an offset.
def word (offset : Int) : BranchInsn → Word
  | bT1 cond next     => 0b1101#4 ++ cond ++ BitVec.ofInt 8 (offset / 2) ++ next
  | bT2 next          => 0b11100#5 ++ BitVec.ofInt 11 (offset / 2) ++ next
  | bT3 cond          => bT3Word cond <| BitVec.ofInt 20 (offset / 2)
  | bT4               => bT4Word false <| BitVec.ofInt 24 (offset / 2)
  | blT1              => bT4Word true <| BitVec.ofInt 24 (offset / 2)
  | cbnzT1 op Rn next => cbnzT1Word op Rn next <| BitVec.ofInt 6 (offset / 2)

end BranchInsn

section Fields

variable (cond : BitVec 4) (next : BitVec 16) (link op : Bool) (Rn : Fin 8)

-- What the decoder takes out of the fields.

theorem bT1Word_fields (imm : BitVec 8) :
    let w : Word := 0b1101#4 ++ cond ++ imm ++ next
    (w &&& 0xff0000) >>> 16 = imm.setWidth 32 ∧ (w &&& 0xf000000) >>> 24 = cond.setWidth 32 ∧
      w &&& 0xf0000000 = 0xd0000000 := by
  refine ⟨?_, ?_, ?_⟩
  all_goals
    apply BitVec.eq_of_getLsbD_eq
    intro i hi
    simp only [BitVec.getLsbD_ushiftRight, BitVec.getLsbD_and, BitVec.getLsbD_append,
      BitVec.getLsbD_setWidth]
    interval_cases i <;> simp only [BitVec.reduceGetLsb, Nat.reduceLT, Nat.reduceSub, Nat.reduceAdd,
      Nat.reduceLeDiff, decide_true, Bool.and_true, Bool.and_false, Bool.true_and, ↓reduceIte,
      BitVec.getLsbD_of_ge]

theorem bT2Word_fields (imm : BitVec 11) :
    let w : Word := 0b11100#5 ++ imm ++ next
    (w &&& 0x7ff0000) >>> 16 = imm.setWidth 32 ∧ w &&& 0xf8000000 = 0xe0000000 := by
  refine ⟨?_, ?_⟩
  all_goals
    apply BitVec.eq_of_getLsbD_eq
    intro i hi
    simp only [BitVec.getLsbD_ushiftRight, BitVec.getLsbD_and, BitVec.getLsbD_append,
      BitVec.getLsbD_setWidth]
    interval_cases i <;> simp only [BitVec.reduceGetLsb, Nat.reduceLT, Nat.reduceSub, Nat.reduceAdd,
      Nat.reduceLeDiff, decide_true, Bool.and_true, Bool.and_false, Bool.true_and, ↓reduceIte,
      BitVec.getLsbD_of_ge]

theorem bT3Word_fields (imm : BitVec 20) :
    let w := bT3Word cond imm
    0 ||| (w &&& 0x4000000) >>> 7 ||| (w &&& 0x3f0000) >>> 5 ||| (w &&& 0x7ff) >>> 0 |||
        (w &&& 0x2000) <<< 4 ||| (w &&& 0x800) <<< 7 = imm.setWidth 32 ∧
      (w &&& 0x3c00000) >>> 22 = cond.setWidth 32 ∧ w &&& 0xf800d000 = 0xf0008000 := by
  refine ⟨?_, ?_, ?_⟩
  all_goals
    apply BitVec.eq_of_getLsbD_eq
    intro i hi
    simp only [bT3Word, BitVec.getLsbD_or, BitVec.getLsbD_ushiftRight, BitVec.getLsbD_shiftLeft,
      BitVec.getLsbD_and, BitVec.getLsbD_append, BitVec.getLsbD_setWidth,
      BitVec.getLsbD_extractLsb']
    interval_cases i <;> simp only [BitVec.reduceGetLsb, Nat.reduceLT, Nat.reduceSub, Nat.reduceAdd,
      Nat.reduceLeDiff, decide_true, decide_false, Bool.and_true, Bool.and_false, Bool.true_and,
      Bool.or_false, Bool.false_or, ↓reduceIte, BitVec.natCast_eq_ofNat, Bool.not_false,
      BitVec.getLsbD_of_ge]

-- The value from which the two bits below the sign are restored by the extension.
def bT4Raw (imm : BitVec 24) : Word :=
  (imm.extractLsb' 23 1 ++ ~~~(imm.extractLsb' 22 1 ^^^ imm.extractLsb' 23 1) ++
    ~~~(imm.extractLsb' 21 1 ^^^ imm.extractLsb' 23 1) ++ imm.extractLsb' 0 21).setWidth 32

theorem bT4Word_offset (imm : BitVec 24) :
    let w := bT4Word link imm
    0 ||| (w &&& 0x3ff0000) >>> 5 ||| (w &&& 0x4000000) >>> 3 ||| (w &&& 0x7ff) >>> 0 |||
      (w &&& 0x2000) <<< 9 ||| (w &&& 0x800) <<< 10 = bT4Raw imm := by
  apply BitVec.eq_of_getLsbD_eq
  intro i hi
  simp only [bT4Word, bT4Raw, BitVec.getLsbD_or, BitVec.getLsbD_ushiftRight,
    BitVec.getLsbD_shiftLeft, BitVec.getLsbD_and, BitVec.getLsbD_append, BitVec.getLsbD_setWidth,
    BitVec.getLsbD_extractLsb']
  interval_cases i <;> simp only [BitVec.reduceGetLsb, Nat.reduceLT, Nat.reduceSub, Nat.reduceAdd,
    Nat.reduceLeDiff, decide_true, decide_false, Bool.and_true, Bool.and_false, Bool.true_and,
    Bool.or_false, Bool.false_or, ↓reduceIte, BitVec.natCast_eq_ofNat, Bool.not_false,
    BitVec.getLsbD_of_ge]

theorem bT4Word_form (imm : BitVec 24) :
    bT4Word link imm &&& 0xf800d000 = if link then 0xf000d000 else 0xf0009000 := by
  apply BitVec.eq_of_getLsbD_eq
  intro i hi
  simp only [bT4Word, BitVec.getLsbD_and, BitVec.getLsbD_append]
  cases link <;> interval_cases i <;> simp only [BitVec.reduceGetLsb, Nat.reduceLT, Nat.reduceSub,
    decide_true, Bool.and_true, Bool.and_false, ↓reduceIte, BitVec.getLsbD_ofBool,
    Bool.false_eq_true]

theorem bT4Raw_eor (imm : BitVec 24) :
    let x := bT4Raw imm ^^^ ((1 : Word) <<< 21 ^^^ (bT4Raw imm &&& (1 : Word) <<< 23) >>> 2)
    x ^^^ ((1 : Word) <<< 22 ^^^ (x &&& (1 : Word) <<< 23) >>> 1) = imm.setWidth 32 := by
  apply BitVec.eq_of_getLsbD_eq
  intro i hi
  simp only [bT4Raw, BitVec.getLsbD_xor, BitVec.getLsbD_ushiftRight, BitVec.getLsbD_and,
    BitVec.getLsbD_append, BitVec.getLsbD_setWidth, BitVec.getLsbD_extractLsb']
  interval_cases i <;> simp only [BitVec.reduceGetLsb, Nat.reduceLT, Nat.reduceSub, Nat.reduceAdd,
    Nat.reduceLeDiff, decide_true, Bool.and_true, Bool.and_false, Bool.true_and, ↓reduceIte,
    BitVec.getLsbD_not, BitVec.getLsbD_xor, BitVec.getLsbD_extractLsb', BitVec.getLsbD_of_ge,
    Bool.bne_false, Bool.bne_self_right, Bool.not_bne, Bool.bne_not, Bool.true_bne, Bool.not_not,
    BitVec.reduceHShiftLeft]

theorem cbnzT1Word_fields (imm : BitVec 6) :
    let w := cbnzT1Word op Rn next imm
    0 ||| (w &&& 0x2000000) >>> 20 ||| (w &&& 0xf80000) >>> 19 = imm.setWidth 32 ∧
      (w &&& 0x70000) >>> 16 = BitVec.ofNat 32 Rn ∧
      (w &&& 0x8000000) >>> 27 = (BitVec.ofBool op).setWidth 32 ∧
      w &&& 0xf5000000 = 0xb1000000 := by
  have hn : BitVec.ofNat 32 Rn = (BitVec.ofNat 3 Rn).setWidth 32 := by
    revert Rn
    decide
  rw [hn]
  refine ⟨?_, ?_, ?_, ?_⟩
  all_goals
    apply BitVec.eq_of_getLsbD_eq
    intro i hi
    simp only [cbnzT1Word, BitVec.getLsbD_or, BitVec.getLsbD_ushiftRight, BitVec.getLsbD_and,
      BitVec.getLsbD_append, BitVec.getLsbD_setWidth, BitVec.getLsbD_extractLsb']
    interval_cases i <;> simp only [BitVec.reduceGetLsb, Nat.reduceLT, Nat.reduceSub, Nat.reduceAdd,
      Nat.reduceLeDiff, decide_true, Bool.and_true, Bool.and_false, Bool.true_and, Bool.or_false,
      Bool.false_or, ↓reduceIte, BitVec.natCast_eq_ofNat, BitVec.getLsbD_of_ge]

end Fields

-- The extensions of signed numbers.
section SignExtend

variable {w : Nat} {imm : BitVec w} {bits : Byte}

theorem thumbSignExtend_setWidth (hb : bits.toNat = w) (h₀ : 1 ≤ w) (hw : w ≤ 31) :
    thumbSignExtend (imm.setWidth 32) bits = .ok (imm.signExtend 32) := by
  have hn : (w - 1 : Int) = (w - 1 : Nat) := by omega
  have hm : imm.setWidth 32 &&& (1 : Word) <<< (w - 1) ≠ 0 ↔ imm.msb := by
    have hz : BitVec.twoPow 32 (w - 1) ≠ 0 := by
      intro hz
      have hb := congrArg (·.getLsbD (w - 1)) hz
      simp only [BitVec.getLsbD_twoPow] at hb
      simp at hb
      omega
    have hl : w - 1 < 32 := by omega
    have ht : (1 : Word) <<< (w - 1) = BitVec.twoPow 32 (w - 1) := (BitVec.twoPow_eq 32 _).symm
    rw [ht, BitVec.and_twoPow, BitVec.getLsbD_setWidth, BitVec.msb_eq_getLsbD_last]
    simp only [hl, decide_true, Bool.true_and]
    split_ifs with h
    case pos => simpa [h] using hz
    case neg => simp [h]
  rw [thumbSignExtend, hb, hn, CInt.shl_of_lt (by omega)]
  change (if imm.setWidth 32 &&& (1 : Word) <<< (w - 1) ≠ 0 then _ else _) = _
  rw [CInt.shl_of_lt (by omega)]
  by_cases h : imm.msb
  case pos =>
    rw [if_pos (hm.mpr h)]
    refine congrArg Except.ok <| BitVec.eq_of_getLsbD_eq fun i hi => ?_
    rw [BitVec.getLsbD_or, BitVec.getLsbD_not, Bits.getLsbD_lowMask (Nat.lt_succ_of_le hw),
      BitVec.getLsbD_setWidth, BitVec.getLsbD_signExtend, h]
    by_cases hi' : i < w
    case pos => simp [hi, hi']
    case neg => simp [hi, hi', BitVec.getLsbD_of_ge imm i <| Nat.le_of_not_lt hi']
  case neg =>
    rw [if_neg (hm.not.mpr h), BitVec.signExtend_eq_setWidth_of_msb_false (by simpa using h)]
    rfl

theorem thumbSignExtend20_setWidth (imm : BitVec 20) :
    thumbSignExtend20 (imm.setWidth 32) = .ok (imm.signExtend 32) :=
  thumbSignExtend_setWidth rfl (by decide) (by decide)

theorem thumbSignExtend24EOR_bT4Raw (imm : BitVec 24) :
    thumbSignExtend24EOR (bT4Raw imm) = .ok (imm.signExtend 32) := by
  rw [thumbSignExtend24EOR, bT4Raw_eor]
  exact thumbSignExtend_setWidth rfl (by decide) (by decide)

end SignExtend
