import Mathlib.Tactic.IntervalCases
import Thumb2Sim.Decoder.Theorems.Aliases
import Thumb2Sim.Decoder.Theorems.Arguments
import Thumb2Sim.Lib.Bits

open Pattern

-- The constant `i:imm3:imm8`.
def imm12 (w : Word) : BitVec 12 :=
  w.extractLsb' 26 1 ++ w.extractLsb' 12 3 ++ w.extractLsb' 0 8

-- The word that a constant stands for in the architecture. Its four highest bits tell how the byte
-- is to be replicated, or its five highest bits by how much it is to be rotated.
def expandedImm (imm : BitVec 12) : Word :=
  let byte := imm.extractLsb' 0 8
  match (imm.extractLsb' 8 4).toNat with
  | 0 => 0#24 ++ byte
  | 1 => 0#8 ++ byte ++ 0#8 ++ byte
  | 2 => byte ++ 0#8 ++ byte ++ 0#8
  | 3 => byte ++ byte ++ byte ++ byte
  | _ => (0#24 ++ 1#1 ++ imm.extractLsb' 0 7).rotateRight (imm.extractLsb' 7 5).toNat

-- The handler gets the expanded constant.
def PassesExpandedImm (o : Opcode) (w : Word) : Prop :=
  ∃ a, o.args w = .ok a ∧ a .imm = expandedImm (imm12 w)

-- The encodings with a modified immediate that do not have an extension.
def Variant.isUnexpanded : Variant → Bool
  | .teqImmT1 | .ornImmT1 | .subSPimmT2 => true
  | _                                   => false

def immPieces : List Piece :=
  [⟨0x4000000, 15⟩, ⟨0x7000, 4⟩, ⟨0xff, 0⟩]

def Variant.immArgument (v : Variant) : Argument :=
  if v.isUnexpanded then
    { type := .uint16, var := .imm, extension := .plain, pieces := immPieces }
  else
    { type := .int32, var := .imm, extension := .thumbExpandImm, pieces := immPieces }

theorem immArgument_mem : ∀ o ∈ opcodes,
    ¬o.pattern.disjoint OperandGroup.modifiedImmediate.pattern →
    (o.arguments.map Argument.var).Nodup ∧ o.variant.immArgument ∈ o.arguments := by
  decide +kernel

section

variable {w : Word} {imm : BitVec 12} {x : Word} {rotate : Byte}

theorem ror32_eq (h₀ : 0 < rotate.toNat) (h : rotate.toNat < 32) :
    ror32 x rotate = .ok (x.rotateRight rotate.toNat) := by
  have hn : (32 - rotate.toNat : Int) = (32 - rotate.toNat : Nat) := by omega
  have hs : 32 - rotate.toNat < 32 := by omega
  simp only [ror32, hn, CInt.shl_of_lt h, CInt.shl_of_lt hs, CInt.shr_of_lt h]
  refine congrArg Except.ok ?_
  rw [Bits.and_lowMask_shiftLeft h, Bits.and_highMask_shiftRight h₀ h.le,
    Bits.shiftLeft_or_shiftRight h]

-- What the decoder takes out of a constant.

theorem imm_toNat_mod (imm : BitVec 12) : imm.toNat % 2 ^ 16 = imm.toNat := by
  omega

theorem and_0xc00_iff : imm.setWidth 16 &&& 0xc00 = 0 ↔ (imm.extractLsb' 8 4).toNat < 4 := by
  have h : imm.toNat &&& 3 <<< 10 = 0 <<< 10 ↔ imm.toNat >>> 10 &&& 2 ^ 2 - 1 = 0 :=
    Bits.and_shiftLeft_iff
  rw [← BitVec.toNat_inj, BitVec.toNat_and, BitVec.toNat_setWidth, imm_toNat_mod]
  refine h.trans ?_
  rw [Nat.and_two_pow_sub_one_eq_mod, BitVec.extractLsb'_toNat, Nat.shiftRight_eq_div_pow,
    Nat.shiftRight_eq_div_pow]
  omega

theorem and_0x300_iff (k : Fin 4) : imm.setWidth 16 &&& 0x300 = BitVec.ofNat 16 (k.val <<< 8) ↔
    (imm.extractLsb' 8 4).toNat % 4 = k := by
  have hk : k.val <<< 8 % 2 ^ 16 = k.val <<< 8 := by revert k; decide
  have h : imm.toNat &&& 3 <<< 8 = k.val <<< 8 ↔ imm.toNat >>> 8 &&& 2 ^ 2 - 1 = k.val :=
    Bits.and_shiftLeft_iff
  rw [← BitVec.toNat_inj, BitVec.toNat_and, BitVec.toNat_setWidth, imm_toNat_mod,
    BitVec.toNat_ofNat, hk]
  refine h.trans ?_
  rw [Nat.and_two_pow_sub_one_eq_mod, BitVec.extractLsb'_toNat, Nat.shiftRight_eq_div_pow]
  omega

theorem byte_eq :
    (imm.setWidth 16).setWidth 32 &&& 0xff = (imm.extractLsb' 0 8).setWidth 32 := by
  have h : imm.toNat &&& 2 ^ 8 - 1 = imm.toNat % 2 ^ 8 := Nat.and_two_pow_sub_one_eq_mod ..
  apply BitVec.eq_of_toNat_eq
  rw [BitVec.toNat_and, BitVec.toNat_setWidth, BitVec.toNat_setWidth, BitVec.toNat_setWidth,
    BitVec.extractLsb'_toNat, imm_toNat_mod, Nat.shiftRight_zero,
    Nat.mod_eq_of_lt (by omega : imm.toNat < 2 ^ 32)]
  refine h.trans ?_
  omega

theorem unrotated_eq :
    0x80 ||| (imm.setWidth 16).setWidth 32 &&& 0x7f = 0#24 ++ 1#1 ++ imm.extractLsb' 0 7 := by
  apply BitVec.eq_of_getLsbD_eq
  intro i hi
  simp only [BitVec.getLsbD_or, BitVec.getLsbD_and, BitVec.getLsbD_append, BitVec.getLsbD_setWidth,
    BitVec.getLsbD_extractLsb']
  interval_cases i <;> simp [- BitVec.getLsbD_eq_getElem]

theorem rotation_eq :
    (((imm.setWidth 16 &&& 0xf80) >>> 7).setWidth 8).toNat = (imm.extractLsb' 7 5).toNat := by
  have h : imm.toNat >>> 7 &&& 2 ^ 5 - 1 = imm.toNat >>> 7 % 2 ^ 5 :=
    Nat.and_two_pow_sub_one_eq_mod ..
  rw [BitVec.toNat_setWidth, BitVec.toNat_ushiftRight, BitVec.toNat_and, BitVec.toNat_setWidth,
    BitVec.extractLsb'_toNat, imm_toNat_mod, Nat.shiftRight_and_distrib]
  refine congrArg (· % 2 ^ 8) h |>.trans ?_
  omega

-- The replicated bytes, in the words of the source and as they look.
theorem replicated_eq (byte : Byte) :
    let x := byte.setWidth 32
    x = 0#24 ++ byte ∧ x <<< 16 ||| x = 0#8 ++ byte ++ 0#8 ++ byte ∧
      x <<< 24 ||| x <<< 8 = byte ++ 0#8 ++ byte ++ 0#8 ∧
      x <<< 24 ||| x <<< 16 ||| x <<< 8 ||| x = byte ++ byte ++ byte ++ byte := by
  revert byte
  decide

-- The expansion of the decoder is the one of the architecture.
theorem thumbExpandImm_eq (imm : BitVec 12) :
    thumbExpandImm (imm.setWidth 16) = .ok (expandedImm imm) := by
  have h₀ : imm.setWidth 16 &&& 0x300 = 0 ↔ (imm.extractLsb' 8 4).toNat % 4 = 0 := and_0x300_iff 0
  have h₁ : imm.setWidth 16 &&& 0x300 = 0x100 ↔ (imm.extractLsb' 8 4).toNat % 4 = 1 :=
    and_0x300_iff 1
  have h₂ : imm.setWidth 16 &&& 0x300 = 0x200 ↔ (imm.extractLsb' 8 4).toNat % 4 = 2 :=
    and_0x300_iff 2
  have ⟨r₀, r₁, r₂, r₃⟩ := replicated_eq <| imm.extractLsb' 0 8
  unfold thumbExpandImm expandedImm
  simp only [byte_eq, unrotated_eq, and_0xc00_iff]
  by_cases h : (imm.extractLsb' 8 4).toNat < 4
  case neg =>
    have hl := BitVec.isLt (imm.extractLsb' 7 5)
    have hg : (imm.extractLsb' 7 5).toNat = imm.toNat / 2 ^ 7 := by
      rw [BitVec.extractLsb'_toNat, Nat.shiftRight_eq_div_pow]
      omega
    have hs : (imm.extractLsb' 8 4).toNat = imm.toNat / 2 ^ 8 := by
      rw [BitVec.extractLsb'_toNat, Nat.shiftRight_eq_div_pow]
      omega
    rw [if_neg h, ror32_eq (by rw [rotation_eq]; omega) (by rw [rotation_eq]; omega), rotation_eq]
    split <;> first | omega | rfl
  case pos =>
    simp only [if_pos h, h₀, h₁, h₂]
    generalize (imm.extractLsb' 8 4).toNat = k at h ⊢
    interval_cases k
    · exact congrArg Except.ok r₀
    · exact congrArg Except.ok r₁
    · exact congrArg Except.ok r₂
    · exact congrArg Except.ok r₃

theorem top_toNat (imm : BitVec 12) : (imm.extractLsb' 8 4).toNat = imm.toNat / 256 := by
  rw [BitVec.extractLsb'_toNat, Nat.shiftRight_eq_div_pow]
  omega

theorem low_toNat (imm : BitVec 12) : (imm.extractLsb' 0 8).toNat = imm.toNat % 256 :=
  BitVec.extractLsb'_toNat ..

theorem expandedImm_of_lt (h : imm.toNat < 256) : expandedImm imm = imm.setWidth 32 := by
  have ht : (imm.extractLsb' 8 4).toNat = 0 := by rw [top_toNat]; omega
  apply BitVec.eq_of_toNat_eq
  simp only [expandedImm, ht, Bits.toNat_append, low_toNat, BitVec.toNat_setWidth,
    BitVec.toNat_ofNat]
  omega

theorem bytes_toNat (b₃ b₂ b₁ b₀ : Byte) : (b₃ ++ b₂ ++ b₁ ++ b₀).toNat =
    16777216 * b₃.toNat + 65536 * b₂.toNat + 256 * b₁.toNat + b₀.toNat := by
  rw [Bits.toNat_append, Bits.toNat_append, Bits.toNat_append]
  omega

-- A byte is rotated by at least eight places.
theorem rotateRight_toNat {n : Nat} (hx : x.toNat < 256) (h₀ : 8 ≤ n) (h : n < 32) :
    (x.rotateRight n).toNat = x.toNat * 2 ^ (32 - n) := by
  have hp : x.toNat < 2 ^ n := hx.trans_le <| Nat.pow_le_pow_right Nat.two_pos h₀
  have hm : x.toNat * 2 ^ (32 - n) < 2 ^ 32 := by
    calc x.toNat * 2 ^ (32 - n)
      _ < 2 ^ n * 2 ^ (32 - n) := Nat.mul_lt_mul_of_pos_right hp <| Nat.two_pow_pos _
      _ = 2 ^ 32               := by rw [← Nat.pow_add, Nat.add_sub_cancel' h.le]
  rw [← Bits.shiftLeft_or_shiftRight h, BitVec.toNat_or, BitVec.toNat_ushiftRight,
    Nat.shiftRight_eq_zero _ _ hp, Nat.or_zero, BitVec.toNat_shiftLeft, Nat.shiftLeft_eq,
    Nat.mod_eq_of_lt hm]

-- No other constant stands for itself.
theorem expandedImm_ne (h : 256 ≤ imm.toNat) : expandedImm imm ≠ imm.setWidth 32 := by
  intro he
  have he := congrArg BitVec.toNat he
  have ht := top_toNat imm
  have hl := low_toNat imm
  have hw : imm.toNat % 2 ^ 32 = imm.toNat := by omega
  simp only [expandedImm, BitVec.toNat_setWidth, hw] at he
  split at he
  case h_1 => omega
  case h_2 => rw [bytes_toNat, hl, BitVec.toNat_ofNat] at he; omega
  case h_3 => rw [bytes_toNat, hl, BitVec.toNat_ofNat] at he; omega
  case h_4 => rw [bytes_toNat, hl] at he; omega
  case h_5 h₀ h₁ h₂ h₃ =>
    have h₄ : 4 ≤ (imm.extractLsb' 8 4).toNat := by
      by_contra hk
      generalize (imm.extractLsb' 8 4).toNat = k at *
      interval_cases k <;> contradiction
    have hb : (0#24 ++ 1#1 ++ imm.extractLsb' 0 7).toNat = 128 + imm.toNat % 128 := by
      rw [Bits.toNat_append, Bits.toNat_append, BitVec.extractLsb'_toNat]
      rfl
    have hr : (imm.extractLsb' 7 5).toNat = imm.toNat / 128 := by
      rw [BitVec.extractLsb'_toNat, Nat.shiftRight_eq_div_pow]
      omega
    have hx : (0#24 ++ 1#1 ++ imm.extractLsb' 0 7).toNat < 256 := by omega
    rw [rotateRight_toNat hx (by omega) (by omega), hb, hr] at he
    generalize hx : imm.toNat / 128 = n at *
    have hn : n < 32 := by omega
    have h₈ : 8 ≤ n := by omega
    interval_cases n <;> omega

theorem extract_immPieces {a : Argument} (h : a.pieces = immPieces) :
    a.extract w = (imm12 w).setWidth 32 := by
  rw [Argument.extract, h]
  change 0 ||| (w &&& 0x4000000) >>> 15 ||| (w &&& 0x7000) >>> 4 ||| (w &&& 0xff) >>> 0 = _
  apply BitVec.eq_of_getLsbD_eq
  intro i hi
  simp only [imm12, BitVec.getLsbD_or, BitVec.getLsbD_ushiftRight, BitVec.getLsbD_and,
    BitVec.getLsbD_append, BitVec.getLsbD_setWidth, BitVec.getLsbD_extractLsb']
  interval_cases i <;> simp [- BitVec.getLsbD_eq_getElem]

-- What the handler gets for the constant.
theorem value_immArgument (v : Variant) : v.immArgument.value w =
    .ok (if v.isUnexpanded then (imm12 w).setWidth 32 else expandedImm (imm12 w)) := by
  have hw : ((imm12 w).setWidth 32).setWidth 16 = (imm12 w).setWidth 16 :=
    BitVec.setWidth_setWidth_of_le _ (by decide)
  have hc : CType.uint16.convert ((imm12 w).setWidth 32) = (imm12 w).setWidth 32 := by
    apply BitVec.eq_of_toNat_eq
    simp [CType.convert]
  have hp : v.immArgument.pieces = immPieces := by
    unfold Variant.immArgument
    split <;> rfl
  rw [Argument.value, extract_immPieces hp]
  unfold Variant.immArgument
  cases v.isUnexpanded
  case true  => exact congrArg Except.ok hc
  case false =>
    change applyExtension .thumbExpandImm _ >>= _ = _
    rw [applyExtension, hw, thumbExpandImm_eq]
    rfl

variable {o : Opcode}

theorem args_imm (hw : OperandGroup.modifiedImmediate.pattern.Matches w) (hd : decode w = some o) :
    ∃ a, o.args w = .ok a ∧ a .imm =
      if o.variant.isUnexpanded then (imm12 w).setWidth 32 else expandedImm (imm12 w) := by
  have ⟨ho, hm⟩ := firstMatch_some hd
  have ⟨hn, hi⟩ := immArgument_mem o ho fun h => hm.not_of_disjoint h hw
  have ⟨a, ha, hx⟩ := Opcode.args_of_nodup (w := w) hn
  have hv : o.variant.immArgument.var = .imm := by
    unfold Variant.immArgument
    split <;> rfl
  have hi := hx _ hi
  rw [value_immArgument, hv] at hi
  exact ⟨a, ha, (Except.ok.inj hi).symm⟩

theorem passesExpandedImm_iff_eq (hw : OperandGroup.modifiedImmediate.pattern.Matches w)
    (hd : decode w = some o) : PassesExpandedImm o w ↔
      (o.variant.isUnexpanded → expandedImm (imm12 w) = (imm12 w).setWidth 32) := by
  have ⟨a, ha, hi⟩ := args_imm hw hd
  have he : PassesExpandedImm o w ↔ a .imm = expandedImm (imm12 w) := by
    constructor
    case mp =>
      intro ⟨a', ha', he⟩
      cases ha.symm.trans ha'
      exact he
    case mpr => exact fun he => ⟨a, ha, he⟩
  rw [he, hi]
  cases o.variant.isUnexpanded
  case false => simp
  case true  => simpa using eq_comm

-- The argument is right if it is expanded or needs no expansion.
theorem passesExpandedImm_iff (hw : OperandGroup.modifiedImmediate.pattern.Matches w)
    (hd : decode w = some o) :
    PassesExpandedImm o w ↔ ¬o.variant.isUnexpanded ∨ (imm12 w).toNat < 256 := by
  have hl : expandedImm (imm12 w) = (imm12 w).setWidth 32 ↔ (imm12 w).toNat < 256 := by
    constructor
    case mp =>
      intro he
      by_contra hl
      exact expandedImm_ne (Nat.le_of_not_lt hl) he
    case mpr => exact expandedImm_of_lt
  rw [passesExpandedImm_iff_eq hw hd, hl, imp_iff_not_or]

end

-- `teq r0, #0x00ff00ff`

theorem passesExpandedImm_iff_teq : ∃ o, decode 0xf0901fff = some o ∧
    (PassesExpandedImm o 0xf0901fff ↔
      ¬o.variant.isUnexpanded ∨ (imm12 0xf0901fff).toNat < 256) := by
  have hd : (decode 0xf0901fff).map Opcode.variant = some .teqImmT1 :=
    decode_alias (f := .teq) (g := .modifiedImmediate) (by decide) nofun
  have ⟨o, hd, _⟩ := Option.map_eq_some_iff.mp hd
  exact ⟨o, hd, passesExpandedImm_iff (by decide) hd⟩

theorem not_forall_passesExpandedImm :
    ¬∀ w o, OperandGroup.modifiedImmediate.pattern.Matches w → decode w = some o →
      PassesExpandedImm o w := by
  intro h
  have hd : (decode 0xf0901fff).map Opcode.variant = some .teqImmT1 :=
    decode_alias (f := .teq) (g := .modifiedImmediate) (by decide) nofun
  have ⟨o, hd, hv⟩ := Option.map_eq_some_iff.mp hd
  have hw : OperandGroup.modifiedImmediate.pattern.Matches 0xf0901fff := by decide
  have he := (passesExpandedImm_iff_eq hw hd).mp (h _ o hw hd) <| by rw [hv]; rfl
  revert he
  decide
