import Thumb2Sim.Decoder.Decode

-- The values 11101, 11110 and 11111 of the bits 31 to 27, which announce a second halfword.
def widePrefixes : List (Pattern 32) :=
  [⟨0xf8000000, 0xe8000000⟩, ⟨0xf8000000, 0xf0000000⟩, ⟨0xf8000000, 0xf8000000⟩]

def IsWide (opcode : Word) : Prop :=
  ∃ p ∈ widePrefixes, p.Matches opcode

instance (opcode : Word) : Decidable (IsWide opcode) :=
  inferInstanceAs <| Decidable (∃ p ∈ widePrefixes, _)

-- The words have the same upper halfword.
def SameUpper (w w' : Word) : Prop :=
  w >>> 16 = w' >>> 16

theorem SameUpper.and_eq {w w' mask : Word} (h : SameUpper w w') (hm : mask &&& 0xffff = 0) :
    w &&& mask = w' &&& mask := by
  have low : ∀ i < 16, (0xffff : Word).getLsbD i = true := by decide
  ext i hi
  by_cases hl : i < 16
  case pos =>
    have hb : (mask &&& 0xffff).getLsbD i = false := by
      rw [hm]
      exact BitVec.getLsbD_zero
    rw [BitVec.getLsbD_and, low i hl, Bool.and_true, BitVec.getLsbD_eq_getElem hi] at hb
    simp [hb]
  case neg =>
    have hw : (w >>> 16).getLsbD (i - 16) = (w' >>> 16).getLsbD (i - 16) := by rw [h]
    have he : 16 + (i - 16) = i := by omega
    simp only [BitVec.getLsbD_ushiftRight, he, BitVec.getLsbD_eq_getElem hi] at hw
    simp [hw]

namespace Opcode

-- A narrow branch neither tests nor passes on anything of the lower halfword.
structure Narrow (o : Opcode) : Prop where
  length  : o.length = 2
  pattern : o.pattern.mask &&& 0xffff = 0
  pieces  : ∀ a ∈ o.arguments, ∀ p ∈ a.pieces, p.mask &&& 0xffff = 0
  noWide  : ∀ p ∈ widePrefixes, p.disjoint o.pattern

structure Wide (o : Opcode) : Prop where
  length : o.length = 4
  isWide : ∃ p ∈ widePrefixes, o.pattern.implies p

instance (o : Opcode) : Decidable o.Narrow :=
  decidable_of_iff (_ ∧ _ ∧ _ ∧ _)
    ⟨fun ⟨l, p, i, n⟩ => ⟨l, p, i, n⟩, fun ⟨l, p, i, n⟩ => ⟨l, p, i, n⟩⟩

instance (o : Opcode) : Decidable o.Wide :=
  decidable_of_iff (_ ∧ _) ⟨fun ⟨l, i⟩ => ⟨l, i⟩, fun ⟨l, i⟩ => ⟨l, i⟩⟩

theorem narrow_or_wide : ∀ o ∈ opcodes, o.Narrow ∨ o.Wide := by
  decide +kernel

variable {o : Opcode} {w w' : Word}

theorem Narrow.not_isWide (n : o.Narrow) (h : o.pattern.Matches w) : ¬IsWide w :=
  fun ⟨p, hp, hw⟩ => hw.not_of_disjoint (n.noWide p hp) h

theorem Wide.of_matches (d : o.Wide) (h : o.pattern.Matches w) : IsWide w :=
  have ⟨p, hp, hi⟩ := d.isWide
  ⟨p, hp, h.of_implies hi⟩

theorem Narrow.value_eq {a : Argument} (n : o.Narrow) (h : SameUpper w w') (ha : a ∈ o.arguments) :
    a.value w = a.value w' := by
  have extract_eq : a.extract w = a.extract w' := by
    apply List.foldl_ext
    intro x p hp
    simp only [Piece.extract, h.and_eq (n.pieces a ha p hp)]
  simp only [Argument.value, extract_eq]

theorem Narrow.args_eq (n : o.Narrow) (h : SameUpper w w') : o.args w = o.args w' := by
  apply foldlM_eq_of_forall
  intro a ha args
  rw [n.value_eq h ha]

end Opcode

theorem SameUpper.isWide_iff {w w' : Word} (h : SameUpper w w') : IsWide w ↔ IsWide w' := by
  have hp : ∀ p ∈ widePrefixes, p.Matches w ↔ p.Matches w' := fun p hp =>
    Pattern.matches_congr <| h.and_eq <| by revert p; decide
  exact exists_congr fun p => and_congr_right fun hm => hp p hm

theorem decode_sameUpper {w w' : Word} (h : SameUpper w w') (hw : ¬IsWide w) :
    decode w = decode w' := by
  apply Pattern.firstMatch_congr
  intro o ho
  cases Opcode.narrow_or_wide o ho
  case inl n => exact Pattern.matches_congr <| h.and_eq n.pattern
  case inr d =>
    constructor
    case mp  => exact fun hm => absurd (d.of_matches hm) hw
    case mpr => exact fun hm => absurd (h.isWide_iff.mpr <| d.of_matches hm) hw

-- The length tells the halfwords that belong to an instruction, and the second halfword has no say
-- in a narrow one.
theorem insnLength_local {w : Word} (h : insnLength w ≠ 0) :
    insnLength w = (if IsWide w then 4 else 2) ∧
    (insnLength w = 2 → ∀ w', SameUpper w w' →
      decode w = decode w' ∧ (∀ o, decode w = some o → o.args w = o.args w') ∧
      ∀ σ (handler : Option (DecodingHandler σ)),
        decodeInsn w handler = decodeInsn w' handler) := by
  obtain ⟨o, ho⟩ : ∃ o, decode w = some o := by
    cases hd : decode w
    case none   => simp [insnLength, hd] at h
    case some o => exact ⟨o, rfl⟩
  obtain ⟨hm, hp⟩ := Pattern.firstMatch_some ho
  have hl : insnLength w = o.length := by simp [insnLength, ho]
  cases Opcode.narrow_or_wide o hm
  case inr d =>
    have hw := d.of_matches hp
    rw [hl, d.length, if_pos hw]
    exact ⟨rfl, by simp⟩
  case inl n =>
    have hw := n.not_isWide hp
    rw [hl, n.length, if_neg hw]
    refine ⟨rfl, fun _ w' hu => ?_⟩
    have hd := decode_sameUpper hu hw
    have ha : o.args w = o.args w' := n.args_eq hu
    refine ⟨hd, fun o' ho' => ?_, fun σ handler => ?_⟩
    · cases ho.symm.trans ho'
      exact ha
    · simp only [decodeInsn, ← hd, ho, Opcode.callHandler, ha]

theorem insnLength_local_movs :
    insnLength 0x20010000 = 2 ∧ ∀ w', SameUpper 0x20010000 w' → decode 0x20010000 = decode w' := by
  have ⟨hl, hs⟩ : insnLength 0x20010000 = (if IsWide 0x20010000 then 4 else 2) ∧ _ :=
    insnLength_local (by decide +kernel)
  have hl : insnLength 0x20010000 = 2 := hl.trans <| if_neg <| by decide
  exact ⟨hl, fun w' hu => (hs hl w' hu).left⟩
