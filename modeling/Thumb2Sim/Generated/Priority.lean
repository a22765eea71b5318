import Mathlib.Data.Set.Lattice
import Mathlib.Order.CompletePartialOrder
import Thumb2Sim.Generated.Opcodes
import Thumb2Sim.Lib.Overlap

namespace Opcode

-- The patterns of the branches have no value bits outside of their masks.
theorem pattern_matches_cmp : ∀ o ∈ opcodes, o.pattern.Matches o.pattern.cmp := by
  decide +kernel

theorem allReached_opcodes : Pattern.allReached [] (opcodes.map pattern) := by
  simp only [opcodes, List.map_append, Pattern.allReached_append, List.append_nil]
  refine ⟨⟨⟨?_, ?_⟩, ?_⟩, ?_⟩ <;> decide +kernel

theorem specificFirst_opcodes : Pattern.SpecificFirst pattern opcodes := by
  have hp : ∀ p ∈ opcodes.map pattern, p.Matches p.cmp :=
    List.forall_mem_map.mpr pattern_matches_cmp
  exact List.pairwise_map.mp <| Pattern.SpecificFirst.of_allReached hp allReached_opcodes .nil

-- The constructors of `Variant` are in the order of the branches.
theorem isChain_variant : (opcodes.map fun o => o.variant.ctorIdx).IsChain (· < ·) := by
  decide +kernel

theorem nodup_opcodes : opcodes.Nodup := by
  have h := List.pairwise_map.mp isChain_variant.pairwise
  exact h.imp fun hlt he => absurd (he ▸ hlt) <| Nat.lt_irrefl _

end Opcode

-- A branch is taken if the condition holds in no branch before it.
theorem decode_eq_some_iff {i : Nat} {b : Opcode} {w : Word} (hb : opcodes[i]? = some b) :
    decode w = some b ↔
    b.pattern.Matches w ∧ ∀ j c, j < i → opcodes[j]? = some c → ¬c.pattern.Matches w := by
  obtain ⟨hi, he⟩ := List.getElem?_eq_some_iff.mp hb
  rw [decode, Pattern.firstMatch, List.find?_eq_some_iff_getElem, decide_eq_true_eq]
  apply and_congr_right
  intro _
  constructor
  case mp =>
    rintro ⟨k, hk, hkb, hn⟩ j c hj hc
    have hki : k = i := Opcode.nodup_opcodes.getElem_inj_iff.mp <| hkb.trans he.symm
    obtain ⟨_, hce⟩ := List.getElem?_eq_some_iff.mp hc
    simpa [hce] using hn j (hki ▸ hj)
  case mpr =>
    intro h
    refine ⟨i, hi, he, fun j hj => ?_⟩
    simpa using h j _ hj <| List.getElem?_eq_getElem (hj.trans hi)

namespace InsnOpcode

variable {E F o : InsnOpcode} {i j : Nat} {b e f : Opcode} {w : Word}

-- The words with the fixed bits of an encoding.
def words (o : InsnOpcode) : Set Word :=
  {w | o.Matches w}

theorem words_subset_iff (hE : E ∈ insnSet instructions) (hF : F ∈ insnSet instructions)
    (he : E.branch = some e) (hf : F.branch = some f) (hm : f ∈ opcodes) :
    F.words ⊆ E.words ↔ f.pattern.implies e.pattern := by
  rw [Pattern.implies_iff_forall <| Opcode.pattern_matches_cmp f hm]
  simp only [pattern_matches_iff hE he, pattern_matches_iff hF hf]
  rfl

theorem words_ssubset_iff (hE : E ∈ insnSet instructions) (hF : F ∈ insnSet instructions)
    (he : E.branch = some e) (hf : F.branch = some f) (hme : e ∈ opcodes) (hmf : f ∈ opcodes) :
    F.words ⊂ E.words ↔ f.pattern.implies e.pattern ∧ ¬e.pattern.implies f.pattern := by
  rw [ssubset_iff_subset_not_subset, words_subset_iff hE hF he hf hmf,
    words_subset_iff hF hE hf he hme]

-- Of two encodings with nested fixed bits the more special one comes first, and its words never
-- decode to the other one.
theorem specific_first (hE : (insnSet instructions)[i]? = some E)
    (hF : (insnSet instructions)[j]? = some F) (h : F.words ⊂ E.words) :
    j < i ∧ ∀ w ∈ F.words, decode w ≠ E.branch := by
  have ⟨e, he, hi⟩ := exists_branch hE
  have ⟨f, hf, hj⟩ := exists_branch hF
  have ⟨hfe, hef⟩ := words_ssubset_iff (List.mem_of_getElem? hE) (List.mem_of_getElem? hF) he hf
    (List.mem_of_getElem? hi) (List.mem_of_getElem? hj) |>.mp h
  constructor
  case left =>
    by_contra hn
    have ⟨hil, hie⟩ := List.getElem?_eq_some_iff.mp hi
    have ⟨hjl, hje⟩ := List.getElem?_eq_some_iff.mp hj
    cases Nat.lt_or_eq_of_le <| Nat.not_lt.mp hn
    case inl hlt =>
      have hp := List.pairwise_iff_getElem.mp Opcode.specificFirst_opcodes i j hil hjl hlt
      rw [hie, hje] at hp
      exact hef <| hp hfe
    case inr heq =>
      rw [heq, hj] at hi
      cases hi
      exact hef hfe
  case right =>
    intro w hw
    rw [he]
    exact Opcode.specificFirst_opcodes.firstMatch_ne (List.mem_of_getElem? hj) hfe hef <|
      pattern_matches_iff (List.mem_of_getElem? hF) hf |>.mpr hw

-- `tst_reg_T2` is `and_reg_T2` with the destination 15.
theorem specific_first_tst :
    ∃ E F, (insnSet instructions)[225]? = some E ∧ (insnSet instructions)[199]? = some F ∧
      F.words ⊂ E.words ∧ 199 < 225 ∧ ∀ w ∈ F.words, decode w ≠ E.branch := by
  have hep : opcodes[225]?.map Opcode.pattern = some ⟨0xffe08000, 0xea000000⟩ := rfl
  have hfp : opcodes[199]?.map Opcode.pattern = some ⟨0xfff08f00, 0xea100f00⟩ := rfl
  have ⟨e, hi, hep⟩ := Option.map_eq_some_iff.mp hep
  have ⟨f, hj, hfp⟩ := Option.map_eq_some_iff.mp hfp
  have ⟨E, hE, he⟩ := exists_of_branch hi
  have ⟨F, hF, hf⟩ := exists_of_branch hj
  have h : F.words ⊂ E.words :=
    words_ssubset_iff (List.mem_of_getElem? hE) (List.mem_of_getElem? hF) he hf
      (List.mem_of_getElem? hi) (List.mem_of_getElem? hj) |>.mpr <| by rw [hep, hfp]; decide
  exact ⟨E, F, hE, hF, h, specific_first hE hF h⟩

-- The encodings have the same fixed bits.
def SameBits (o e : InsnOpcode) : Prop :=
  e.bitfield.constantmask = o.bitfield.constantmask ∧
  e.bitfield.constantcmp = o.bitfield.constantcmp

theorem sameBits_iff (ho : o ∈ insnSet instructions) (hE : E ∈ insnSet instructions)
    (hb : o.branch = some b) (he : E.branch = some e) : o.SameBits E ↔ e.pattern = b.pattern := by
  have ⟨hom, hoc⟩ := branch_pattern ho hb
  have ⟨hem, hec⟩ := branch_pattern hE he
  rw [SameBits, ← hom, ← hoc, ← hem, ← hec, BitVec.toNat_inj, BitVec.toNat_inj]
  constructor
  case mp  => exact fun ⟨hm, hc⟩ => by cases hp : e.pattern; cases hq : b.pattern; simp_all
  case mpr => exact fun h => h ▸ ⟨rfl, rfl⟩

theorem decode_ne_of_sameBits (ho : (insnSet instructions)[i]? = some o)
    (hE : (insnSet instructions)[j]? = some E) (hj : j < i) (h : o.SameBits E) :
    decode w ≠ o.branch := by
  have ⟨b, hb, hi⟩ := exists_branch ho
  have ⟨e, he, hje⟩ := exists_branch hE
  rw [hb]
  intro hw
  have ⟨hm, hn⟩ := decode_eq_some_iff hi |>.mp hw
  apply hn j e hj hje
  rwa [sameBits_iff (List.mem_of_getElem? ho) (List.mem_of_getElem? hE) hb he |>.mp h]

theorem exists_decode (ho : (insnSet instructions)[i]? = some o)
    (h : ∀ j e, j < i → (insnSet instructions)[j]? = some e → ¬o.SameBits e) :
    ∃ w, decode w = o.branch := by
  have ⟨b, hb, hi⟩ := exists_branch ho
  have ⟨hil, hib⟩ := List.getElem?_eq_some_iff.mp hi
  have hs : opcodes.map Opcode.pattern = (opcodes.take i).map Opcode.pattern ++
      b.pattern :: (opcodes.drop (i + 1)).map Opcode.pattern := by
    rw [← List.map_cons, ← List.map_append, ← hib, List.getElem_cons_drop, List.take_append_drop]
  have hl : b.pattern ∉ (opcodes.take i).map Opcode.pattern := by
    intro hp
    have ⟨c, hc, hcp⟩ := List.mem_map.mp hp
    have ⟨j, hj, hjc⟩ := List.mem_take_iff_getElem.mp hc
    have ⟨e, he, hec⟩ := exists_of_branch <| List.getElem?_eq_some_iff.mpr ⟨by omega, hjc⟩
    exact h j e (by omega) he <|
      sameBits_iff (List.mem_of_getElem? ho) (List.mem_of_getElem? he) hb hec |>.mpr hcp
  have ⟨w, hw, _, hn⟩ := Pattern.exists_of_allReached
    (Opcode.pattern_matches_cmp b <| List.mem_of_getElem? hi) (hs ▸ Opcode.allReached_opcodes)
    List.not_mem_nil hl
  refine ⟨w, hb ▸ (decode_eq_some_iff hi |>.mpr ⟨hw, fun j c hj hc => ?_⟩)⟩
  have ⟨hjl, hjc⟩ := List.getElem?_eq_some_iff.mp hc
  exact hn _ <| List.mem_map_of_mem <| List.mem_take_iff_getElem.mpr ⟨j, by omega, hjc⟩

-- An encoding is decoded for some word unless an encoding with the same fixed bits comes before it.
theorem exists_decode_iff (ho : (insnSet instructions)[i]? = some o) :
    (∃ w, decode w = o.branch) ↔
    ∀ j e, j < i → (insnSet instructions)[j]? = some e → ¬o.SameBits e where
  mp  := fun ⟨_, hw⟩ _ _ hj he hs => decode_ne_of_sameBits ho he hj hs hw
  mpr := exists_decode ho

-- `qsax_T1` has the bits of `qasx_T1`.
theorem exists_decode_iff_qsax :
    ∃ o, (insnSet instructions)[178]? = some o ∧
      ((∃ w, decode w = o.branch) ↔
        ∀ j e, j < 178 → (insnSet instructions)[j]? = some e → ¬o.SameBits e) := by
  have hp : opcodes[178]?.map Opcode.pattern = some ⟨0xfff0f0f0, 0xfae0f010⟩ := rfl
  have ⟨_, hi, _⟩ := Option.map_eq_some_iff.mp hp
  have ⟨o, ho, _⟩ := exists_of_branch hi
  exact ⟨o, ho, exists_decode_iff ho⟩

theorem not_forall_exists_decode : ¬∀ o ∈ insnSet instructions, ∃ w, decode w = o.branch := by
  intro h
  have hp : opcodes[178]?.map Opcode.pattern = some ⟨0xfff0f0f0, 0xfae0f010⟩ := rfl
  have hq : opcodes[177]?.map Opcode.pattern = some ⟨0xfff0f0f0, 0xfae0f010⟩ := rfl
  have ⟨b, hi, hp⟩ := Option.map_eq_some_iff.mp hp
  have ⟨c, hj, hq⟩ := Option.map_eq_some_iff.mp hq
  have ⟨o, ho, hb⟩ := exists_of_branch hi
  have ⟨e, he, hc⟩ := exists_of_branch hj
  have hs := sameBits_iff (List.mem_of_getElem? ho) (List.mem_of_getElem? he) hb hc |>.mpr <|
    hq.trans hp.symm
  have ⟨w, hw⟩ := h o <| List.mem_of_getElem? ho
  exact decode_ne_of_sameBits ho he (by omega) hs hw

end InsnOpcode
