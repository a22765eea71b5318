import Thumb2Sim.Decoder.Decode

open Pattern

-- The loads from an address relative to the program counter. Their base register is 15.
def literalLoads : List Variant :=
  [.ldrLitT2, .ldrbLitT1, .ldrhLitT1, .ldrsbLitT1, .ldrshLitT1]

-- The encodings that stand for a literal load with the target register 15.
def literalPreload : Variant → Option Variant
  | .ldrbLitT1  => some .pldLitT1
  | .ldrsbLitT1 => some .pldImmlitT3
  | _           => none

def target15 : Pattern 32 :=
  ⟨0xf000, 0xf000⟩

def TakesLiteral (v : Variant) (w : Word) : Prop :=
  (decode w).map Opcode.variant = some v ∨
  target15.Matches w ∧ ∃ p, literalPreload v = some p ∧ (decode w).map Opcode.variant = some p

-- The offset is subtracted.
def negative : Pattern 32 :=
  bit 23 false

-- The offset has the form of a shifted register.
def registerOffset : Pattern 32 :=
  ⟨0xfc0, 0⟩

-- The offset has the form of an indexed access.
def indexed : Pattern 32 :=
  ⟨0x800, 0x800⟩

-- The offset has the form of an unprivileged access.
def unprivileged : Pattern 32 :=
  ⟨0xf00, 0xe00⟩

-- The forms of the offset for which another load has a higher priority.
def capturingOffsets : Variant → List (Pattern 32)
  | .ldrbLitT1  => [registerOffset, indexed]
  | .ldrhLitT1  => [registerOffset, unprivileged]
  | .ldrshLitT1 => [registerOffset, indexed]
  | _           => []

def Captured (v : Variant) (w : Word) : Prop :=
  negative.Matches w ∧ (∃ p ∈ capturingOffsets v, p.Matches w) ∧
  (literalPreload v ≠ none → ¬target15.Matches w)

-- The patterns of the literal loads and of the encodings that compete with them.
namespace LiteralLoad

def ldr : Pattern 32 :=
  ⟨0xff7f0000, 0xf85f0000⟩

def ldrb : Pattern 32 :=
  ⟨0xff7f0000, 0xf81f0000⟩

def ldrh : Pattern 32 :=
  ⟨0xff7f0000, 0xf83f0000⟩

def ldrsb : Pattern 32 :=
  ⟨0xff7f0000, 0xf91f0000⟩

def ldrsh : Pattern 32 :=
  ⟨0xff7f0000, 0xf93f0000⟩

def pattern : Variant → Option (Pattern 32)
  | .ldrLitT2   => some ldr
  | .ldrbLitT1  => some ldrb
  | .ldrhLitT1  => some ldrh
  | .ldrsbLitT1 => some ldrsb
  | .ldrshLitT1 => some ldrsh
  | _           => none

theorem pattern_eq :
    ∀ o ∈ opcodes, o.variant ∈ literalLoads → pattern o.variant = some o.pattern := by
  decide +kernel

-- The encodings of PLD that may match a word of `ldrb_lit_T1`.
def preloads : List (Pattern 32) :=
  [⟨0xff7ff000, 0xf81ff000⟩, ⟨0xfff0ffc0, 0xf810f000⟩, ⟨0xfff0ff00, 0xf810fc00⟩,
    ⟨0xfff0f000, 0xf890f000⟩]

-- The encoding of PLI that may match a word of `ldrsb_lit_T1`.
def preloadSigned : Pattern 32 :=
  ⟨0xff7ff000, 0xf91ff000⟩

def ldrbReg : Pattern 32 :=
  ⟨0xfff00fc0, 0xf8100000⟩

def ldrbt : Pattern 32 :=
  ⟨0xfff00f00, 0xf8100e00⟩

def ldrbImm : Pattern 32 :=
  ⟨0xfff00800, 0xf8100800⟩

def ldrhReg : Pattern 32 :=
  ⟨0xfff00fc0, 0xf8300000⟩

def ldrht : Pattern 32 :=
  ⟨0xfff00f00, 0xf8300e00⟩

def ldrshReg : Pattern 32 :=
  ⟨0xfff00fc0, 0xf9300000⟩

def ldrsht : Pattern 32 :=
  ⟨0xfff00f00, 0xf9300e00⟩

def ldrshImm : Pattern 32 :=
  ⟨0xfff00800, 0xf9300800⟩

def decodeRules : List DecodeRule := [
  ⟨ldr, [], .ldrLitT2⟩,
  ⟨ldrb.meet target15, [], .pldLitT1⟩,
  ⟨ldrb, preloads ++ [ldrbReg, ldrbt, ldrbImm], .ldrbLitT1⟩,
  ⟨ldrb.meet negative |>.meet registerOffset, preloads, .ldrbRegT2⟩,
  ⟨ldrb.meet negative |>.meet unprivileged, preloads, .ldrbtT1⟩,
  ⟨ldrb.meet negative |>.meet indexed, ldrbt :: preloads, .ldrbImmT3⟩,
  ⟨ldrh, [ldrhReg, ldrht], .ldrhLitT1⟩,
  ⟨ldrh.meet negative |>.meet registerOffset, [], .ldrhRegT2⟩,
  ⟨ldrh.meet negative |>.meet unprivileged, [], .ldrhtT1⟩,
  ⟨ldrsb.meet target15, [], .pldImmlitT3⟩,
  ⟨ldrsb, [preloadSigned], .ldrsbLitT1⟩,
  ⟨ldrsh, [ldrshReg, ldrsht, ldrshImm], .ldrshLitT1⟩,
  ⟨ldrsh.meet negative |>.meet registerOffset, [], .ldrshRegT2⟩,
  ⟨ldrsh.meet negative |>.meet unprivileged, [], .ldrshT1⟩,
  ⟨ldrsh.meet negative |>.meet indexed, [ldrsht], .ldrshImmT2⟩
]

theorem decodeRules_hold : ∀ r ∈ decodeRules, r.Holds := by
  decide +kernel

variable {w : Word} {p : Pattern 32} {others : List (Pattern 32)} {v : Variant}

theorem decode_of_rule (hr : ⟨p, others, v⟩ ∈ decodeRules) (hp : p.Matches w)
    (ho : ∀ q ∈ others, ¬q.Matches w) : (decode w).map Opcode.variant = some v :=
  DecodeRule.decode_of_mem decodeRules_hold hr hp ho

theorem not_preloads (ht : ¬target15.Matches w) : ∀ q ∈ preloads, ¬q.Matches w := by
  have h : ∀ q ∈ preloads, q.implies target15 := by decide
  exact fun q hq => not_matches_of_implies (h q hq) ht

theorem decode_ldr (hw : ldr.Matches w) : (decode w).map Opcode.variant = some .ldrLitT2 :=
  decode_of_rule (by simp [decodeRules]) hw <| List.forall_mem_nil _

theorem decode_ldrb_target15 (hw : ldrb.Matches w) (ht : target15.Matches w) :
    (decode w).map Opcode.variant = some .pldLitT1 :=
  decode_of_rule (by simp [decodeRules]) (hw.meet ht) <| List.forall_mem_nil _

theorem decode_ldrsb_target15 (hw : ldrsb.Matches w) (ht : target15.Matches w) :
    (decode w).map Opcode.variant = some .pldImmlitT3 :=
  decode_of_rule (by simp [decodeRules]) (hw.meet ht) <| List.forall_mem_nil _

theorem decode_ldrsb (hw : ldrsb.Matches w) (ht : ¬target15.Matches w) :
    (decode w).map Opcode.variant = some .ldrsbLitT1 := by
  have hp : ∀ q ∈ [preloadSigned], ¬q.Matches w :=
    List.forall_mem_singleton.mpr <| not_matches_of_implies (by decide) ht
  exact decode_of_rule (by simp [decodeRules]) hw hp

-- With an offset that is added, or one of another form, no other load matches.
theorem decode_ldrb (hw : ldrb.Matches w) (ht : ¬target15.Matches w)
    (hn : negative.Matches w → ¬registerOffset.Matches w ∧ ¬indexed.Matches w) :
    (decode w).map Opcode.variant = some .ldrbLitT1 := by
  have hr : ¬ldrbReg.Matches w := fun h =>
    hn (h.of_implies <| by decide) |>.left <| h.of_implies <| by decide
  have hu : ¬ldrbt.Matches w := fun h =>
    hn (h.of_implies <| by decide) |>.right <| h.of_implies <| by decide
  have hi : ¬ldrbImm.Matches w := fun h =>
    hn (h.of_implies <| by decide) |>.right <| h.of_implies <| by decide
  have ho : ∀ q ∈ preloads ++ [ldrbReg, ldrbt, ldrbImm], ¬q.Matches w :=
    List.forall_mem_append.mpr ⟨not_preloads ht, by simp [hr, hu, hi]⟩
  exact decode_of_rule (by simp [decodeRules]) hw ho

theorem decode_ldrh (hw : ldrh.Matches w)
    (hn : negative.Matches w → ¬registerOffset.Matches w ∧ ¬unprivileged.Matches w) :
    (decode w).map Opcode.variant = some .ldrhLitT1 := by
  have hr : ¬ldrhReg.Matches w := fun h =>
    hn (h.of_implies <| by decide) |>.left <| h.of_implies <| by decide
  have hu : ¬ldrht.Matches w := fun h =>
    hn (h.of_implies <| by decide) |>.right <| h.of_implies <| by decide
  have ho : ∀ q ∈ [ldrhReg, ldrht], ¬q.Matches w := by simp [hr, hu]
  exact decode_of_rule (by simp [decodeRules]) hw ho

theorem decode_ldrsh (hw : ldrsh.Matches w)
    (hn : negative.Matches w → ¬registerOffset.Matches w ∧ ¬indexed.Matches w) :
    (decode w).map Opcode.variant = some .ldrshLitT1 := by
  have hr : ¬ldrshReg.Matches w := fun h =>
    hn (h.of_implies <| by decide) |>.left <| h.of_implies <| by decide
  have hu : ¬ldrsht.Matches w := fun h =>
    hn (h.of_implies <| by decide) |>.right <| h.of_implies <| by decide
  have hi : ¬ldrshImm.Matches w := fun h =>
    hn (h.of_implies <| by decide) |>.right <| h.of_implies <| by decide
  have ho : ∀ q ∈ [ldrshReg, ldrsht, ldrshImm], ¬q.Matches w := by simp [hr, hu, hi]
  exact decode_of_rule (by simp [decodeRules]) hw ho

-- The loads that take words of the literal loads, with the base register 15.
def capturingLoads : List Variant :=
  [.ldrbRegT2, .ldrbtT1, .ldrbImmT3, .ldrhRegT2, .ldrhtT1, .ldrshRegT2, .ldrshT1, .ldrshImmT2]

def IsCaptured (w : Word) : Prop :=
  ∃ v ∈ capturingLoads, (decode w).map Opcode.variant = some v

theorem isCaptured_of_rule (v : Variant) (hr : ⟨p, others, v⟩ ∈ decodeRules)
    (hv : v ∈ capturingLoads) (hp : p.Matches w) (ho : ∀ q ∈ others, ¬q.Matches w) : IsCaptured w :=
  ⟨v, hv, decode_of_rule hr hp ho⟩

theorem ldrb_captured (hw : (ldrb.meet negative).Matches w) (ht : ¬target15.Matches w)
    (h : registerOffset.Matches w ∨ indexed.Matches w) : IsCaptured w := by
  have hp := not_preloads ht
  cases h
  case inl hr =>
    exact isCaptured_of_rule .ldrbRegT2 (by simp [decodeRules]) (by decide) (hw.meet hr) hp
  case inr hi =>
    by_cases hu : unprivileged.Matches w
    case pos =>
      exact isCaptured_of_rule .ldrbtT1 (by simp [decodeRules]) (by decide) (hw.meet hu) hp
    case neg =>
      have ho : ∀ q ∈ ldrbt :: preloads, ¬q.Matches w :=
        List.forall_mem_cons.mpr ⟨not_matches_of_implies (by decide) hu, hp⟩
      exact isCaptured_of_rule .ldrbImmT3 (by simp [decodeRules]) (by decide) (hw.meet hi) ho

theorem ldrh_captured (hw : (ldrh.meet negative).Matches w)
    (h : registerOffset.Matches w ∨ unprivileged.Matches w) : IsCaptured w := by
  have ho : ∀ q ∈ ([] : List (Pattern 32)), ¬q.Matches w := by simp
  cases h
  case inl hr =>
    exact isCaptured_of_rule .ldrhRegT2 (by simp [decodeRules]) (by decide) (hw.meet hr) ho
  case inr hu =>
    exact isCaptured_of_rule .ldrhtT1 (by simp [decodeRules]) (by decide) (hw.meet hu) ho

theorem ldrsh_captured (hw : (ldrsh.meet negative).Matches w)
    (h : registerOffset.Matches w ∨ indexed.Matches w) : IsCaptured w := by
  have ho : ∀ q ∈ ([] : List (Pattern 32)), ¬q.Matches w := by simp
  cases h
  case inl hr =>
    exact isCaptured_of_rule .ldrshRegT2 (by simp [decodeRules]) (by decide) (hw.meet hr) ho
  case inr hi =>
    by_cases hu : unprivileged.Matches w
    case pos =>
      exact isCaptured_of_rule .ldrshT1 (by simp [decodeRules]) (by decide) (hw.meet hu) ho
    case neg =>
      have ho : ∀ q ∈ [ldrsht], ¬q.Matches w :=
        List.forall_mem_singleton.mpr <| not_matches_of_implies (by decide) hu
      exact isCaptured_of_rule .ldrshImmT2 (by simp [decodeRules]) (by decide) (hw.meet hi) ho

theorem isCaptured_of_captured (hp : pattern v = some p) (hw : p.Matches w) (h : Captured v w) :
    IsCaptured w := by
  have ⟨hn, hc, ht⟩ := h
  have hw := hw.meet hn
  unfold pattern at hp
  split at hp <;> cases hp
  case h_1 => simp [capturingOffsets] at hc
  case h_2 => exact ldrb_captured hw (ht <| by decide) <| by simpa [capturingOffsets] using hc
  case h_3 => exact ldrh_captured hw <| by simpa [capturingOffsets] using hc
  case h_4 => simp [capturingOffsets] at hc
  case h_5 => exact ldrsh_captured hw <| by simpa [capturingOffsets] using hc

theorem not_takesLiteral_of_isCaptured (hv : v ∈ literalLoads) (h : IsCaptured w) :
    ¬TakesLiteral v w := by
  have hd : ∀ u ∈ capturingLoads,
      u ∉ literalLoads ∧ ∀ v ∈ literalLoads, literalPreload v ≠ some u := by decide
  have ⟨u, hu, hw⟩ := h
  have ⟨hl, hp⟩ := hd u hu
  rw [TakesLiteral, hw]
  intro ht
  cases ht
  case inl ht => exact hl <| Option.some.inj ht ▸ hv
  case inr ht =>
    have ⟨_, u', hu', ht⟩ := ht
    exact hp v hv <| hu'.trans ht.symm

theorem takesLiteral_of_not_captured (hp : pattern v = some p) (hw : p.Matches w)
    (h : ¬Captured v w) : TakesLiteral v w := by
  have hn (hg : negative.Matches w) (ht : literalPreload v ≠ none → ¬target15.Matches w) :
      ∀ q ∈ capturingOffsets v, ¬q.Matches w :=
    fun q hq hm => h ⟨hg, ⟨q, hq, hm⟩, ht⟩
  unfold pattern at hp
  split at hp <;> cases hp
  case h_1 => exact .inl <| decode_ldr hw
  case h_2 =>
    by_cases ht : target15.Matches w
    case pos => exact .inr ⟨ht, _, rfl, decode_ldrb_target15 hw ht⟩
    case neg =>
      exact .inl <| decode_ldrb hw ht fun hg => by
        simpa [capturingOffsets] using hn hg fun _ => ht
  case h_3 => exact .inl <| decode_ldrh hw fun hg => by simpa [capturingOffsets] using hn hg nofun
  case h_4 =>
    by_cases ht : target15.Matches w
    case pos => exact .inr ⟨ht, _, rfl, decode_ldrsb_target15 hw ht⟩
    case neg => exact .inl <| decode_ldrsb hw ht
  case h_5 => exact .inl <| decode_ldrsh hw fun hg => by simpa [capturingOffsets] using hn hg nofun

end LiteralLoad

-- A literal load is recognized unless its offset is subtracted and has the form of another load's
-- offset. The words with target register 15 that mean PLD or PLI are recognized as such.
theorem takesLiteral_iff {o : Opcode} {w : Word} (ho : o ∈ opcodes) (hv : o.variant ∈ literalLoads)
    (hw : o.pattern.Matches w) : TakesLiteral o.variant w ↔ ¬Captured o.variant w := by
  have hp := LiteralLoad.pattern_eq o ho hv
  constructor
  case mp =>
    exact fun ht hc => LiteralLoad.not_takesLiteral_of_isCaptured hv
      (LiteralLoad.isCaptured_of_captured hp hw hc) ht
  case mpr => exact LiteralLoad.takesLiteral_of_not_captured hp hw

-- `ldrb r0, [pc, #4]`
theorem takesLiteral_iff_ldrb :
    ∃ o ∈ opcodes, o.variant = .ldrbLitT1 ∧ o.pattern.Matches 0xf89f0004 ∧
      (TakesLiteral .ldrbLitT1 0xf89f0004 ↔ ¬Captured .ldrbLitT1 0xf89f0004) := by
  have hd : (decode 0xf89f0004).map Opcode.variant = some .ldrbLitT1 :=
    LiteralLoad.decode_ldrb (by decide) (by decide) (by decide)
  have ⟨o, hd, hv⟩ := Option.map_eq_some_iff.mp hd
  have ⟨ho, hw⟩ := firstMatch_some hd
  exact ⟨o, ho, hv, hw, hv ▸ takesLiteral_iff ho (by rw [hv]; decide) hw⟩

-- `ldrb r0, [pc, #-4]` is taken for `ldrb r0, [pc, r4]`.
theorem not_forall_takesLiteral :
    ¬∀ o ∈ opcodes, o.variant ∈ literalLoads → ∀ w, o.pattern.Matches w →
      TakesLiteral o.variant w := by
  intro h
  have hd : (decode 0xf89f0004).map Opcode.variant = some .ldrbLitT1 :=
    LiteralLoad.decode_ldrb (by decide) (by decide) (by decide)
  have ⟨o, hd, hv⟩ := Option.map_eq_some_iff.mp hd
  have ho := firstMatch_some hd |>.left
  have hm : o.variant ∈ literalLoads := by rw [hv]; decide
  have hp := LiteralLoad.pattern_eq o ho hm
  rw [hv] at hp
  have hc : LiteralLoad.IsCaptured 0xf81f0004 :=
    LiteralLoad.ldrb_captured (by decide) (by decide) <| .inl <| by decide
  exact LiteralLoad.not_takesLiteral_of_isCaptured hm hc <| h o ho hm _ <| Option.some.inj hp ▸ by
    decide
