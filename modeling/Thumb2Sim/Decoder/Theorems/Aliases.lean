import Thumb2Sim.Decoder.Decode

open Pattern

-- The data processing instructions with a modified immediate or a shifted register as operand.
inductive OperandGroup
  | modifiedImmediate
  | shiftedRegister

def OperandGroup.pattern : OperandGroup → Pattern 32
  | modifiedImmediate => ⟨0xfa008000, 0xf0000000⟩
  | shiftedRegister   => ⟨0xfe008000, 0xea000000⟩

-- The operations of which only the flags are kept.
inductive FlagOperation
  | tst
  | teq
  | cmn
  | cmp

namespace FlagOperation

-- The bits 24 to 21.
def opcode : FlagOperation → Word
  | tst => 0b0000
  | teq => 0b0100
  | cmn => 0b1000
  | cmp => 0b1101

def pattern (f : FlagOperation) : Pattern 32 :=
  ⟨0x1e00000, f.opcode <<< 21⟩

def variant : FlagOperation → OperandGroup → Variant
  | tst, .modifiedImmediate => .tstImmT1
  | teq, .modifiedImmediate => .teqImmT1
  | cmn, .modifiedImmediate => .cmnImmT1
  | cmp, .modifiedImmediate => .cmpImmT2
  | tst, .shiftedRegister   => .tstRegT2
  | teq, .shiftedRegister   => .teqRegT1
  | cmn, .shiftedRegister   => .cmnRegT2
  | cmp, .shiftedRegister   => .cmpRegT3

end FlagOperation

-- The flags are set and the destination is 15.
def flagsOnly : Pattern 32 :=
  ⟨0x100f00, 0x100f00⟩

-- The words that mean a comparison or a test.
def aliasPattern (f : FlagOperation) (g : OperandGroup) : Pattern 32 :=
  g.pattern.meet flagsOnly |>.meet f.pattern

-- The stack pointer is the first operand.
def base13 : Pattern 32 :=
  ⟨0xf0000, 0xd0000⟩

def subSPimmT2 : Pattern 32 :=
  ⟨0xfbef8000, 0xf1ad0000⟩

def aliasRules : List DecodeRule := [
  ⟨aliasPattern .tst .modifiedImmediate, [], .tstImmT1⟩,
  ⟨aliasPattern .teq .modifiedImmediate, [], .teqImmT1⟩,
  ⟨aliasPattern .cmn .modifiedImmediate, [], .cmnImmT1⟩,
  ⟨aliasPattern .cmp .modifiedImmediate, [subSPimmT2], .cmpImmT2⟩,
  ⟨aliasPattern .cmp .modifiedImmediate |>.meet base13, [], .subSPimmT2⟩,
  ⟨aliasPattern .tst .shiftedRegister, [], .tstRegT2⟩,
  ⟨aliasPattern .teq .shiftedRegister, [], .teqRegT1⟩,
  ⟨aliasPattern .cmn .shiftedRegister, [], .cmnRegT2⟩,
  ⟨aliasPattern .cmp .shiftedRegister, [], .cmpRegT3⟩
]

theorem aliasRules_hold : ∀ r ∈ aliasRules, r.Holds := by
  decide +kernel

variable {f : FlagOperation} {g : OperandGroup} {w : Word}

theorem decode_of_aliasRule {p : Pattern 32} {others : List (Pattern 32)} {v : Variant}
    (hr : ⟨p, others, v⟩ ∈ aliasRules) (hp : p.Matches w) (ho : ∀ q ∈ others, ¬q.Matches w) :
    (decode w).map Opcode.variant = some v :=
  DecodeRule.decode_of_mem aliasRules_hold hr hp ho

theorem decode_alias (hw : (aliasPattern f g).Matches w)
    (h : f = .cmp → g = .modifiedImmediate → ¬base13.Matches w) :
    (decode w).map Opcode.variant = some (f.variant g) := by
  have ho : ∀ q ∈ ([] : List (Pattern 32)), ¬q.Matches w := by simp
  cases f <;> cases g
  case cmp.modifiedImmediate =>
    have hs : ∀ q ∈ [subSPimmT2], ¬q.Matches w :=
      List.forall_mem_singleton.mpr <| not_matches_of_implies (by decide) <| h rfl rfl
    exact decode_of_aliasRule (by simp [aliasRules, FlagOperation.variant]) hw hs
  all_goals exact decode_of_aliasRule (by simp [aliasRules, FlagOperation.variant]) hw ho

theorem decode_cmp_base13 (hw : (aliasPattern .cmp .modifiedImmediate).Matches w)
    (hb : base13.Matches w) : (decode w).map Opcode.variant = some .subSPimmT2 :=
  decode_of_aliasRule (by simp [aliasRules]) (hw.meet hb) <| List.forall_mem_nil _

-- The comparisons and tests are recognized, except for the comparison of the stack pointer with an
-- immediate.
theorem decode_alias_iff (hw : (aliasPattern f g).Matches w) :
    (decode w).map Opcode.variant = some (f.variant g) ↔
    ¬(f = .cmp ∧ g = .modifiedImmediate ∧ base13.Matches w) := by
  constructor
  case mp =>
    intro hd ⟨hf, hg, hb⟩
    subst hf hg
    rw [decode_cmp_base13 hw hb] at hd
    cases hd
  case mpr => exact fun h => decode_alias hw fun hf hg hb => h ⟨hf, hg, hb⟩

-- `cmp.w r0, #0`
theorem decode_alias_iff_cmp :
    (decode 0xf1b00f00).map Opcode.variant = some .cmpImmT2 ↔
    ¬(FlagOperation.cmp = .cmp ∧ OperandGroup.modifiedImmediate = .modifiedImmediate ∧
      base13.Matches 0xf1b00f00) :=
  decode_alias_iff (f := .cmp) (g := .modifiedImmediate) <| by decide

-- `cmp.w sp, #0` is taken for `subs.w pc, sp, #0`.
theorem not_forall_decode_alias :
    ¬∀ f g w, (aliasPattern f g).Matches w →
      (decode w).map Opcode.variant = some (f.variant g) := by
  intro h
  have hw : (aliasPattern .cmp .modifiedImmediate).Matches 0xf1bd0f00 := by decide
  have hd := h .cmp .modifiedImmediate _ hw
  rw [decode_cmp_base13 hw <| by decide] at hd
  cases hd
