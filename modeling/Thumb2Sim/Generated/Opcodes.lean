import Mathlib.Data.List.Chain
import Thumb2Sim.Codegen.Instructions
import Thumb2Sim.Codegen.Theorems.Bitfield
import Thumb2Sim.Decoder.Decode
import Thumb2Sim.Lib.Sort

section

variable {α β : Type} {f : α → Option β} {a : α} {l : List α} {r : List β}

theorem mapM_cons_some_iff :
    (a :: l).mapM f = some r ↔ ∃ b, f a = some b ∧ ∃ s, l.mapM f = some s ∧ b :: s = r := by
  simp [List.mapM_cons, Option.bind_eq_some_iff]

theorem getElem?_of_mapM (h : l.mapM f = some r) (i : Nat) : l[i]?.map f = r[i]?.map some := by
  induction l generalizing r i
  case nil =>
    cases h
    rfl
  case cons a l hi =>
    have ⟨b, hb, s, hs, h⟩ := mapM_cons_some_iff.mp h
    subst h
    cases i
    case zero   => exact congrArg some hb
    case succ i => exact hi hs i

end

namespace OpcodeNode

-- What the encodings are ordered by.
def key (node : OpcodeNode) : Nat ×ₗ String :=
  toLex (node.priority, node.variantName)

-- The opcodes of a priority in the order of their branches.
def ofPriority (priority : Nat) : List OpcodeNode :=
  (instructions.filter (·.priority = priority)).insertionSort fun a b =>
    a.variant.ctorIdx ≤ b.variant.ctorIdx

def sorted : List OpcodeNode :=
  (List.range 11).flatMap ofPriority

-- The priorities are below 11, and the names of the variants consist of ASCII characters.
theorem priority_variantName : ∀ node ∈ instructions,
    decide (node.priority < 11) ∧ String.ofList node.variantName.byteChars = node.variantName := by
  decide +kernel

theorem sorted_perm : sorted.Perm instructions :=
  (flatMap_filter_perm priority 11).trans <| .of_eq <|
    List.filter_eq_self.mpr fun node h => (priority_variantName node h).left

def Precedes (a b : OpcodeNode) : Prop :=
  a.priority < b.priority ∨
    a.priority = b.priority ∧ a.variantName.byteChars < b.variantName.byteChars

instance : DecidableRel Precedes :=
  fun _ _ => inferInstanceAs <| Decidable (_ ∨ _)

theorem sorted_isChain : sorted.IsChain Precedes := by
  decide +kernel

theorem sorted_pairwise : sorted.Pairwise fun a b => a.key < b.key := by
  have hn {node : OpcodeNode} (h : node ∈ sorted) :=
    (priority_variantName node <| sorted_perm.mem_iff.mp h).right
  have hc : (sorted.map key).IsChain (· < ·) := by
    refine List.isChain_map key |>.mpr <| sorted_isChain.imp_of_mem_imp fun a b ha hb h => ?_
    rw [key, key, Prod.Lex.toLex_lt_toLex, String.lt_iff_byteChars (hn ha) (hn hb)]
    exact h
  exact List.pairwise_map.mp hc.pairwise

end OpcodeNode

namespace InsnOpcode

variable {a b o : InsnOpcode} {node : OpcodeNode}

def key (o : InsnOpcode) : Nat ×ₗ String :=
  toLex (o.priority, o.variantName)

theorem le_iff_key_le : a.le b ↔ a.key ≤ b.key := by
  rw [key, key, Prod.Lex.toLex_le_toLex, le]

-- What the generator takes over from an opcode, and when it accepts it.
theorem ofNode_some (h : ofNode node = some o) :
    o.priority = node.priority ∧ o.variantName = node.variantName ∧
    ∃ b, Bitfield.make node.bits = some b ∧ (b.bitlen = 16 ∨ b.bitlen = 32) ∧
      node.extend.foldlM (fun b (varname, exttype) => b.setextend varname exttype) (b.widen 32) =
        some o.bitfield := by
  simp only [ofNode, Option.bind_eq_bind, Option.bind_eq_some_iff, Option.pure_def,
    Option.some.injEq, Option.guard_eq_some'] at h
  have ⟨b, hb, _, hg, b', hb', h⟩ := h
  subst h
  exact ⟨rfl, rfl, b, hb, hg, hb'⟩

theorem key_ofNode (h : ofNode node = some o) : o.key = node.key := by
  have ⟨hp, hn, _⟩ := ofNode_some h
  rw [key, OpcodeNode.key, hp, hn]

theorem insnSet_instructions : insnSet instructions = OpcodeNode.sorted.filterMap ofNode := by
  refine insertionSort_eq_of_perm (fun _ _ => le_iff_key_le) (OpcodeNode.sorted_perm.filterMap _) ?_
  refine OpcodeNode.sorted_pairwise.filterMap _ fun a b h c hc d hd => ?_
  rwa [key_ofNode hc, key_ofNode hd]

end InsnOpcode

-- The accepted ones of the opcodes become the given branches.
def Generates (nodes : List OpcodeNode) (branches : List Opcode) : Prop :=
  (nodes.filterMap InsnOpcode.ofNode).mapM InsnOpcode.branch = some branches

namespace Generates

instance {nodes : List OpcodeNode} {branches : List Opcode} : Decidable (Generates nodes branches) :=
  inferInstanceAs <| Decidable (_ = _)

theorem append {l₁ l₂ : List OpcodeNode} {r₁ r₂ : List Opcode} (h₁ : Generates l₁ r₁)
    (h₂ : Generates l₂ r₂) : Generates (l₁ ++ l₂) (r₁ ++ r₂) := by
  unfold Generates at h₁ h₂ ⊢
  rw [List.filterMap_append, List.mapM_append, h₁, h₂]
  rfl

theorem opcodesPriority :
    Generates (OpcodeNode.ofPriority 0) opcodesPriority0 ∧
    Generates (OpcodeNode.ofPriority 1) opcodesPriority1 ∧
    Generates (OpcodeNode.ofPriority 2) opcodesPriority2 ∧
    Generates ([3, 4, 5, 6, 7, 8, 9, 10].flatMap OpcodeNode.ofPriority) opcodesPriority3 := by
  refine ⟨?_, ?_, ?_, ?_⟩ <;> decide +kernel

end Generates

-- `decode_insn` is the result of the generator: its branches are those of the accepted encodings,
-- in their order.
theorem mapM_branch_instructions : (insnSet instructions).mapM InsnOpcode.branch = some opcodes := by
  have hf (f : Nat → List OpcodeNode) : (List.range 11).flatMap f =
      f 0 ++ f 1 ++ f 2 ++ [3, 4, 5, 6, 7, 8, 9, 10].flatMap f := by
    have hr : List.range 11 = [0, 1, 2] ++ [3, 4, 5, 6, 7, 8, 9, 10] := rfl
    rw [hr, List.flatMap_append]
    simp
  rw [InsnOpcode.insnSet_instructions, OpcodeNode.sorted, hf]
  have ⟨h₀, h₁, h₂, h₃⟩ := Generates.opcodesPriority
  exact Generates.append (.append (.append h₀ h₁) h₂) h₃

section

variable {i : Nat} {o : InsnOpcode} {b : Opcode}

theorem exists_branch (h : (insnSet instructions)[i]? = some o) :
    ∃ b, o.branch = some b ∧ opcodes[i]? = some b := by
  have hm := getElem?_of_mapM mapM_branch_instructions i
  rw [h] at hm
  have ⟨b, hb, ho⟩ := Option.map_eq_some_iff.mp hm.symm
  exact ⟨b, ho.symm, hb⟩

theorem exists_of_branch (h : opcodes[i]? = some b) :
    ∃ o, (insnSet instructions)[i]? = some o ∧ o.branch = some b := by
  have hm := getElem?_of_mapM mapM_branch_instructions i
  rw [h] at hm
  exact Option.map_eq_some_iff.mp hm

end

namespace InsnOpcode

variable {o : InsnOpcode} {node : OpcodeNode} {b : Opcode} {w : Word}

theorem mem_insnSet {nodes : List OpcodeNode} :
    o ∈ insnSet nodes ↔ ∃ node ∈ nodes, ofNode node = some o := by
  rw [insnSet, List.mem_insertionSort, List.mem_filterMap]

-- The extensions of the variables leave everything else alone.
theorem foldlM_setextend {l : List (Var × String)} {b b' : Bitfield Var}
    (h : l.foldlM (fun b (varname, exttype) => b.setextend varname exttype) b = some b') :
    b' = { b with vars := b'.vars } ∧
    ∀ v f, (v, f) ∈ b'.vars → ∃ g, (v, g) ∈ b.vars ∧ f = { g with extend := f.extend } := by
  induction l generalizing b
  case nil =>
    cases h
    exact ⟨rfl, fun v f hf => ⟨f, hf, rfl⟩⟩
  case cons e l hi =>
    rw [List.foldlM_cons, Option.bind_eq_bind, Option.bind_eq_some_iff] at h
    have ⟨b'', he, h⟩ := h
    have ⟨hb, hv⟩ := hi h
    simp only [Bitfield.setextend, Option.ite_none_right_eq_some, Option.some.injEq] at he
    rw [← he.right] at hb hv
    refine ⟨hb, fun v f hf => ?_⟩
    have ⟨g, hg, hfg⟩ := hv v f hf
    have ⟨⟨w, g'⟩, hg', heq⟩ := List.mem_map.mp hg
    cases heq
    refine ⟨g', hg', ?_⟩
    rw [hfg]
    split <;> rfl

theorem bitfield_ofNode (h : ofNode node = some o) :
    ∃ b, Bitfield.make node.bits = some b ∧ (b.bitlen = 16 ∨ b.bitlen = 32) ∧
    o.bitfield = { b.widen 32 with vars := o.bitfield.vars } ∧
    ∀ v f, (v, f) ∈ o.bitfield.vars → ∃ g, (v, g) ∈ b.vars ∧ f = { g with extend := f.extend } := by
  have ⟨_, _, b, hb, hl, hf⟩ := ofNode_some h
  exact ⟨b, hb, hl, foldlM_setextend hf⟩

-- The fixed bits lie within the word, so that the pattern of a branch tests them all.
theorem branch_pattern (ho : o ∈ insnSet instructions) (hb : o.branch = some b) :
    b.pattern.mask.toNat = o.bitfield.constantmask ∧
    b.pattern.cmp.toNat = o.bitfield.constantcmp := by
  have ⟨node, _, hn⟩ := mem_insnSet.mp ho
  have ⟨f, hf, hl, h, _⟩ := bitfield_ofNode hn
  have hle : Description.bitlen node.bits ≤ 32 := by
    rw [make_bitlen hf] at hl
    omega
  have ⟨hm, hc⟩ : o.bitfield.constantmask < 2 ^ 32 ∧ o.bitfield.constantcmp < 2 ^ 32 := by
    rw [h]
    exact constantmask_lt (b := f) hf hle
  simp only [branch, Option.bind_eq_bind, Option.bind_eq_some_iff, Option.pure_def,
    Option.some.injEq] at hb
  have ⟨_, _, hb⟩ := hb
  rw [← hb, BitVec.toNat_ofNat, BitVec.toNat_ofNat, Nat.mod_eq_of_lt hm, Nat.mod_eq_of_lt hc]
  exact ⟨rfl, rfl⟩

theorem pattern_matches_iff (ho : o ∈ insnSet instructions) (hb : o.branch = some b) :
    b.pattern.Matches w ↔ o.Matches w := by
  have ⟨hm, hc⟩ := branch_pattern ho hb
  rw [Pattern.Matches, Matches, ← BitVec.toNat_inj, BitVec.toNat_and, hm, hc]

theorem value_lt {v : Var} {f : FieldShift} (ho : o ∈ insnSet instructions)
    (hf : (v, f) ∈ o.itervars) (x : Nat) : origcexpressionValue f.origcexpression x < 2 ^ f.len := by
  obtain ⟨node, _, hn⟩ := mem_insnSet.mp ho
  obtain ⟨b, hb, _, h, hv⟩ := bitfield_ofNode hn
  obtain ⟨_, _, hi⟩ := List.mem_filterMap.mp hf
  obtain ⟨_, hi, he⟩ := Option.map_eq_some_iff.mp hi
  cases he
  rw [Bitfield.getitem, Option.bind_eq_bind, Option.bind_eq_some_iff] at hi
  obtain ⟨g, hg, hi⟩ := hi
  obtain ⟨_, _, hm, _⟩ := List.lookup_eq_some_iff.mp hg
  obtain ⟨g', hg', he⟩ := hv v g <| by simp [hm]
  have hw : o.bitfield.widento = some 32 := by
    rw [h]
    rfl
  rw [he, hw, Option.isSome_some, if_pos rfl, Option.pure_def, Option.some.injEq] at hi
  subst hi
  exact value_lt_of_mem hb hg' _ _

end InsnOpcode
