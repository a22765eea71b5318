import Thumb2Sim.Generated.PythonDecoder
import Thumb2Sim.Generated.Opcodes

-- A handler for every encoding, which notes how it is called.
def recordingHandler : DecodingHandler (List (Variant × Args)) :=
  fun v => some fun args calls => .ok ((), calls ++ [(v, args)])

def BothReject (w : Word) : Prop :=
  decodeInsn w (some recordingHandler) [] = .ok (0, []) ∧
  decodeOpcode (insnSet instructions) w = .error (.notImplementedError w.toNat)

-- The decoders take the same encoding and pass the same values on, as signed integers.
def SameInstruction (w : Word) : Prop :=
  ∃ o ∈ insnSet instructions, ∃ args,
    decodeInsn w (some recordingHandler) [] = .ok (o.insnlen / 8, [(o.variant, args)]) ∧
    decodeOpcode (insnSet instructions) w = .ok {
      opcode    := o.name
      variant   := o.variantName
      length    := o.insnlen / 8
      arguments := o.itervars.map fun (v, _) => (v, (args v).toInt)
    }

def DecodersAgree (w : Word) : Prop :=
  BothReject w ∨ SameInstruction w

-- The encoding of a word has a variable with an extension.
def HasExtension (w : Word) : Prop :=
  ∃ o, (insnSet instructions).find? (fun o => o.Matches w) = some o ∧
    ∃ p ∈ o.itervars, p.snd.extend ≠ none

section Decode

variable {w : Word}

theorem find?_of_mapM {α β : Type} {f : α → Option β} {p : α → Bool} {q : β → Bool} {l : List α}
    {r : List β} (h : l.mapM f = some r) (hpq : ∀ a ∈ l, ∀ b, f a = some b → q b = p a) :
    r.find? q = (l.find? p).bind f := by
  induction l generalizing r
  case nil =>
    cases h
    rfl
  case cons a l hi =>
    have ⟨b, hb, s, hs, h⟩ := mapM_cons_some_iff.mp h
    subst h
    rw [List.forall_mem_cons] at hpq
    rw [List.find?_cons, List.find?_cons, hpq.left b hb]
    cases p a
    case true  => exact hb.symm
    case false => exact hi hs hpq.right

-- The branch of `decode_insn` belongs to the first encoding with the fixed bits of the word.
theorem decode_eq_bind :
    decode w = ((insnSet instructions).find? fun o => o.Matches w).bind InsnOpcode.branch :=
  find?_of_mapM mapM_branch_instructions fun _ ho _ hb =>
    decide_eq_decide.mpr <| InsnOpcode.pattern_matches_iff ho hb

theorem decodeOpcode_of_none {insns : List InsnOpcode}
    (h : insns.find? (fun o => o.Matches w) = none) :
    decodeOpcode insns w = .error (.notImplementedError w.toNat) := by
  simp only [decodeOpcode, h]
  rfl

theorem decodeOpcode_of_some {insns : List InsnOpcode} {o : InsnOpcode}
    (h : insns.find? (fun o => o.Matches w) = some o) :
    decodeOpcode insns w = o.instruction w.toNat := by
  simp only [decodeOpcode, h]

end Decode

namespace FieldShift

variable {f : FieldShift} {v : Var} {a : Argument} {w : Word}

theorem argument_some (h : f.argument v = some a) :
    f.ctype = some a.type ∧ a.var = v ∧ Extension.ofName f.extend = some a.extension ∧
    a.pieces = f.origcexpression.map ShiftTerm.piece := by
  simp only [argument, Option.bind_eq_bind, Option.bind_eq_some_iff, Option.pure_def,
    Option.some.injEq] at h
  have ⟨t, ht, e, he, h⟩ := h
  subst h
  exact ⟨ht, rfl, he, rfl⟩

theorem setWidth_ofNat {n x : Nat} (hx : x < 2 ^ n) (hn : n ≤ 32) :
    ((BitVec.ofNat 32 x).setWidth n).setWidth 32 = BitVec.ofNat 32 x := by
  have hlt : x < 2 ^ 32 := hx.trans_le <| Nat.pow_le_pow_right Nat.two_pos hn
  apply BitVec.eq_of_toNat_eq
  rw [BitVec.toNat_setWidth, BitVec.toNat_setWidth, BitVec.toNat_ofNat, Nat.mod_eq_of_lt hlt,
    Nat.mod_eq_of_lt hx, Nat.mod_eq_of_lt hlt]

-- The type of a variable holds its value.
theorem convert_ofNat {t : CType} {x : Nat} (ht : f.ctype = some t) (he : f.extend = none)
    (hx : x < 2 ^ f.len) : t.convert (BitVec.ofNat 32 x) = BitVec.ofNat 32 x := by
  have hn {n : Nat} (h : f.len ≤ n) : x < 2 ^ n := hx.trans_le <| Nat.pow_le_pow_right Nat.two_pos h
  simp only [ctype, he] at ht
  split at ht
  case isTrue h =>
    cases ht
    have hx : x = 0 ∨ x = 1 := by
      rw [h] at hx
      omega
    cases hx
    case inl h => subst h; rfl
    case inr h => subst h; rfl
  case isFalse =>
    split at ht
    case isTrue h =>
      cases ht
      exact setWidth_ofNat (hn h) (by omega)
    case isFalse =>
      split at ht
      case isTrue h =>
        cases ht
        exact setWidth_ofNat (hn h) (by omega)
      case isFalse =>
        simp only [Option.ite_none_right_eq_some, Option.some.injEq] at ht
        rw [← ht.right]
        rfl

-- The value that the Python decoder computes without an extension.
def rawValue (f : FieldShift) (w : Word) : Nat :=
  origcexpressionValue f.origcexpression w.toNat

theorem argument_value (ha : f.argument v = some a) (he : f.extend = none)
    (hx : f.rawValue w < 2 ^ f.len) : a.value w = .ok (BitVec.ofNat 32 <| f.rawValue w) := by
  have ⟨ht, _, hext, hp⟩ := argument_some ha
  have hext : a.extension = .plain := by simpa [he, Extension.ofName, eq_comm] using hext
  rw [Argument.value, hext, applyExtension, Argument.extract, hp, foldl_extract_piece]
  exact congrArg Except.ok <| convert_ofNat ht he hx

theorem pyvalue_of_none (he : f.extend = none) : f.pyvalue w.toNat = .ok (f.rawValue w) := by
  simp only [pyvalue, he]
  rfl

-- No extension is called by a name that the class has.
theorem pyvalue_of_some (ha : f.argument v = some a) (he : f.extend ≠ none) :
    ∃ name, f.pyvalue w.toNat = .error (.attributeError name) := by
  have ⟨ht, _⟩ := argument_some ha
  have ⟨extend, he⟩ := Option.ne_none_iff_exists'.mp he
  simp only [ctype, he, Option.ite_none_right_eq_some] at ht
  have hg : InstructionSetDecoder.getattr ("_" ++ extend) = none := by
    have h : ∀ e ∈ ["thumb_expand_imm", "thumb_sign_extend20", "thumb_sign_extend24",
        "thumb_sign_extend24_EOR"], InstructionSetDecoder.getattr ("_" ++ e) = none := by
      decide
    exact h extend ht.left
  refine ⟨"_" ++ extend, ?_⟩
  simp only [pyvalue, he, hg]
  rfl

end FieldShift

section Arguments

variable {l : List (Var × FieldShift)} {as : List Argument} {w : Word}

-- The values of the variables in an argument list, the last one of each name.
def rawArgs (w : Word) (init : Args) (l : List (Var × FieldShift)) : Args :=
  l.foldl (fun args (v, f) => Function.update args v <| BitVec.ofNat 32 <| f.rawValue w) init

theorem foldlM_value (h : l.mapM (fun (v, f) => f.argument v) = some as)
    (hl : ∀ p ∈ l, p.snd.extend = none ∧ p.snd.rawValue w < 2 ^ p.snd.len) (init : Args) :
    as.foldlM (fun args a => return Function.update args a.var (← a.value w)) init =
    (.ok (rawArgs w init l) : Except Undefined Args) := by
  induction l generalizing as init
  case nil =>
    cases h
    rfl
  case cons p l hi =>
    have ⟨a, ha, as, has, h⟩ := mapM_cons_some_iff.mp h
    subst h
    rw [List.forall_mem_cons] at hl
    have ⟨he, hx⟩ := hl.left
    rw [List.foldlM_cons, FieldShift.argument_value ha he hx,
      FieldShift.argument_some ha |>.right.left]
    exact hi has hl.right _

theorem rawArgs_of_not_mem {init : Args} {v : Var} (h : v ∉ l.map Prod.fst) :
    rawArgs w init l v = init v := by
  induction l generalizing init
  case nil => rfl
  case cons p l hi =>
    rw [List.map_cons, List.mem_cons, not_or] at h
    exact (hi h.right).trans <| Function.update_of_ne h.left _ _

theorem rawArgs_of_mem {init : Args} {v : Var} {f : FieldShift} (hn : (l.map Prod.fst).Nodup)
    (h : (v, f) ∈ l) : rawArgs w init l v = BitVec.ofNat 32 (f.rawValue w) := by
  induction l generalizing init
  case nil => cases h
  case cons p l hi =>
    rw [List.map_cons, List.nodup_cons] at hn
    cases h
    case head => exact (rawArgs_of_not_mem hn.left).trans <| Function.update_self ..
    case tail h => exact hi hn.right h

theorem mapM_pyvalue (hl : ∀ p ∈ l, p.snd.extend = none) :
    l.mapM (fun (v, f) => return (v, ← f.pyvalue w.toNat)) =
    (.ok (l.map fun (v, f) => (v, ↑(f.rawValue w))) : Except PythonError (List (Var × Int))) := by
  induction l
  case nil => rfl
  case cons p l hi =>
    obtain ⟨v, f⟩ := p
    rw [List.forall_mem_cons] at hl
    simp only [List.mapM_cons, FieldShift.pyvalue_of_none hl.left, hi hl.right]
    rfl

theorem mapM_pyvalue_error (h : l.mapM (fun (v, f) => f.argument v) = some as)
    (hl : ∃ p ∈ l, p.snd.extend ≠ none) :
    ∃ name, l.mapM (fun (v, f) => return (v, ← f.pyvalue w.toNat)) =
    (.error (.attributeError name) : Except PythonError (List (Var × Int))) := by
  induction l generalizing as
  case nil => simp at hl
  case cons p l hi =>
    obtain ⟨v, f⟩ := p
    have ⟨a, ha, as, has, h⟩ := mapM_cons_some_iff.mp h
    cases he : f.extend
    case some =>
      have ⟨name, hp⟩ := FieldShift.pyvalue_of_some (w := w) ha <| by simp [he]
      exact ⟨name, by simp only [List.mapM_cons, hp]; rfl⟩
    case none =>
      have ⟨name, hm⟩ := hi has <| by simpa [he] using hl
      exact ⟨name, by simp only [List.mapM_cons, FieldShift.pyvalue_of_none he, hm]; rfl⟩

end Arguments

namespace InsnOpcode

variable {o : InsnOpcode} {b : Opcode} {p : Var × FieldShift} {a : Argument} {w : Word}

theorem branch_some (hb : o.branch = some b) :
    o.itervars.mapM (fun (v, f) => f.argument v) = some b.arguments ∧
    b.variant = o.variant ∧ b.length = o.insnlen / 8 := by
  simp only [branch, Option.bind_eq_bind, Option.bind_eq_some_iff, Option.pure_def,
    Option.some.injEq] at hb
  obtain ⟨as, has, hb⟩ := hb
  subst hb
  exact ⟨has, rfl, rfl⟩

theorem exists_argument (hb : o.branch = some b) (hp : p ∈ o.itervars) :
    ∃ a ∈ b.arguments, p.snd.argument p.fst = some a := by
  have ⟨i, hi⟩ := List.mem_iff_getElem?.mp hp
  have hm := getElem?_of_mapM (branch_some hb).left i
  rw [hi] at hm
  have ⟨a, ha, he⟩ := Option.map_eq_some_iff.mp hm.symm
  exact ⟨a, List.mem_of_getElem? ha, he.symm⟩

theorem exists_of_argument (hb : o.branch = some b) (ha : a ∈ b.arguments) :
    ∃ p ∈ o.itervars, p.snd.argument p.fst = some a := by
  have ⟨i, hi⟩ := List.mem_iff_getElem?.mp ha
  have hm := getElem?_of_mapM (branch_some hb).left i
  rw [hi] at hm
  have ⟨p, hp, he⟩ := Option.map_eq_some_iff.mp hm
  exact ⟨p, List.mem_of_getElem? hp, he⟩

theorem map_var_arguments (hb : o.branch = some b) :
    b.arguments.map Argument.var = o.itervars.map Prod.fst := by
  apply List.ext_getElem?
  intro i
  have hm := getElem?_of_mapM (branch_some hb).left i
  rw [List.getElem?_map, List.getElem?_map]
  cases hp : o.itervars[i]?
  case none =>
    rw [hp, Option.map_none, eq_comm, Option.map_eq_none_iff] at hm
    rw [hm]
    rfl
  case some p =>
    rw [hp] at hm
    have ⟨a, ha, he⟩ := Option.map_eq_some_iff.mp hm.symm
    rw [ha]
    exact congrArg some (FieldShift.argument_some he.symm).right.left

-- No variable has more than 16 bits without an extension, and the names of the variables of an
-- encoding differ.
theorem arguments_opcodes :
    ∀ o ∈ opcodes, (o.arguments.map Argument.var).Nodup ∧ ∀ a ∈ o.arguments, a.type ≠ .uint32 := by
  decide +kernel

theorem toInt_ofNat_rawValue (ho : o ∈ insnSet instructions) (hb : o.branch = some b)
    (hm : b ∈ opcodes) (hp : p ∈ o.itervars) (he : p.snd.extend = none) :
    (BitVec.ofNat 32 (p.snd.rawValue w)).toInt = p.snd.rawValue w := by
  have ⟨a, ha, hpa⟩ := exists_argument hb hp
  have ⟨ht, _⟩ := FieldShift.argument_some hpa
  have hlen : p.snd.len ≤ 16 := by
    by_contra hlen
    have h1 : ¬p.snd.len = 1 := by omega
    have h8 : ¬p.snd.len ≤ 8 := by omega
    simp only [FieldShift.ctype, he, h1, h8, hlen, if_false, Option.ite_none_right_eq_some,
      Option.some.injEq] at ht
    exact (arguments_opcodes b hm).right a ha ht.right.symm
  have hlt : p.snd.rawValue w < 2 ^ 16 :=
    (value_lt ho hp w.toNat).trans_le <| Nat.pow_le_pow_right Nat.two_pos hlen
  have hn : (BitVec.ofNat 32 (p.snd.rawValue w)).toNat = p.snd.rawValue w := by
    rw [BitVec.toNat_ofNat, Nat.mod_eq_of_lt (by omega)]
  rw [BitVec.toInt_eq_toNat_of_lt (by omega), hn]

end InsnOpcode

section

variable {w : Word}

-- The encoding of a word, with its branch.
theorem decode_some {b : Opcode} (hd : decode w = some b) :
    ∃ o, (insnSet instructions).find? (fun o => o.Matches w) = some o ∧
      o ∈ insnSet instructions ∧ o.branch = some b := by
  rw [decode_eq_bind, Option.bind_eq_some_iff] at hd
  have ⟨o, ho, hb⟩ := hd
  exact ⟨o, ho, List.mem_of_find?_eq_some ho, hb⟩

theorem decode_none (hd : decode w = none) :
    (insnSet instructions).find? (fun o => o.Matches w) = none := by
  rw [decode_eq_bind, Option.bind_eq_none_iff] at hd
  rw [Option.eq_none_iff_forall_ne_some]
  intro o ho
  have ⟨i, hi⟩ := List.mem_iff_getElem?.mp <| List.mem_of_find?_eq_some ho
  have ⟨b, hb, _⟩ := exists_branch hi
  exact absurd (hd o ho) <| by simp [hb]

theorem hasExtension_of_decode {b : Opcode} {a : Argument} (hd : decode w = some b)
    (ha : a ∈ b.arguments) (he : a.extension ≠ .plain) : HasExtension w := by
  have ⟨o, ho, _, hb⟩ := decode_some hd
  have ⟨p, hp, hpa⟩ := InsnOpcode.exists_of_argument hb ha
  refine ⟨o, ho, p, hp, fun hn => he ?_⟩
  have ⟨_, _, hext, _⟩ := FieldShift.argument_some hpa
  simpa [hn, Extension.ofName, eq_comm] using hext

theorem bothReject_of_decode (hd : decode w = none) : BothReject w :=
  ⟨decodeInsn_of_none hd, decodeOpcode_of_none <| decode_none hd⟩

theorem sameInstruction_of_decode {b : Opcode} (hd : decode w = some b) (he : ¬HasExtension w) :
    SameInstruction w := by
  have ⟨o, ho, hm, hb⟩ := decode_some hd
  have ⟨hargs, hv, hl⟩ := InsnOpcode.branch_some hb
  have hmem := (Pattern.firstMatch_some hd).left
  have hext : ∀ p ∈ o.itervars, p.snd.extend = none := fun p hp => by
    by_contra hn
    exact he ⟨o, ho, p, hp, hn⟩
  have hnodup : (o.itervars.map Prod.fst).Nodup :=
    InsnOpcode.map_var_arguments hb ▸ (InsnOpcode.arguments_opcodes b hmem).left
  have hc : b.args w = .ok (rawArgs w (fun _ => 0) o.itervars) :=
    foldlM_value hargs (fun p hp => ⟨hext p hp, InsnOpcode.value_lt hm hp _⟩) _
  refine ⟨o, hm, rawArgs w (fun _ => 0) o.itervars, ?_, ?_⟩
  · refine decodeInsn_ok_iff hd |>.mpr ⟨?_, hl.symm⟩
    simp only [Opcode.callHandler, hc, ← hv]
    rfl
  · have hvalues : o.itervars.map (fun (v, f) => (v, (f.rawValue w : Int))) =
        o.itervars.map fun (v, _) => (v, (rawArgs w (fun _ => 0) o.itervars v).toInt) := by
      apply List.map_congr_left
      intro p hp
      have hr : rawArgs w (fun _ => 0) o.itervars p.fst = _ := rawArgs_of_mem hnodup hp
      simp only [hr, InsnOpcode.toInt_ofNat_rawValue hm hb hmem hp <| hext p hp]
    rw [decodeOpcode_of_some ho, InsnOpcode.instruction, mapM_pyvalue hext, hvalues]
    rfl

theorem not_decodersAgree_of_hasExtension (h : HasExtension w) : ¬DecodersAgree w := by
  have ⟨o, ho, hp⟩ := h
  have ⟨i, hi⟩ := List.mem_iff_getElem?.mp <| List.mem_of_find?_eq_some ho
  have ⟨b, hb, _⟩ := exists_branch hi
  have ⟨name, hm⟩ := mapM_pyvalue_error (w := w) (InsnOpcode.branch_some hb).left hp
  have he : decodeOpcode (insnSet instructions) w = .error (.attributeError name) := by
    rw [decodeOpcode_of_some ho, InsnOpcode.instruction, hm]
    rfl
  intro ha
  cases ha
  case inl hr =>
    have hn := hr.right
    rw [he] at hn
    cases hn
  case inr hs =>
    have ⟨_, _, _, _, hn⟩ := hs
    rw [he] at hn
    cases hn

-- The decoders agree on the words whose encoding has no variable with an extension. For the others
-- the Python decoder calls a method that its class does not have.
theorem decodersAgree_iff (w : Word) : DecodersAgree w ↔ ¬HasExtension w := by
  constructor
  case mp => exact fun ha he => not_decodersAgree_of_hasExtension he ha
  case mpr =>
    intro he
    cases hd : decode w
    case none   => exact .inl <| bothReject_of_decode hd
    case some b => exact .inr <| sameInstruction_of_decode hd he

-- `adc r0, r0, #0`
theorem not_forall_decodersAgree : ¬∀ w, DecodersAgree w := by
  intro h
  have hd : (decode 0xf1400000).any
      fun o => o.arguments.any fun a => a.extension = .thumbExpandImm := by decide +kernel
  have ⟨o, hd, ha⟩ := (Option.any_eq_true ..).mp hd
  have ⟨a, ha, he⟩ := List.any_eq_true.mp ha
  refine not_decodersAgree_of_hasExtension (hasExtension_of_decode hd ha ?_) <| h _
  rw [of_decide_eq_true he]
  decide

end
