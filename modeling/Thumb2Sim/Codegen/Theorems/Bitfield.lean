import Thumb2Sim.Codegen.Description
import Thumb2Sim.Codegen.InsnSet

-- The elements of a description with their places, as the generator computes them from the right.
section Located

open Description FieldElement

variable {ν : Type} [DecidableEq ν]

-- An element to the left of `l` with its position.
def FieldElement.numbered (l : List (FieldElement ν)) : FieldElement ν → FieldElement ν
  | variableField name iteration position =>
    variableField name iteration <| position.getD <| unnumbered name l
  | e => e

theorem FieldElement.numbered_length {l : List (FieldElement ν)} (e : FieldElement ν) :
    (e.numbered l).length = e.length := by
  cases e <;> rfl

def located : List (FieldElement ν) → List (FieldElement ν × Nat)
  | []     => []
  | e :: l => (e.numbered l, bitlen l) :: located l

-- The numbers of the next pieces to the left of a description.
def nextPositions (next : ν → Nat) : List (FieldElement ν) → ν → Nat
  | []                             => next
  | variableField name _ none :: l => nextPositions (Function.update next name (next name + 1)) l
  | _ :: l                         => nextPositions next l

variable {l r : List (FieldElement ν)} {next : ν → Nat} {name : ν}

theorem nextPositions_apply :
    nextPositions next r name = next name + unnumbered name r := by
  induction r generalizing next
  case nil => rfl
  case cons e r hi =>
    match e with
    | variableField name' _ none =>
      rw [nextPositions, hi, unnumbered, Function.update_apply]
      grind
    | variableField _ _ (some _) => exact hi
    | constantField ..           => exact hi

theorem unnumbered_append :
    unnumbered name (l ++ r) = unnumbered name l + unnumbered name r := by
  induction l
  case nil => simp [unnumbered]
  case cons e l hi =>
    match e with
    | variableField name' _ none => simp only [List.cons_append, unnumbered, hi]; omega
    | variableField _ _ (some _) => exact hi
    | constantField ..           => exact hi

theorem unnumbered_reverse : unnumbered name l.reverse = unnumbered name l := by
  induction l
  case nil => rfl
  case cons e l hi =>
    rw [List.reverse_cons, unnumbered_append, hi, Nat.add_comm, ← unnumbered_append,
      List.singleton_append]

theorem setPositions_append :
    Bitfield.setPositions next (l ++ r) =
    Bitfield.setPositions next l ++ Bitfield.setPositions (nextPositions next l) r := by
  induction l generalizing next
  case nil => rfl
  case cons e l hi =>
    match e with
    | variableField name' _ none => simp [Bitfield.setPositions, nextPositions, hi]
    | variableField _ _ (some _) => simp [Bitfield.setPositions, nextPositions, hi]
    | constantField ..           => simp [Bitfield.setPositions, nextPositions, hi]

theorem setPositions_singleton {e : FieldElement ν} (h : ∀ name, next name = unnumbered name l) :
    Bitfield.setPositions next [e] = [e.numbered l] := by
  match e with
  | variableField name _ none  => simp [Bitfield.setPositions, numbered, h]
  | variableField _ _ (some _) => rfl
  | constantField ..           => rfl

omit [DecidableEq ν] in
theorem withShiftpos_append {l r : List (FieldElement ν)} {shiftpos : Nat} :
    Bitfield.withShiftpos shiftpos (l ++ r) =
    Bitfield.withShiftpos shiftpos l ++ Bitfield.withShiftpos (shiftpos + bitlen l) r := by
  induction l generalizing shiftpos
  case nil => simp [Bitfield.withShiftpos, bitlen]
  case cons e l hi => simp [Bitfield.withShiftpos, hi, bitlen, Nat.add_assoc]

theorem bitlen_setPositions : bitlen (Bitfield.setPositions next l) = bitlen l := by
  induction l generalizing next
  case nil => rfl
  case cons e l hi =>
    match e with
    | variableField name' _ none => simpa [Bitfield.setPositions, bitlen, length] using hi
    | variableField _ _ (some _) => simpa [Bitfield.setPositions, bitlen] using hi
    | constantField ..           => simpa [Bitfield.setPositions, bitlen] using hi

theorem withShiftpos_setPositions :
    Bitfield.withShiftpos 0 (Bitfield.setPositions (fun _ => 0) l.reverse) =
    (located l).reverse := by
  induction l
  case nil => rfl
  case cons e l hi =>
    have hn name : nextPositions (fun _ => 0) l.reverse name = unnumbered name l := by
      rw [nextPositions_apply, unnumbered_reverse, Nat.zero_add]
    rw [List.reverse_cons, setPositions_append, setPositions_singleton hn, withShiftpos_append, hi,
      bitlen_setPositions]
    simp [Bitfield.withShiftpos, located, bitlen]

end Located

-- The fixed bits: the mask and the value have them in the places of the fixed elements.
section Constants

open Description FieldElement

variable {ν : Type} [DecidableEq ν] {l : List (FieldElement ν)} {word : Nat}

theorem fixedBits_iff_window {n lo : Nat} {value : BitVec n} :
    (∀ i < n, word.testBit (lo + i) = value.getLsbD i) ↔ Bits.window word lo n = value.toNat := by
  constructor
  case mp =>
    intro h
    apply Nat.eq_of_testBit_eq
    intro i
    rw [Bits.testBit_window, ← BitVec.getLsbD]
    by_cases hi : i < n
    case pos => simp [hi, h i hi]
    case neg => simp [hi, BitVec.getLsbD_of_ge value i <| Nat.not_lt.mp hi]
  case mpr =>
    intro h i hi
    rw [BitVec.getLsbD, ← h, Bits.testBit_window]
    simp [hi]

-- A mask with at most one component, at distance zero, and the value under it.
structure IsMask (f : FieldShift) (m : Nat) : Prop where
  components : f.components = [] ∧ m = 0 ∨ f.components = [⟨m, 0⟩]

theorem IsMask.staticmask {f : FieldShift} {m m' : Nat} (h : IsMask f m)
    (hs : f.staticmask = some m') : m' = m := by
  cases h.components
  case inl hc => simp [FieldShift.staticmask, hc.left] at hs
  case inr hc => simpa [FieldShift.staticmask, hc, eq_comm] using hs

theorem IsMask.add {f : FieldShift} {m : Nat} (h : IsMask f m) (lo n : Nat) :
    IsMask (f.add lo n lo) ((1 <<< n - 1) <<< lo ||| m) := by
  constructor
  cases h.components
  case inl hc => simp [FieldShift.add, FieldShift.addComponent, hc]
  case inr hc => simp [FieldShift.add, FieldShift.addComponent, hc]

omit [DecidableEq ν] in
theorem constants_append {r : List (FieldElement ν × Nat)} {e : FieldElement ν} {shiftpos : Nat} :
    Bitfield.constants (r ++ [(e, shiftpos)]) =
    match e with
    | constantField (n := n) v false =>
      ((Bitfield.constants r).fst.add shiftpos n shiftpos,
        (Bitfield.constants r).snd ||| v.toNat <<< shiftpos)
    | _ => Bitfield.constants r := by
  rw [Bitfield.constants, List.foldl_append]
  rfl

-- The mask and the value of a description have bits in its places only, and a word has this value
-- under the mask if and only if it has the fixed bits.
theorem constants_located :
    ∃ m, IsMask (Bitfield.constants (located l).reverse).fst m ∧ m < 2 ^ bitlen l ∧
    (Bitfield.constants (located l).reverse).snd < 2 ^ bitlen l ∧
    ∀ word, word &&& m = (Bitfield.constants (located l).reverse).snd ↔ FixedBitsMatch word l := by
  induction l
  case nil =>
    refine ⟨0, ⟨.inl ⟨rfl, rfl⟩⟩, Nat.one_pos, Nat.one_pos, ?_⟩
    simp [located, Bitfield.constants, FixedBitsMatch]
  case cons e l hi =>
    have ⟨m, hm, hlt, hv, hiff⟩ := hi
    have hle : 2 ^ bitlen l ≤ 2 ^ bitlen (e :: l) := Nat.pow_le_pow_right Nat.two_pos bitlen_le_cons
    rw [located, List.reverse_cons, constants_append]
    match e with
    | constantField (n := n) v false =>
      rw [bitlen_cons, length] at hle ⊢
      refine ⟨_, hm.add (bitlen l) n, ?_, ?_, ?_⟩
      · exact Nat.or_lt_two_pow (Bits.mask_lt ..) (hlt.trans_le hle)
      · exact Nat.or_lt_two_pow (hv.trans_le hle) <| Nat.add_comm .. ▸ Nat.shiftLeft_lt v.isLt
      · intro word
        rw [FixedBitsMatch, fixedBits_iff_window, ← hiff]
        exact Bits.and_field_iff hlt hv
    | constantField v true =>
      exact ⟨m, hm, hlt.trans_le hle, hv.trans_le hle, hiff⟩
    | variableField .. =>
      exact ⟨m, hm, hlt.trans_le hle, hv.trans_le hle, hiff⟩

-- The value has no bits outside of the mask.
theorem constants_and_mask :
    ∃ m, IsMask (Bitfield.constants (located l).reverse).fst m ∧
    (Bitfield.constants (located l).reverse).snd &&& m =
      (Bitfield.constants (located l).reverse).snd := by
  induction l
  case nil => exact ⟨0, ⟨.inl ⟨rfl, rfl⟩⟩, Nat.and_zero _⟩
  case cons e l hi =>
    have ⟨m, hm, hv⟩ := hi
    rw [located, List.reverse_cons, constants_append]
    match e with
    | constantField (n := n) v false =>
      refine ⟨_, hm.add (bitlen l) n, ?_⟩
      have hf : v.toNat <<< bitlen l &&& (1 <<< n - 1) <<< bitlen l = v.toNat <<< bitlen l := by
        rw [Bits.and_shiftLeft_iff, Nat.shiftLeft_shiftRight, Nat.one_shiftLeft,
          Nat.and_two_pow_sub_one_of_lt_two_pow v.isLt]
      exact Bits.or_and_or hv hf
    | constantField v true => exact ⟨m, hm, hv⟩
    | variableField ..     => exact ⟨m, hm, hv⟩

end Constants

-- The variables: every bit of a piece is moved to its place in the value.
section Variables

open Description FieldElement

variable {f : FieldShift} {x i k : Nat}

-- The components move bit `k` to place `i`.
def Moves (l : List FieldElem) (k i : Nat) : Prop :=
  ∃ c ∈ l, (k + c.shl : Int) = i ∧ c.srcmask.testBit k

theorem moves_cons {e : FieldElem} {l : List FieldElem} :
    Moves (e :: l) k i ↔ (k + e.shl : Int) = i ∧ e.srcmask.testBit k ∨ Moves l k i := by
  simp [Moves]

theorem moves_addComponent {e : FieldElem} {l : List FieldElem} :
    Moves (FieldShift.addComponent e l) k i ↔
    (k + e.shl : Int) = i ∧ e.srcmask.testBit k ∨ Moves l k i := by
  induction l
  case nil => exact moves_cons
  case cons c l hi =>
    rw [FieldShift.addComponent]
    split
    case isTrue h =>
      simp only [moves_cons, Nat.testBit_or, Bool.or_eq_true]
      grind
    case isFalse =>
      rw [moves_cons, hi, moves_cons]
      grind

theorem moves_add {src n dst : Nat} :
    Moves (f.add src n dst).components k i ↔
    (∃ j < n, k = src + j ∧ i = dst + j) ∨ Moves f.components k i := by
  rw [FieldShift.add, moves_addComponent, Bits.testBit_mask, decide_eq_true_eq]
  apply or_congr_left
  constructor
  case mp =>
    intro ⟨hi, hk⟩
    exact ⟨k - src, by omega, by omega, by simp only at hi; omega⟩
  case mpr =>
    intro ⟨j, hj, hk, hi⟩
    exact ⟨by simp only; omega, by omega⟩

-- The bits that are moved to the place `i` are those of the pieces one behind the other.
theorem moves_addComponents {d : Nat} {l : List VarComponent} :
    (∃ k, Moves (Bitfield.addComponents f d l).components k i ∧ x.testBit k) ↔
    (∃ k, Moves f.components k i ∧ x.testBit k) ∨ d ≤ i ∧ (valueOf x l).testBit (i - d) := by
  induction l generalizing f d
  case nil => simp [Bitfield.addComponents, valueOf, Bits.concat]
  case cons c l hi =>
    have hp : (∃ k, Moves (f.add c.shiftpos c.len d).components k i ∧ x.testBit k) ↔
        (∃ j < c.len, i = d + j ∧ x.testBit (c.shiftpos + j)) ∨
        ∃ k, Moves f.components k i ∧ x.testBit k := by
      simp only [moves_add, or_and_right, exists_or]
      apply or_congr_left
      constructor
      case mp =>
        rintro ⟨_, ⟨j, hj, hk, hi⟩, hx⟩
        exact ⟨j, hj, hi, hk ▸ hx⟩
      case mpr =>
        rintro ⟨j, hj, hi, hx⟩
        exact ⟨_, ⟨j, hj, rfl, hi⟩, hx⟩
    rw [Bitfield.addComponents, hi, hp, or_comm (a := ∃ j < c.len, _), or_assoc]
    apply or_congr_right
    simp only [valueOf, List.map_cons, Bits.testBit_concat]
    constructor
    case mp =>
      intro h
      cases h
      case inl h =>
        obtain ⟨j, hj, hi, hx⟩ := h
        simp [hi, hj, hx]
      case inr h =>
        have : ¬i - d < c.len := by omega
        simp only [this, if_false]
        exact ⟨by omega, Nat.sub_sub i d _ ▸ h.right⟩
    case mpr =>
      rintro ⟨hd, h⟩
      split at h
      case isTrue hl  => exact .inl ⟨i - d, hl, by omega, h⟩
      case isFalse hl => exact .inr ⟨by omega, Nat.sub_sub i d _ ▸ h⟩

theorem testBit_origcexpressionValue {l : List ShiftTerm} :
    (origcexpressionValue l x).testBit i ↔ ∃ t ∈ l, (t.value x).testBit i := by
  have h (y : Nat) : (l.foldl (fun y (t : ShiftTerm) => y ||| t.value x) y).testBit i ↔
      y.testBit i ∨ ∃ t ∈ l, (t.value x).testBit i := by
    induction l generalizing y
    case nil => simp
    case cons t l hi => simp [hi, or_assoc]
  simpa [origcexpressionValue] using h 0

theorem ShiftTerm.testBit_value {t : ShiftTerm} :
    (t.value x).testBit i ↔ ∃ j : Nat, (j + t.shl : Int) = i ∧ t.mask.testBit j ∧ x.testBit j := by
  rw [ShiftTerm.value]
  split
  case isTrue h =>
    simp only [Nat.testBit_shiftLeft, Nat.testBit_and, Bool.and_eq_true, decide_eq_true_eq]
    constructor
    case mp  => exact fun ⟨hi, hx, hm⟩ => ⟨i - t.shl.toNat, by omega, hm, hx⟩
    case mpr =>
      intro ⟨j, hj, hm, hx⟩
      rw [show i - t.shl.toNat = j by omega]
      exact ⟨by omega, hx, hm⟩
  case isFalse h =>
    have hv : (if t.shl = 0 then x &&& t.mask else (x &&& t.mask) >>> (-t.shl).toNat) =
        (x &&& t.mask) >>> (-t.shl).toNat := by
      split
      case isTrue hz  => simp [hz]
      case isFalse hz => rfl
    simp only [hv, Nat.testBit_shiftRight, Nat.testBit_and, Bool.and_eq_true]
    constructor
    case mp  => exact fun ⟨hx, hm⟩ => ⟨(-t.shl).toNat + i, by omega, hm, hx⟩
    case mpr =>
      intro ⟨j, hj, hm, hx⟩
      rw [show (-t.shl).toNat + i = j by omega]
      exact ⟨hx, hm⟩

-- In an encoding that is widened, the bits are taken from places further to the left.
theorem testBit_origcexpression :
    (origcexpressionValue f.origcexpression x).testBit i ↔
    ∃ k, Moves f.components k i ∧ (x >>> f.shl).testBit k := by
  simp only [testBit_origcexpressionValue, FieldShift.origcexpression, ShiftTerm.testBit_value,
    List.mem_map, List.mem_insertionSort, Moves, Nat.testBit_shiftRight]
  constructor
  case mp =>
    intro ⟨_, ⟨c, hc, ht⟩, j, hj, hm, hx⟩
    subst ht
    rw [Nat.testBit_shiftLeft, Bool.and_eq_true, decide_eq_true_eq] at hm
    simp only at hj
    refine ⟨j - f.shl, ⟨c, hc, by omega, hm.right⟩, ?_⟩
    rwa [Nat.add_sub_cancel' hm.left]
  case mpr =>
    intro ⟨k, ⟨c, hc, hi, hm⟩, hx⟩
    refine ⟨_, ⟨c, hc, rfl⟩, f.shl + k, by simp only; omega, ?_, hx⟩
    simpa using hm

-- The value in C has the lowest 32 bits of the value of an unbounded integer.
theorem ShiftTerm.extract_piece (t : ShiftTerm) (opcode : Word) :
    t.piece.extract opcode = BitVec.ofNat 32 (t.value opcode.toNat) := by
  have hlt : opcode.toNat &&& t.mask < 2 ^ 32 := Nat.lt_of_le_of_lt Nat.and_le_left opcode.isLt
  have hand : opcode &&& BitVec.ofNat 32 t.mask = BitVec.ofNat 32 (opcode.toNat &&& t.mask) := by
    rw [BitVec.ofNat_and, BitVec.ofNat_toNat, BitVec.setWidth_eq]
  rw [Piece.extract, ShiftTerm.value, ShiftTerm.piece, hand]
  generalize opcode.toNat &&& t.mask = v at hlt
  apply BitVec.eq_of_toNat_eq
  split
  case isTrue h =>
    have hs : ¬t.shl > 0 := by simp only at h; omega
    rw [if_neg hs, BitVec.toNat_ushiftRight, BitVec.toNat_ofNat, Nat.mod_eq_of_lt hlt]
    split
    case isTrue hz  => rw [hz, BitVec.toNat_ofNat, Nat.mod_eq_of_lt hlt]; rfl
    case isFalse hz =>
      rw [BitVec.toNat_ofNat, Nat.mod_eq_of_lt]
      exact Nat.lt_of_le_of_lt (Nat.shiftRight_le ..) hlt
  case isFalse h =>
    have hs : t.shl > 0 := by simp only at h; omega
    rw [if_pos hs, BitVec.toNat_shiftLeft, BitVec.toNat_ofNat, Nat.mod_eq_of_lt hlt, neg_neg,
      BitVec.toNat_ofNat]

theorem foldl_extract_piece (l : List ShiftTerm) (opcode : Word) :
    (l.map ShiftTerm.piece).foldl (fun x p => x ||| p.extract opcode) 0 =
    BitVec.ofNat 32 (origcexpressionValue l opcode.toNat) := by
  have h (y : Nat) :
      (l.map ShiftTerm.piece).foldl (fun x p => x ||| p.extract opcode) (BitVec.ofNat 32 y) =
      BitVec.ofNat 32 (l.foldl (fun x (t : ShiftTerm) => x ||| t.value opcode.toNat) y) := by
    induction l generalizing y
    case nil => rfl
    case cons t l hi =>
      rw [List.map_cons, List.foldl_cons, List.foldl_cons, ← hi, t.extract_piece, BitVec.ofNat_or]
  exact h 0

end Variables

section Accepted

open Description FieldElement

variable {ν : Type} [DecidableEq ν] {l : List (FieldElement ν)} {b : Bitfield ν} {name : ν}

theorem varcomponents_located :
    Bitfield.varcomponents (located l).reverse name = (pieces name l).reverse := by
  rw [Bitfield.varcomponents, List.filterMap_reverse]
  apply congrArg
  induction l
  case nil => rfl
  case cons e l hi =>
    match e with
    | constantField ..                     => exact hi
    | variableField name' iteration position =>
      rw [located, List.filterMap_cons, pieces, hi]
      by_cases hn : name' = name
      case pos => simp [numbered, hn]
      case neg => simp [numbered, hn]

theorem sum_length_pieces_le : ((pieces name l).map VarComponent.len).sum ≤ bitlen l := by
  induction l
  case nil => simp [pieces]
  case cons e l hi =>
    match e with
    | constantField .. => exact hi.trans bitlen_le_cons
    | variableField name' iteration position =>
      rw [pieces, bitlen_cons]
      split
      case isTrue  => simpa [length, Nat.add_comm] using hi
      case isFalse => exact hi.trans <| Nat.le_add_right ..

theorem make_eq_some_iff :
    Bitfield.make l = some b ↔
    ∃ m, (Bitfield.constants (located l).reverse).fst.staticmask = some m ∧ b = {
      bitlen        := bitlen l
      constantValue := (Bitfield.constants (located l).reverse).snd
      constantMask  := m
      vars          := (Bitfield.varnames (located l).reverse).map fun v =>
        (v, Bitfield.fieldShift (pieces v l).reverse)
      widento       := none
    } := by
  have hb : ((located l).reverse.map fun e => e.fst.length).sum = bitlen l := by
    rw [List.map_reverse, List.sum_reverse]
    induction l
    case nil => rfl
    case cons e l hi => rw [located, List.map_cons, List.sum_cons, hi, numbered_length]; rfl
  simp only [Bitfield.make, withShiftpos_setPositions, varcomponents_located, hb,
    Option.bind_eq_bind, Option.bind_eq_some_iff, Option.pure_def, Option.some.injEq,
    eq_comm (a := b)]

theorem make_bitlen (hb : Bitfield.make l = some b) : b.bitlen = bitlen l := by
  have ⟨_, _, hb⟩ := make_eq_some_iff.mp hb
  rw [hb]

theorem mem_varnames : name ∈ Bitfield.varnames (located l).reverse ↔ pieces name l ≠ [] := by
  rw [Bitfield.varnames, List.mem_eraseDups, List.filterMap_reverse, List.mem_reverse]
  induction l
  case nil => simp [located, pieces]
  case cons e l hi =>
    match e with
    | constantField ..                       => exact hi
    | variableField name' iteration position =>
      rw [located, List.filterMap_cons, pieces]
      by_cases hn : name' = name
      case pos => simp [numbered, hn]
      case neg => simpa [numbered, hn, Ne.symm hn] using hi

theorem pieces_ne_nil {iteration : Nat} {position : Option Nat}
    (h : variableField name iteration position ∈ l) : pieces name l ≠ [] := by
  induction l
  case nil => cases h
  case cons e l hi =>
    cases h
    case head => simp [pieces]
    case tail h =>
      match e with
      | constantField .. => exact hi h
      | variableField .. =>
        rw [pieces]
        split
        case isTrue  => simp
        case isFalse => exact hi h

theorem getitem_widen (hb : Bitfield.make l = some b) (hn : pieces name l ≠ []) :
    (b.widen 32).getitem name =
    some ((Bitfield.fieldShift (pieces name l).reverse).setshl (32 - bitlen l)) := by
  have ⟨m, _, hb⟩ := make_eq_some_iff.mp hb
  have hl := List.lookup_graph (fun v => Bitfield.fieldShift (pieces v l).reverse) <|
    mem_varnames.mpr hn
  rw [Bitfield.getitem, hb]
  simp [Bitfield.widen, Bitfield.widenshiftleft, hl]

-- The pieces as the generator orders them.
theorem isValue_insertionSort (word : Nat) (h : (pieces name l).map VarComponent.position |>.Nodup) :
    IsValue word l name <|
      valueOf word ((pieces name l).reverse.insertionSort (·.position ≤ ·.position)) := by
  have hp := (List.perm_insertionSort (fun c d : VarComponent => c.position ≤ d.position)
    (pieces name l).reverse).trans <| List.reverse_perm _
  refine ⟨_, hp, ?_, rfl⟩
  have hs := List.pairwise_insertionSort (fun c d : VarComponent => c.position ≤ d.position)
    (pieces name l).reverse
  have hd : List.Pairwise (fun c d : VarComponent => c.position ≠ d.position) _ :=
    List.pairwise_map.mp <| (hp.map VarComponent.position).nodup_iff.mpr h
  exact hs.imp₂ (fun _ _ hle hne => Nat.lt_of_le_of_ne hle hne) hd

theorem valueOf_insertionSort_lt (x : Nat) :
    valueOf x ((pieces name l).reverse.insertionSort (·.position ≤ ·.position)) < 2 ^ bitlen l := by
  have hp := (List.perm_insertionSort (fun c d : VarComponent => c.position ≤ d.position)
    (pieces name l).reverse).trans <| List.reverse_perm _
  refine Bits.concat_lt.trans_le <| Nat.pow_le_pow_right Nat.two_pos ?_
  rw [List.map_map]
  exact (hp.map _).sum_nat.trans_le sum_length_pieces_le

theorem value_fieldShift {l : List VarComponent} {x : Nat} (shl : Nat) :
    origcexpressionValue ((Bitfield.fieldShift l).setshl shl).origcexpression x =
    valueOf (x >>> shl) (l.insertionSort (·.position ≤ ·.position)) := by
  apply Nat.eq_of_testBit_eq
  intro i
  have he : ¬∃ k, Moves FieldShift.empty.components k i ∧ (x >>> shl).testBit k := by
    simp [Moves, FieldShift.empty]
  rw [Bool.eq_iff_iff, testBit_origcexpression]
  refine moves_addComponents.trans ?_
  exact (or_iff_right he).trans <| and_iff_right i.zero_le

theorem len_addComponents {f : FieldShift} {d : Nat} {l : List VarComponent} :
    (Bitfield.addComponents f d l).len = f.len + (l.map VarComponent.len).sum := by
  induction l generalizing f d
  case nil => rfl
  case cons c l hi =>
    rw [Bitfield.addComponents, hi, FieldShift.add, List.map_cons, List.sum_cons, Nat.add_assoc]

-- The value of a variable has as many bits as its pieces.
theorem value_lt_of_mem {f : FieldShift} (hb : Bitfield.make l = some b) (hf : (name, f) ∈ b.vars)
    (shl x : Nat) : origcexpressionValue (f.setshl shl).origcexpression x < 2 ^ f.len := by
  have ⟨_, _, hb⟩ := make_eq_some_iff.mp hb
  rw [hb, List.mem_map] at hf
  have ⟨_, _, hf⟩ := hf
  cases hf
  rw [value_fieldShift, Bitfield.fieldShift, len_addComponents, FieldShift.empty, Nat.zero_add]
  refine Bits.concat_lt.trans_eq ?_
  rw [List.map_map]
  rfl

theorem constantcmp_iff (hb : Bitfield.make l = some b) (opcode : Nat) :
    opcode &&& (b.widen 32).constantmask = (b.widen 32).constantcmp ↔
    FixedBitsMatch (opcode >>> (32 - bitlen l)) l := by
  have ⟨m, hm, hb⟩ := make_eq_some_iff.mp hb
  have ⟨m', hm', _, _, hiff⟩ := constants_located (l := l)
  rw [← hiff, ← hm'.staticmask hm, hb]
  exact Bits.and_shiftLeft_iff

theorem constantmask_lt (hb : Bitfield.make l = some b) (hl : bitlen l ≤ 32) :
    (b.widen 32).constantmask < 2 ^ 32 ∧ (b.widen 32).constantcmp < 2 ^ 32 := by
  have ⟨m, hm, hb⟩ := make_eq_some_iff.mp hb
  have ⟨m', hm', hlt, hv, _⟩ := constants_located (l := l)
  rw [← hm'.staticmask hm] at hlt
  have hs {x : Nat} (hx : x < 2 ^ bitlen l) : x <<< (32 - bitlen l) < 2 ^ 32 := by
    rw [show 32 = bitlen l + (32 - bitlen l) by omega, Nat.add_sub_cancel_left]
    exact Nat.shiftLeft_lt hx
  rw [hb]
  exact ⟨hs hlt, hs hv⟩

-- The generated decoder takes the fixed bits and the variables out of an opcode as its description
-- says, in Python and in C.
theorem Description.make_correct (hb : Bitfield.make l = some b) (hl : bitlen l = 16 ∨ bitlen l = 32)
    (hd : ∀ name, ((pieces name l).map VarComponent.position).Nodup) (opcode : Word) :
    (opcode.toNat &&& (b.widen 32).constantmask = (b.widen 32).constantcmp ↔
      FixedBitsMatch (opcode.toNat >>> (32 - bitlen l)) l) ∧
    ∀ name iteration position, variableField name iteration position ∈ l →
      ∃ f, (b.widen 32).getitem name = some f ∧
        IsValue (opcode.toNat >>> (32 - bitlen l)) l name
          (origcexpressionValue f.origcexpression opcode.toNat) ∧
        ∀ a : Argument, a.pieces = f.origcexpression.map ShiftTerm.piece →
          IsValue (opcode.toNat >>> (32 - bitlen l)) l name (a.extract opcode).toNat := by
  refine ⟨constantcmp_iff hb _, fun name _ _ hmem => ?_⟩
  refine ⟨_, getitem_widen hb <| pieces_ne_nil hmem, ?_⟩
  have hv := isValue_insertionSort (opcode.toNat >>> (32 - bitlen l)) (hd name)
  rw [← value_fieldShift] at hv
  refine ⟨hv, fun a ha => ?_⟩
  have hlt : origcexpressionValue _ opcode.toNat < 2 ^ 32 :=
    value_fieldShift (l := (pieces name l).reverse) (32 - bitlen l) ▸
      (valueOf_insertionSort_lt _).trans_le (Nat.pow_le_pow_right Nat.two_pos <| by omega)
  rwa [Argument.extract, ha, foldl_extract_piece, BitVec.toNat_ofNat, Nat.mod_eq_of_lt hlt]

-- The sample `1010 Rd{4}.0 0101 Rd{4}.1`.
theorem Description.make_correct_sample :
    ∃ b f,
      Bitfield.make [.fixed 0b1010#4, .varAt Var.Rd 4 0, .fixed 0b0101#4, .varAt .Rd 4 1] = some b ∧
      (b.widen 32).getitem .Rd = some f ∧
      IsValue 0xa354 [.fixed 0b1010#4, .varAt Var.Rd 4 0, .fixed 0b0101#4, .varAt .Rd 4 1] .Rd
        (origcexpressionValue f.origcexpression 0xa354beef) ∧
      origcexpressionValue f.origcexpression 0xa354beef = 0x43 := by
  have hd (name : Var) : ((pieces name [.fixed 0b1010#4, .varAt .Rd 4 0, .fixed 0b0101#4,
      .varAt .Rd 4 1]).map VarComponent.position).Nodup := by
    simp only [pieces, fixed, varAt]
    by_cases h : Var.Rd = name
    case pos => simp [h]
    case neg => simp [h]
  have ⟨f, hf, hv, _⟩ :=
    Description.make_correct (b := (Bitfield.make _).get rfl) (Option.some_get _).symm (.inl rfl) hd
      0xa354beef |>.right .Rd 4 (some 0) (by simp [varAt])
  refine ⟨_, f, (Option.some_get _).symm, hf, hv, ?_⟩
  cases hf
  decide

end Accepted
