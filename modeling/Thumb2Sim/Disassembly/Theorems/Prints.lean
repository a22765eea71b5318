import Thumb2Sim.Disassembly.Basic

open Program Output

section

variable {size : Nat}

-- The programs print a text, the second one if there is room for it.
structure Writes (pc : Word) (itState itCond : Byte) (t : String) (m : Disas String Unit)
    (m' : Disas (Buffer size) Unit) : Prop where
  whole   : ∀ b, m ⟨pc, itState, itCond, b⟩ = .ok ((), ⟨pc, itState, itCond, b ++ t⟩)
  bounded : ∀ b, b.text.length + t.length < size →
    m' ⟨pc, itState, itCond, b⟩ = .ok ((), ⟨pc, itState, itCond, print b t⟩)

-- The text has at most `n` characters, and does not depend on the state of the IT block.
def Prints (n : Nat) (m : Disas String Unit) (m' : Disas (Buffer size) Unit) : Prop :=
  ∀ pc, ∃ t : String, t.length ≤ n ∧ ∀ itState itCond, Writes pc itState itCond t m m'

end

namespace Writes

variable {size : Nat} {m p : Disas String Unit} {m' p' : Disas (Buffer size) Unit} {pc : Word}
  {itState itCond : Byte} {t u msg : String}

theorem pure : Writes pc itState itCond "" (pure ()) (Pure.pure () : Disas (Buffer size) Unit) where
  whole   := fun b => by rw [String.append_empty]; rfl
  bounded := fun b hb => by rw [Buffer.print_empty]; rfl

theorem print : Writes pc itState itCond msg (Disassembly.printDisassembly msg)
    (Disassembly.printDisassembly msg : Disas (Buffer size) Unit) where
  whole   := fun _ => rfl
  bounded := fun _ _ => rfl

theorem bind (h : Writes pc itState itCond t m m') (h' : Writes pc itState itCond u p p') :
    Writes pc itState itCond (t ++ u) (m >>= fun _ => p) (m' >>= fun _ => p') where
  whole   := fun b => by rw [bind_of_ok (h.whole b), h'.whole, String.append_assoc]
  bounded := fun b hb => by
    have hl := hb
    rw [String.length_append] at hl
    have hp : (Output.print b t).text.length = b.text.length + t.length := by
      rw [Buffer.print_text (by omega), String.length_append]
    rw [bind_of_ok (h.bounded b (by omega)), h'.bounded _ (by omega), Buffer.print_print hb]

theorem ite {c : Prop} [Decidable c] (h : c → Writes pc itState itCond t m m')
    (h' : ¬c → Writes pc itState itCond u p p') :
    Writes pc itState itCond (if c then t else u) (if c then m else p) (if c then m' else p') := by
  split
  case isTrue hc  => exact h hc
  case isFalse hc => exact h' hc

theorem when {c : Prop} [Decidable c] (h : c → Writes pc itState itCond t m m') :
    Writes pc itState itCond (if c then t else "") (when c m) (Program.when c m') := by
  unfold Program.when
  simp only [decide_eq_true_eq]
  exact ite h fun _ => pure

end Writes

namespace Prints

variable {size k n : Nat} {m p : Disas String Unit} {m' p' : Disas (Buffer size) Unit}
  {msg : String}

theorem mono (h : Prints k m m') (hk : k ≤ n) : Prints n m m' := by
  intro pc
  have ⟨t, ht, hw⟩ := h pc
  exact ⟨t, ht.trans hk, hw⟩

theorem pure : Prints n (pure ()) (Pure.pure () : Disas (Buffer size) Unit) :=
  fun _ => ⟨"", n.zero_le, fun _ _ => .pure⟩

theorem print (h : msg.length ≤ n) : Prints n (Disassembly.printDisassembly msg)
    (Disassembly.printDisassembly msg : Disas (Buffer size) Unit) :=
  fun _ => ⟨msg, h, fun _ _ => .print⟩

theorem bind (h : Prints k m m') (h' : Prints n p p') :
    Prints (k + n) (m >>= fun _ => p) (m' >>= fun _ => p') := by
  intro pc
  have ⟨t, ht, hw⟩ := h pc
  have ⟨u, hu, hw'⟩ := h' pc
  exact ⟨t ++ u, by rw [String.length_append]; omega, fun s c => hw s c |>.bind <| hw' s c⟩

theorem ite {c : Prop} [Decidable c] (h : Prints n m m') (h' : Prints n p p') :
    Prints n (if c then m else p) (if c then m' else p') := by
  split
  case isTrue  => exact h
  case isFalse => exact h'

theorem when {c : Bool} (h : Prints n m m') : Prints n (when c m) (Program.when c m') := by
  cases c
  case false => exact pure
  case true  => exact h

end Prints

namespace Disassembly

variable {size n : Nat}

-- The parts of the text behind the name of an opcode.

def flagsSuffix (itState : Byte) (aFlags : BitVec 16) : String :=
  if aFlags &&& opcodeSetflags ≠ 0 ∨
    itState &&& 0x03 = itNone ∧ aFlags &&& opcodeSetflagsIfUncond ≠ 0 then "s" else ""

-- The condition of an instruction inside of an IT block.
def itSuffix (itState itCond : Byte) : String :=
  if itState &&& 0x03 = itThen then ccString itCond else
    if itState &&& 0x03 = itElse then ccString (itCond ^^^ 1) else ""

def condSuffix (itState itCond : Byte) (aFlags : BitVec 16) : String :=
  if aFlags &&& opcodeForceCondition = 0 then itSuffix itState itCond else
    ccString (((aFlags &&& 0xf00) >>> 8).setWidth 8)

def widthSuffix (aFlags : BitVec 16) : String :=
  if aFlags &&& opcodeWide ≠ 0 then ".w" else if aFlags &&& opcodeNarrow ≠ 0 then ".n" else ""

variable {pc : Word} {itState itCond : Byte} {aOpcode : String} {aFlags : BitVec 16}

theorem writes_printOpcode : Writes pc itState itCond
    (aOpcode ++ (flagsSuffix itState aFlags ++
      (condSuffix itState itCond aFlags ++ widthSuffix aFlags)))
    (printOpcode aOpcode aFlags) (printOpcode aOpcode aFlags : Disas (Buffer size) Unit) := by
  have hf : Writes pc itState itCond (flagsSuffix itState aFlags) _
      (printSetflags (itState &&& 0x03) aFlags : Disas (Buffer size) Unit) :=
    .when fun _ => .print
  have hc : Writes pc itState itCond (condSuffix itState itCond aFlags) _
      (printCondition (itState &&& 0x03) itCond aFlags : Disas (Buffer size) Unit) :=
    .ite (fun _ => .ite (fun _ => .print) fun _ => .when fun _ => .print) fun _ => .print
  have hw : Writes pc itState itCond (widthSuffix aFlags) _
      (printWidth aFlags : Disas (Buffer size) Unit) :=
    .ite (fun _ => .print) fun _ => .when fun _ => .print
  have hn : Writes pc itState itCond aOpcode _ (_ : Disas (Buffer size) Unit) := .print
  have h := hn.bind <| hf.bind <| hc.bind hw
  exact ⟨h.whole, h.bounded⟩

-- The lengths of the texts.

theorem regString_length (r : RegNo) : (regString r).length ≤ 2 := by
  unfold regString
  split <;> decide

theorem ccString_length (c : Byte) : (ccString c).length ≤ 2 := by
  unfold ccString
  split <;> decide

theorem unsigned_length (x : Word) : (unsigned x).length ≤ 10 :=
  Nat.length_repr_le_iff (by decide) |>.mpr <| x.isLt.trans (by decide)

theorem decimal_length (x : Word) : (decimal x).length ≤ 11 := by
  have hl := x.le_toInt
  have hu := x.toInt_lt
  unfold decimal
  cases h : x.toInt
  case ofNat k =>
    rw [h, Int.ofNat_eq_natCast] at hu
    have hk : k.repr.length ≤ 10 := Nat.length_repr_le_iff (by decide) |>.mpr (by omega)
    exact hk.trans (by decide)
  case negSucc k =>
    have hk : (k + 1).repr.length ≤ 10 := Nat.length_repr_le_iff (by decide) |>.mpr (by omega)
    change ("-" ++ (k + 1).repr).length ≤ 11
    rw [String.length_append, Nat.add_comm]
    exact Nat.add_le_add_right hk 1

theorem hex_length (x : Word) : (hex x).length ≤ 8 := by
  rw [hex, String.length_ofList]
  exact Nat.length_toDigits_le_iff (by decide) (by decide) |>.mpr x.isLt

theorem printS_length (t i : Byte) : (printS t i).length ≤ 10 := by
  have h (i : Byte) : i.toNat.repr.length ≤ 3 :=
    Nat.length_repr_le_iff (by decide) |>.mpr <| i.isLt.trans (by decide)
  have hi := h i
  have hz := h 32
  unfold printS
  have hc : ", lsl #".length = 7 ∧ ", lsr #".length = 7 ∧ ", asr #".length = 7 ∧
      ", ror #".length = 7 ∧ ", rrx".length = 5 := by
    decide
  split_ifs <;> simp only [String.length_append, hc] <;> omega

-- A bound of the length of a text, by the parts that the text is made of.
class Short (s : String) (n : outParam Nat) : Prop where
  length_le : s.length ≤ n

namespace Short

variable {s t : String} {k : Nat}

instance (priority := low) literal : Short s s.length :=
  ⟨Nat.le_refl _⟩

instance append [hs : Short s n] [ht : Short t k] : Short (s ++ t) (n + k) where
  length_le := by
    rw [String.length_append]
    exact Nat.add_le_add hs.length_le ht.length_le

instance toString [hs : Short s n] : Short (ToString.toString s) n :=
  hs

instance regString (r : RegNo) : Short (Disassembly.regString r) 2 :=
  ⟨regString_length r⟩

instance ccString (c : Byte) : Short (Disassembly.ccString c) 2 :=
  ⟨ccString_length c⟩

instance unsigned (x : Word) : Short (Disassembly.unsigned x) 10 :=
  ⟨unsigned_length x⟩

instance decimal (x : Word) : Short (Disassembly.decimal x) 11 :=
  ⟨decimal_length x⟩

instance hex (x : Word) : Short (Disassembly.hex x) 8 :=
  ⟨hex_length x⟩

instance hexPadded (x : Word) : Short (Disassembly.hexPadded 4 x) 8 where
  length_le := by
    have h := hex_length x
    rw [Disassembly.hexPadded, String.length_append, String.length_ofList, List.length_replicate]
    omega

instance printS (t i : Byte) : Short (printS t i) 10 :=
  ⟨printS_length t i⟩

end Short

theorem prints_short {msg : String} {k : Nat} [h : Short msg k] (hk : k ≤ n) :
    Prints n (printDisassembly msg) (printDisassembly msg : Disas (Buffer size) Unit) :=
  .print <| h.length_le.trans hk

-- What is printed behind an opcode.

section

variable {aR1 aR2 aR3 aR4 : RegNo} {aType aImm : Byte} {aImmediate aImmediate1 aImmediate2 : Word}
  {aRegList : BitVec 16}

theorem prints_printR : Prints 40 (printR aR1)
    (printR aR1 : Disas (Buffer size) Unit) :=
  prints_short (by decide)

theorem prints_printRr : Prints 40 (printRr aR1 aR2)
    (printRr aR1 aR2 : Disas (Buffer size) Unit) :=
  prints_short (by decide)

theorem prints_printRrr : Prints 40 (printRrr aR1 aR2 aR3)
    (printRrr aR1 aR2 aR3 : Disas (Buffer size) Unit) :=
  prints_short (by decide)

theorem prints_printRrrr : Prints 40 (printRrrr aR1 aR2 aR3 aR4)
    (printRrrr aR1 aR2 aR3 aR4 : Disas (Buffer size) Unit) :=
  prints_short (by decide)

theorem prints_printIrr : Prints 40 (printIrr aR1 aR2)
    (printIrr aR1 aR2 : Disas (Buffer size) Unit) :=
  prints_short (by decide)

theorem prints_printRri : Prints 40 (printRri aR1 aR2 aImmediate)
    (printRri aR1 aR2 aImmediate : Disas (Buffer size) Unit) :=
  prints_short (by decide)

theorem prints_printRrii : Prints 40 (printRrii aR1 aR2 aImmediate1 aImmediate2)
    (printRrii aR1 aR2 aImmediate1 aImmediate2 : Disas (Buffer size) Unit) :=
  prints_short (by decide)

theorem prints_printRIro : Prints 40 (printRIro aR1 aR2 aImmediate)
    (printRIro aR1 aR2 aImmediate : Disas (Buffer size) Unit) :=
  prints_short (by decide)

theorem prints_printRIri : Prints 40 (printRIri aR1 aR2 aImmediate)
    (printRIri aR1 aR2 aImmediate : Disas (Buffer size) Unit) :=
  prints_short (by decide)

theorem prints_printRrIri : Prints 40 (printRrIri aR1 aR2 aR3 aImmediate)
    (printRrIri aR1 aR2 aR3 aImmediate : Disas (Buffer size) Unit) :=
  prints_short (by decide)

theorem prints_printRIrr : Prints 40 (printRIrr aR1 aR2 aR3)
    (printRIrr aR1 aR2 aR3 : Disas (Buffer size) Unit) :=
  prints_short (by decide)

theorem prints_printRi : Prints 40 (printRi aR1 aImmediate)
    (printRi aR1 aImmediate : Disas (Buffer size) Unit) :=
  prints_short (by decide)

theorem prints_printShift : Prints 10 (printShift aType aImm)
    (printShift aType aImm : Disas (Buffer size) Unit) :=
  .when <| prints_short (by decide)

theorem prints_printIrrs : Prints 40 (printIrrs aR1 aR2 aType aImm)
    (printIrrs aR1 aR2 aType aImm : Disas (Buffer size) Unit) :=
  .mono (.bind (prints_short le_rfl) <| .bind (prints_short le_rfl) <| prints_short le_rfl)
    (by decide)

theorem prints_printRIrrs : Prints 40 (printRIrrs aR1 aR2 aR3 aType aImm)
    (printRIrrs aR1 aR2 aR3 aType aImm : Disas (Buffer size) Unit) :=
  .mono (.bind (prints_short le_rfl) <| .bind prints_printShift <| prints_short le_rfl) (by decide)

theorem prints_printRrs : Prints 40 (printRrs aR1 aR2 aType aImm)
    (printRrs aR1 aR2 aType aImm : Disas (Buffer size) Unit) :=
  .mono (.bind (prints_short le_rfl) prints_printShift) (by decide)

theorem prints_printRrrs : Prints 40 (printRrrs aR1 aR2 aR3 aType aImm)
    (printRrrs aR1 aR2 aR3 aType aImm : Disas (Buffer size) Unit) :=
  .mono (.bind (prints_short le_rfl) prints_printShift) (by decide)

theorem prints_printRrIrO : Prints 40 (printRrIrO aR1 aR2 aR3 aImmediate)
    (printRrIrO aR1 aR2 aR3 aImmediate : Disas (Buffer size) Unit) :=
  .ite (prints_short <| by decide) (prints_short <| by decide)

theorem prints_printRIrO : Prints 40 (printRIrO aR1 aR2 aImmediate)
    (printRIrO aR1 aR2 aImmediate : Disas (Buffer size) Unit) :=
  .ite (prints_short <| by decide) (prints_short <| by decide)

theorem prints_printReglistLoop {is : List Nat} {first : Bool} :
    Prints (4 * is.length) (printReglistLoop aRegList is first)
      (printReglistLoop aRegList is first : Disas (Buffer size) Unit) := by
  induction is generalizing first
  case nil          => exact .pure
  case cons i is hi =>
    rw [List.length_cons, Nat.mul_succ]
    refine .ite ?_ (hi.mono <| Nat.le_add_right ..)
    refine .mono (.bind (k := 2) (.when <| prints_short <| by decide) <|
      .bind (prints_short <| Nat.le_refl _) hi) (by omega)

theorem prints_printReglist : Prints 67 (printReglist aRegList)
    (printReglist aRegList : Disas (Buffer size) Unit) :=
  .mono (.bind (prints_short le_rfl) <| .bind prints_printReglistLoop <| prints_short le_rfl)
    (by decide)

end

end Disassembly
