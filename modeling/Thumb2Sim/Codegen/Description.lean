import Thumb2Sim.Codegen.Bitfield
import Thumb2Sim.Lib.Bits

-- The meaning of the description of an instruction, whose first element describes the highest bits.
namespace Description

open FieldElement

variable {ν : Type}

def bitlen (l : List (FieldElement ν)) : Nat :=
  (l.map length).sum

theorem bitlen_cons {e : FieldElement ν} {l : List (FieldElement ν)} :
    bitlen (e :: l) = bitlen l + e.length := by
  simp [bitlen, Nat.add_comm]

theorem bitlen_le_cons {e : FieldElement ν} {l : List (FieldElement ν)} :
    bitlen l ≤ bitlen (e :: l) :=
  bitlen_cons ▸ Nat.le_add_right ..

-- Every fixed bit of the description is the bit of `word` at its place.
def FixedBitsMatch (word : Nat) : List (FieldElement ν) → Prop
  | [] => True
  | constantField (n := n) value false :: l =>
    (∀ i < n, word.testBit (bitlen l + i) = value.getLsbD i) ∧ FixedBitsMatch word l
  | _ :: l => FixedBitsMatch word l

variable [DecidableEq ν]

-- The number of the pieces of a variable that have no position of their own.
def unnumbered (name : ν) : List (FieldElement ν) → Nat
  | []                              => 0
  | variableField name' _ none :: l => unnumbered name l + if name' = name then 1 else 0
  | _ :: l                          => unnumbered name l

-- The pieces of a variable. Those without a position are numbered from right to left.
def pieces (name : ν) : List (FieldElement ν) → List VarComponent
  | [] => []
  | variableField name' iteration position :: l =>
    if name' = name then
      ⟨position.getD <| unnumbered name l, iteration, bitlen l⟩ :: pieces name l
    else
      pieces name l
  | constantField .. :: l => pieces name l

-- The bits of a word that belong to pieces one behind the other, the lowest one first.
def valueOf (word : Nat) (l : List VarComponent) : Nat :=
  Bits.concat word <| l.map fun c => (c.shiftpos, c.len)

-- `value` consists of the bits of the pieces of a variable in ascending position.
def IsValue (word : Nat) (l : List (FieldElement ν)) (name : ν) (value : Nat) : Prop :=
  ∃ ps, ps.Perm (pieces name l) ∧ ps.Pairwise (·.position < ·.position) ∧ value = valueOf word ps

end Description
