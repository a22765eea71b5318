import Mathlib.Data.BitVec
import Mathlib.Data.List.Sort
import Mathlib.Data.Nat.Bitwise

-- An element of the description of an instruction's bits. The names of variables are of type `ν`.
inductive FieldElement (ν : Type)
  | constantField {n : Nat} (value : BitVec n) (dontcare : Bool)
  | variableField (name : ν) (iteration : Nat) (position : Option Nat)

namespace FieldElement

variable {ν : Type}

-- The descriptions `101`, `101?`, `Rd{4}` and `Rd{4}.1`. The iteration is 1 by default.
def fixed {n : Nat} (value : BitVec n) : FieldElement ν :=
  constantField value false

def dontcare {n : Nat} (value : BitVec n) : FieldElement ν :=
  constantField value true

def var (name : ν) (iteration : Nat) : FieldElement ν :=
  variableField name iteration none

def varAt (name : ν) (iteration position : Nat) : FieldElement ν :=
  variableField name iteration (some position)

def length : FieldElement ν → Nat
  | constantField (n := n) ..   => n
  | variableField _ iteration _ => iteration

end FieldElement

-- The bits `srcmask` of a word, moved to the left by `shl`.
structure FieldElem where
  srcmask : Nat
  shl     : Int
deriving DecidableEq

-- The part `(inval & mask) << shl` of an expression, or `(inval & mask) >> -shl` if `shl` is
-- negative.
structure ShiftTerm where
  mask : Nat
  shl  : Int
deriving DecidableEq

-- The value of a part for an unbounded integer.
def ShiftTerm.value (t : ShiftTerm) (inval : Nat) : Nat :=
  if t.shl > 0 then
    (inval &&& t.mask) <<< t.shl.toNat
  else if t.shl = 0 then
    inval &&& t.mask
  else
    (inval &&& t.mask) >>> (-t.shl).toNat

-- The value of the expression may be passed through the function with the name `extend`.
structure FieldShift where
  components : List FieldElem
  len        : Nat
  shl        : Nat
  extend     : Option String

namespace FieldShift

def empty : FieldShift where
  components := []
  len        := 0
  shl        := 0
  extend     := none

-- There is one component for each shift distance.
def addComponent (e : FieldElem) : List FieldElem → List FieldElem
  | []     => [e]
  | c :: l =>
    if c.shl = e.shl then
      { c with srcmask := e.srcmask ||| c.srcmask } :: l
    else
      c :: addComponent e l

def add (f : FieldShift) (srclobit bitlen dstlobit : Nat) : FieldShift :=
  let e := { shl := dstlobit - srclobit, srcmask := (1 <<< bitlen - 1) <<< srclobit }
  { f with components := addComponent e f.components, len := f.len + bitlen }

def setshl (f : FieldShift) (shlval : Nat) : FieldShift :=
  { f with shl := shlval }

def setextend (f : FieldShift) (extension : String) : FieldShift :=
  { f with extend := some extension }

-- It is asserted that there is a single component, with distance zero.
def staticmask (f : FieldShift) : Option Nat :=
  match f.components with
  | [c] => if c.shl = 0 then some c.srcmask else none
  | _   => none

-- The parts of the expression, which are joined by `|`.
def origcexpression (f : FieldShift) : List ShiftTerm :=
  (f.components.insertionSort (·.shl ≤ ·.shl)).map fun c => ⟨c.srcmask <<< f.shl, c.shl - f.shl⟩

end FieldShift

-- The value of the expression for an unbounded integer.
def origcexpressionValue (l : List ShiftTerm) (inval : Nat) : Nat :=
  l.foldl (fun x t => x ||| t.value inval) 0

-- A piece of a variable, with the place of its lowest bit.
structure VarComponent where
  position : Nat
  len      : Nat
  shiftpos : Nat
deriving DecidableEq

-- The function `itertools.product`. The values of the last list change with every combination.
def product {α : Type} : List (List α) → List (List α)
  | []      => [[]]
  | l :: ls => l.flatMap fun a => (product ls).map (a :: ·)

structure Bitfield (ν : Type) where
  bitlen        : Nat
  constantValue : Nat
  constantMask  : Nat
  vars          : List (ν × FieldShift)
  widento       : Option Nat

namespace Bitfield

variable {ν : Type} [DecidableEq ν]

-- The pieces without a position are numbered in their order, from right to left. The list is
-- reversed, and `next` is the number for the next piece of each variable.
def setPositions (next : ν → Nat) : List (FieldElement ν) → List (FieldElement ν)
  | .variableField name iteration none :: l =>
    .variableField name iteration (some <| next name) ::
      setPositions (Function.update next name (next name + 1)) l
  | e :: l => e :: setPositions next l
  | []     => []

-- The elements of the reversed list with the places of their lowest bits.
def withShiftpos (shiftpos : Nat) : List (FieldElement ν) → List (FieldElement ν × Nat)
  | []     => []
  | e :: l => (e, shiftpos) :: withShiftpos (shiftpos + e.length) l

def constants (elements : List (FieldElement ν × Nat)) : FieldShift × Nat :=
  elements.foldl (fun (mask, value) (e, shiftpos) =>
    match e with
    | .constantField (n := n) v false =>
      (mask.add shiftpos n shiftpos, value ||| v.toNat <<< shiftpos)
    | _ => (mask, value)) (.empty, 0)

def varcomponents (elements : List (FieldElement ν × Nat)) (name : ν) : List VarComponent :=
  elements.filterMap fun (e, shiftpos) =>
    match e with
    | .variableField name' iteration (some position) =>
      if name' = name then some ⟨position, iteration, shiftpos⟩ else none
    | _ => none

def varnames (elements : List (FieldElement ν × Nat)) : List ν :=
  (elements.filterMap fun (e, _) =>
    match e with
    | .variableField name .. => some name
    | _                      => none).eraseDups

-- The pieces one behind the other, the lowest one at `dstpos`.
def addComponents (f : FieldShift) (dstpos : Nat) : List VarComponent → FieldShift
  | []     => f
  | c :: l => addComponents (f.add c.shiftpos c.len dstpos) (dstpos + c.len) l

def fieldShift (components : List VarComponent) : FieldShift :=
  addComponents .empty 0 <| components.insertionSort (·.position ≤ ·.position)

-- A description without constant bits is not accepted.
def make (elements : List (FieldElement ν)) : Option (Bitfield ν) := do
  let elements := withShiftpos 0 <| setPositions (fun _ => 0) elements.reverse
  let (mask, value) := constants elements
  let staticmask ← mask.staticmask
  return {
    bitlen        := (elements.map (·.fst.length)).sum
    constantValue := value
    constantMask  := staticmask
    vars          := (varnames elements).map fun v => (v, fieldShift <| varcomponents elements v)
    widento       := none
  }

variable (b : Bitfield ν)

def widenshiftleft : Nat :=
  match b.widento with
  | none         => 0
  | some widento => widento - b.bitlen

def constantmask : Nat :=
  b.constantMask <<< b.widenshiftleft

def constantcmp : Nat :=
  b.constantValue <<< b.widenshiftleft

def widen (widento : Nat) : Bitfield ν :=
  { b with widento := some widento }

-- The variable of the given name, adjusted to the width.
def getitem (varname : ν) : Option FieldShift := do
  let v ← b.vars.lookup varname
  return if b.widento.isSome then v.setshl b.widenshiftleft else v

-- The variable has to exist.
def setextend (varname : ν) (extension : String) : Option (Bitfield ν) :=
  if b.vars.any (·.fst = varname) then
    let vars := b.vars.map fun (v, f) => (v, if v = varname then f.setextend extension else f)
    some { b with vars := vars }
  else
    none

def getDofmask : Nat :=
  (1 <<< b.bitlen - 1).ldiff b.constantMask

-- The bits that are not fixed, the highest one first.
def dofbits : List Nat :=
  (List.range b.bitlen).reverse.filter fun i => 1 <<< i &&& b.constantMask = 0

def allCombinations (inbits : List Nat) : List (List Nat) :=
  product <| inbits.map fun bit => [0, 1 <<< bit]

-- There are no offsets for other lengths.
def encodingByteoffsets : Option (List Nat) :=
  if b.bitlen = 16 then
    some [0, 1]
  else if b.bitlen = 32 then
    some [2, 3, 0, 1]
  else
    none

-- The encodings in the order in which they are generated.
def enumerateAll : Option (List (List (BitVec 8))) := do
  let byteoffsets ← b.encodingByteoffsets
  return (allCombinations b.dofbits).map fun setbits =>
    let value := b.constantValue + setbits.sum
    byteoffsets.map fun i => BitVec.ofNat 8 (value >>> (8 * i) &&& 0xff)

end Bitfield
