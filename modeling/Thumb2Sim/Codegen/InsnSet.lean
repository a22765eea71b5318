import Thumb2Sim.Codegen.Bitfield
import Thumb2Sim.Decoder.Basic

-- An element `opcode` of `instructions.xml`, with the constructor for its attribute `variant`.
structure OpcodeNode where
  name        : String
  variantName : String
  variant     : Variant
  bits        : List (FieldElement Var)
  extend      : List (Var × String) := []
  priority    : Nat := 0

-- An encoding that the generator has accepted, widened to 32 bits.
structure InsnOpcode where
  name        : String
  variantName : String
  variant     : Variant
  bitfield    : Bitfield Var
  insnlen     : Nat
  priority    : Nat

def InsnOpcode.ofNode (node : OpcodeNode) : Option InsnOpcode := do
  let bitfield ← Bitfield.make node.bits
  guard (bitfield.bitlen = 16 ∨ bitfield.bitlen = 32)
  let bitfield := bitfield.widen 32
  let bitfield ←
    node.extend.foldlM (fun b (varname, exttype) => b.setextend varname exttype) bitfield
  return {
    name        := node.name
    variantName := node.variantName
    variant     := node.variant
    bitfield    := bitfield
    insnlen     := bitfield.bitlen
    priority    := node.priority
  }

-- The encodings are ordered by their priority, then by the name of their variant.
def InsnOpcode.le (a b : InsnOpcode) : Prop :=
  a.priority < b.priority ∨ a.priority = b.priority ∧ a.variantName ≤ b.variantName

instance : DecidableRel InsnOpcode.le :=
  fun _ _ => inferInstanceAs <| Decidable (_ ∨ _)

def insnSet (nodes : List OpcodeNode) : List InsnOpcode :=
  (nodes.filterMap InsnOpcode.ofNode).insertionSort InsnOpcode.le

-- The order of the variables, as far as they occur in `instructions.xml`.
def registerOrder : List Var := [
  .Rd, .Rdn, .Rdm, .Rt, .Rn, .Rm, .Rtx, .RdLo, .RdHi, .Vd, .Vn, .Vm, .rotate, .shift, .imm, .satimm,
  .op, .cond, .firstcond, .mask, .registerList, .SYSm, .type, .coproc, .CRd, .CRn, .Crn, .CRm,
  .opcA, .opcB, .Ra, .RtB, .tb, .RM, .H, .D, .E, .P, .N, .M, .F, .I, .R, .S, .T, .U, .W, .sf, .sx,
  .sz, .msb, .option, .width, .Rmx]

namespace InsnOpcode

variable (o : InsnOpcode)

-- The test for the encoding in the generated decoders.
def Matches (opcode : Word) : Prop :=
  opcode.toNat &&& o.bitfield.constantmask = o.bitfield.constantcmp

instance (opcode : Word) : Decidable (o.Matches opcode) :=
  inferInstanceAs <| Decidable (_ = _)

def variablenames : List Var :=
  (o.bitfield.vars.map Prod.fst).insertionSort fun v w =>
    registerOrder.idxOf v ≤ registerOrder.idxOf w

def itervars : List (Var × FieldShift) :=
  o.variablenames.filterMap fun v => (o.bitfield.getitem v).map (v, ·)

end InsnOpcode

namespace FieldShift

variable (f : FieldShift)

-- There is no type for variables of more than 32 bits.
def ctype : Option CType :=
  match f.extend with
  | some extend =>
    if extend ∈ ["thumb_expand_imm", "thumb_sign_extend20", "thumb_sign_extend24",
        "thumb_sign_extend24_EOR"] then
      some .int32
    else
      none
  | none =>
    if f.len = 1 then
      some .bool
    else if f.len ≤ 8 then
      some .uint8
    else if f.len ≤ 16 then
      some .uint16
    else if f.len ≤ 32 then
      some .uint32
    else
      none

end FieldShift

-- The functions of the decoder.
def Extension.ofName : Option String → Option Extension
  | none                           => some .plain
  | some "thumb_expand_imm"        => some .thumbExpandImm
  | some "thumb_sign_extend20"     => some .thumbSignExtend20
  | some "thumb_sign_extend24_EOR" => some .thumbSignExtend24EOR
  | some _                         => none

-- A part of an expression for a word of 32 bits.
def ShiftTerm.piece (t : ShiftTerm) : Piece where
  mask  := BitVec.ofNat 32 t.mask
  shift := -t.shl

-- The line of `decode_insn` for a variable.
def FieldShift.argument (f : FieldShift) (v : Var) : Option Argument := do
  return {
    type      := ← f.ctype
    var       := v
    extension := ← Extension.ofName f.extend
    pieces    := f.origcexpression.map ShiftTerm.piece
  }

-- The branch of `decode_insn` for an encoding.
def InsnOpcode.branch (o : InsnOpcode) : Option Opcode := do
  return {
    variant   := o.variant
    pattern   := ⟨BitVec.ofNat 32 o.bitfield.constantmask, BitVec.ofNat 32 o.bitfield.constantcmp⟩
    length    := o.insnlen / 8
    arguments := ← o.itervars.mapM fun (v, f) => f.argument v
  }
