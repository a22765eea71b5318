import Mathlib.Data.Nat.Bitwise
import Thumb2Sim.Codegen.InsnSet

-- The exceptions that the Python decoder raises.
inductive PythonError
  | notImplementedError (opcode : Nat)
  | attributeError (name : String)
deriving DecidableEq

-- A decoded instruction. The variables are in their order.
structure Instruction where
  opcode    : String
  variant   : String
  length    : Nat
  arguments : List (Var × Int)
deriving DecidableEq

namespace InstructionSetDecoder

def ror32 (inValue rotate : Nat) : Nat :=
  let rotate := rotate % 32
  if rotate = 0 then
    inValue
  else
    let loMask := 1 <<< rotate - 1
    let hiMask := (1 <<< (32 - rotate) - 1) <<< rotate
    (inValue &&& loMask) <<< (32 - rotate) ||| (inValue &&& hiMask) >>> rotate

def sint32 (value : Nat) : Int :=
  if value &&& 0x80000000 ≠ 0 then
    value - 2 ^ 32
  else
    value

def thumbExpandImm (imm : Nat) : Int :=
  let byte := imm &&& 0xff
  if imm &&& 0xc00 = 0 then
    if imm &&& 0x300 = 0 then
      byte
    else if imm &&& 0x300 = 0x100 then
      ↑(byte <<< 16 ||| byte)
    else if imm &&& 0x300 = 0x200 then
      sint32 (byte <<< 24 ||| byte <<< 8)
    else
      sint32 (byte <<< 24 ||| byte <<< 16 ||| byte <<< 8 ||| byte)
  else
    sint32 <| ror32 (0x80 ||| imm &&& 0x7f) ((imm &&& 0xf80) >>> 7)

def thumbSignExtend (imm bitLength : Nat) : Nat :=
  if imm &&& 1 <<< (bitLength - 1) ≠ 0 then
    imm ||| Nat.ldiff 0xffffffff (1 <<< bitLength - 1)
  else
    imm

def thumbSignExtend20 (imm : Nat) : Int :=
  sint32 <| thumbSignExtend imm 20

def thumbSignExtend24EOR (imm : Nat) : Int :=
  let imm := imm ^^^ (1 <<< 21 ^^^ (imm &&& 1 <<< 23) >>> 2)
  let imm := imm ^^^ (1 <<< 22 ^^^ (imm &&& 1 <<< 23) >>> 1)
  sint32 <| thumbSignExtend imm 24

-- The attributes of the class that can be called with a single value.
def getattr : String → Option (Nat → Int)
  | "sint32"                  => some sint32
  | "thumb_expand_imm"        => some thumbExpandImm
  | "thumb_sign_extend20"     => some thumbSignExtend20
  | "thumb_sign_extend24_EOR" => some thumbSignExtend24EOR
  | _                         => none

end InstructionSetDecoder

-- The value of `pyexpression`. An extension is called by its name with an underscore.
def FieldShift.pyvalue (f : FieldShift) (inval : Nat) : Except PythonError Int :=
  let value := origcexpressionValue f.origcexpression inval
  match f.extend with
  | none        => return value
  | some extend =>
    match InstructionSetDecoder.getattr ("_" ++ extend) with
    | some method => return method value
    | none        => throw <| .attributeError ("_" ++ extend)

-- The branch of an encoding in the generated decoder.
def InsnOpcode.instruction (o : InsnOpcode) (opcode : Nat) : Except PythonError Instruction := do
  return {
    opcode    := o.name
    variant   := o.variantName
    length    := o.insnlen / 8
    arguments := ← o.itervars.mapM fun (v, f) => return (v, ← f.pyvalue opcode)
  }

def decodeOpcode (insns : List InsnOpcode) (opcode : Word) : Except PythonError Instruction :=
  match insns.find? fun o => o.Matches opcode with
  | some o => o.instruction opcode.toNat
  | none   => throw <| .notImplementedError opcode.toNat

-- The opcode in `decode_data`. Less than two bytes raise an exception.
def dataOpcode : List Byte → Option Word
  | d₀ :: d₁ :: d₂ :: d₃ :: _ =>
    some (d₁.setWidth 32 <<< 24 ||| d₀.setWidth 32 <<< 16 ||| d₃.setWidth 32 <<< 8 |||
      d₂.setWidth 32 <<< 0)
  | d₀ :: d₁ :: _             => some (d₁.setWidth 32 <<< 24 ||| d₀.setWidth 32 <<< 16)
  | _                         => none

def decodeData (insns : List InsnOpcode) (data : List Byte) :
    Option (Except PythonError Instruction) :=
  (dataOpcode data).map (decodeOpcode insns)
