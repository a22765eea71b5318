import Thumb2Sim.Decoder.Basic
import Thumb2Sim.Disassembly.Operands
import Thumb2Sim.Emulation.Basic
import Thumb2Sim.Lib.Output

open Program Output

-- The type `B` is the one of the buffer, which is printed to by the function of the context.
structure DisasCtx (B : Type) where
  pc          : Word
  itState     : Byte
  itCond      : Byte
  disasBuffer : B

-- The code that disassembles an instruction.
abbrev Disas (B α : Type) :=
  Program (DisasCtx B) Undefined α

namespace Disassembly

variable {B : Type} [Output B]

def printDisassembly (msg : String) : Disas B Unit :=
  fun ctx => .ok ((), { ctx with disasBuffer := print ctx.disasBuffer msg })

-- The conversions of `printf`.

def unsigned (x : Word) : String :=
  x.toNat.repr

def decimal (x : Word) : String :=
  x.toInt.repr

def hex (x : Word) : String :=
  String.ofList <| Nat.toDigits 16 x.toNat

def hexPadded (width : Nat) (x : Word) : String :=
  String.ofList (List.replicate (width - (hex x).length) '0') ++ hex x

def opcodeWide : BitVec 16 :=
  1 <<< 0

def opcodeNarrow : BitVec 16 :=
  1 <<< 1

def opcodeSetflags : BitVec 16 :=
  1 <<< 2

def opcodeSetflagsIfUncond : BitVec 16 :=
  1 <<< 3

def opcodeForceCondition : BitVec 16 :=
  1 <<< 4

def opcodeIsconditional (cond : Byte) : BitVec 16 :=
  opcodeForceCondition ||| (cond.setWidth 16 &&& 0xf) <<< 8

def ccString (aCondition : Byte) : String :=
  match aCondition.toNat with
  | 0  => "eq"
  | 1  => "ne"
  | 2  => "cs"
  | 3  => "cc"
  | 4  => "mi"
  | 5  => "pl"
  | 6  => "vs"
  | 7  => "vc"
  | 8  => "hi"
  | 9  => "ls"
  | 10 => "ge"
  | 11 => "lt"
  | 12 => "gt"
  | 13 => "le"
  | 14 => "al"
  | _  => "?"

def regString (aReg : RegNo) : String :=
  match aReg.toNat with
  | 0  => "r0"
  | 1  => "r1"
  | 2  => "r2"
  | 3  => "r3"
  | 4  => "r4"
  | 5  => "r5"
  | 6  => "r6"
  | 7  => "r7"
  | 8  => "r8"
  | 9  => "r9"
  | 10 => "sl"
  | 11 => "fp"
  | 12 => "ip"
  | 13 => "sp"
  | 14 => "lr"
  | 15 => "pc"
  | _  => "r?"

def getPc : Disas B Word :=
  fun ctx => .ok (ctx.pc, ctx)

def getItState : Disas B Byte :=
  fun ctx => .ok (ctx.itState, ctx)

def getItCond : Disas B Byte :=
  fun ctx => .ok (ctx.itCond, ctx)

-- What is printed behind the name of the opcode.

def printSetflags (itState : Byte) (aFlags : BitVec 16) : Disas B Unit :=
  when (aFlags &&& opcodeSetflags ≠ 0 ∨ itState = itNone ∧ aFlags &&& opcodeSetflagsIfUncond ≠ 0) do
    printDisassembly "s"

def printCondition (itState itCond : Byte) (aFlags : BitVec 16) : Disas B Unit :=
  if aFlags &&& opcodeForceCondition = 0 then
    -- Honor implicit condition flags
    if itState = itThen then
      printDisassembly (ccString itCond)
    else when (itState = itElse) do
      printDisassembly (ccString <| itCond ^^^ 1)
  else
    -- Override with given condition flag
    printDisassembly (ccString <| ((aFlags &&& 0xf00) >>> 8).setWidth 8)

def printWidth (aFlags : BitVec 16) : Disas B Unit :=
  if aFlags &&& opcodeWide ≠ 0 then
    printDisassembly ".w"
  else when (aFlags &&& opcodeNarrow ≠ 0) do
    printDisassembly ".n"

def printOpcode (aOpcode : String) (aFlags : BitVec 16) : Disas B Unit := do
  printDisassembly aOpcode
  let itState := (← getItState) &&& 0x03
  let itCond ← getItCond
  printSetflags itState aFlags
  printCondition itState itCond aFlags
  printWidth aFlags

-- The local variable tells if nothing has been printed yet.
def printReglistLoop (aRegList : BitVec 16) : List Nat → Bool → Disas B Unit
  | [],      _     => pure ()
  | i :: is, first => do
    if aRegList &&& (1 : BitVec 16) <<< i ≠ 0 then
      when (!first) do
        printDisassembly ", "
      printDisassembly (regString <| BitVec.ofNat 8 i)
      printReglistLoop aRegList is false
    else
      printReglistLoop aRegList is first

def printReglist (aRegList : BitVec 16) : Disas B Unit := do
  printDisassembly " \x7b"
  printReglistLoop aRegList (List.range 16) true
  printDisassembly "\x7d"

section

variable (aR1 aR2 aR3 aR4 : RegNo) (aType aImm : Byte) (aImmediate aImmediate1 aImmediate2 : Word)

def printI (aImmediate : Byte) : Disas B Unit :=
  printDisassembly s!" #{decimal (aImmediate.setWidth 32)}"

def printR : Disas B Unit :=
  printDisassembly s!" {regString aR1}"

def printRr : Disas B Unit :=
  printDisassembly s!" {regString aR1}, {regString aR2}"

def printRrr : Disas B Unit :=
  printDisassembly s!" {regString aR1}, {regString aR2}, {regString aR3}"

def printRrrr : Disas B Unit :=
  printDisassembly s!" {regString aR1}, {regString aR2}, {regString aR3}, {regString aR4}"

def printIrr : Disas B Unit :=
  printDisassembly s!" [{regString aR1}, {regString aR2}]"

def printIrrs : Disas B Unit := do
  printDisassembly s!" [{regString aR1}, {regString aR2}"
  printDisassembly (printS aType aImm)
  printDisassembly "]"

def printShift : Disas B Unit :=
  when (aType ≠ 0 ∨ aImm ≠ 0) do
    printDisassembly (printS aType aImm)

def printRrs : Disas B Unit := do
  printDisassembly s!" {regString aR1}, {regString aR2}"
  printShift aType aImm

def printRIrrs : Disas B Unit := do
  printDisassembly s!" {regString aR1}, [{regString aR2}, {regString aR3}"
  printShift aType aImm
  printDisassembly "]"

def printRrrs : Disas B Unit := do
  printDisassembly s!" {regString aR1}, {regString aR2}, {regString aR3}"
  printShift aType aImm

def printRri : Disas B Unit :=
  printDisassembly s!" {regString aR1}, {regString aR2}, #{unsigned aImmediate}"

def printRrii : Disas B Unit :=
  printDisassembly
    s!" {regString aR1}, {regString aR2}, #{unsigned aImmediate1}, #{unsigned aImmediate2}"

def printRIro : Disas B Unit :=
  printDisassembly s!" {regString aR1}, [{regString aR2}, #{decimal aImmediate}]"

def printRrIrO : Disas B Unit :=
  if aImmediate ≠ 0 then
    printDisassembly
      s!" {regString aR1}, {regString aR2}, [{regString aR3}, #{decimal aImmediate}]"
  else
    printDisassembly s!" {regString aR1}, {regString aR2}, [{regString aR3}]"

def printRIrO : Disas B Unit :=
  if aImmediate ≠ 0 then
    printDisassembly s!" {regString aR1}, [{regString aR2}, #{decimal aImmediate}]"
  else
    printDisassembly s!" {regString aR1}, [{regString aR2}]"

def printRIri : Disas B Unit :=
  printDisassembly s!" {regString aR1}, [{regString aR2}], #{decimal aImmediate}"

def printRrIri : Disas B Unit :=
  printDisassembly
    s!" {regString aR1}, {regString aR2}, [{regString aR3}], #{decimal aImmediate}"

def printRIrr : Disas B Unit :=
  printDisassembly s!" {regString aR1}, [{regString aR2}, {regString aR3}]"

def printRi : Disas B Unit :=
  printDisassembly s!" {regString aR1}, #{unsigned aImmediate}"

end

end Disassembly
