import Thumb2Sim.Disassembly.Basic

open Program

namespace Disassembly

variable {B : Type} [Output B]

-- The end of a branch, with the address that it goes to.
def printTarget (target : Word → Except Undefined Word) : Disas B Unit := do
  let target ← checked <| target (← getPc)
  printDisassembly s!" 0x{hex target}"

-- The base register of a list of registers.
def printBase (Rn : RegNo) (writeback : Bool) : Disas B Unit :=
  let mark := if writeback then "!" else ""
  printDisassembly s!" {regString Rn}{mark},"

def withReg (registerList : BitVec 16) (r : RegNo) (b : Bool) : BitVec 16 :=
  if b then registerList ||| (1 : BitVec 16) <<< r.toNat else registerList

-- One letter for each further instruction of the block.
def itMnemonic (firstcond mask : Byte) : String :=
  let len := 3 - ((List.range 3).takeWhile fun i => mask &&& 1 <<< i == 0).length
  (List.range len).foldl (fun opcode i =>
    opcode ++ if mask >>> (3 - i) &&& 1 = firstcond &&& 1 then "t" else "e") "it"

def i32AdcImmT1 (Rd Rn : RegNo) (imm : Word) (S : Bool) : Disas B Unit := do
  printOpcode "adc" (opcodeWide ||| if S then opcodeSetflags else 0)
  printRri Rd Rn imm

def i16AdcRegT1 (Rdn Rm : RegNo) : Disas B Unit := do
  printOpcode "adc" opcodeSetflagsIfUncond
  printRr Rdn Rm

def i32AdcRegT2 (Rd Rn Rm : RegNo) (imm type : Byte) (S : Bool) : Disas B Unit := do
  printOpcode "adc" (opcodeWide ||| if S then opcodeSetflags else 0)
  printRrrs Rd Rn Rm type imm

def i16AddSPiT1 (Rd : RegNo) (imm : Byte) : Disas B Unit := do
  printOpcode "add" 0
  printRri Rd regSp (imm.setWidth 32 * 4)

def i16AddSPiT2 (imm : Byte) : Disas B Unit := do
  printOpcode "add" 0
  printRi regSp (imm.setWidth 32 * 4)

def i32AddSPiT3 (Rd : RegNo) (imm : Word) (S : Bool) : Disas B Unit := do
  printOpcode "add" (opcodeWide ||| if S then opcodeSetflags else 0)
  printRri Rd regSp imm

def i32AddSPiT4 (Rd : RegNo) (imm : BitVec 16) : Disas B Unit := do
  printOpcode "add" opcodeWide
  printRri regSp Rd (imm.setWidth 32)

def i16AddSPrT1 (Rdm : RegNo) : Disas B Unit := do
  printOpcode "add" 0
  printRr Rdm regSp

def i16AddSPrT2 (Rm : RegNo) : Disas B Unit := do
  printOpcode "add" 0
  printRr regSp Rm

def i16AddImmT1 (Rd Rn : RegNo) (imm : Byte) : Disas B Unit := do
  printOpcode "add" opcodeSetflagsIfUncond
  printRri Rd Rn (imm.setWidth 32)

def i16AddImmT2 (Rdn : RegNo) (imm : Byte) : Disas B Unit := do
  printOpcode "add" opcodeSetflagsIfUncond
  printRi Rdn (imm.setWidth 32)

def i32AddImmT3 (Rd Rn : RegNo) (imm : Word) (S : Bool) : Disas B Unit := do
  printOpcode "add" (opcodeWide ||| if S then opcodeSetflags else 0)
  printRri Rd Rn imm

def i32AddImmT4 (Rd Rn : RegNo) (imm : BitVec 16) : Disas B Unit := do
  printOpcode "addw" 0
  printRri Rd Rn (imm.setWidth 32)

def i16AddRegT1 (Rd Rn Rm : RegNo) : Disas B Unit := do
  printOpcode "add" opcodeSetflagsIfUncond
  printRrr Rd Rn Rm

def i16AddRegT2 (Rdn Rm : RegNo) : Disas B Unit := do
  printOpcode "add" 0
  printRr Rdn Rm

def i32AddRegT3 (Rd Rn Rm : RegNo) (imm type : Byte) (S : Bool) : Disas B Unit := do
  printOpcode "add" (opcodeWide ||| if S then opcodeSetflags else 0)
  printRrrs Rd Rn Rm type imm

def i16AdrT1 (Rd : RegNo) (imm : Byte) : Disas B Unit := do
  printOpcode "add" 0
  printRri Rd regPc (imm.setWidth 32 * 4)

def i32AndImmT1 (Rd Rn : RegNo) (imm : Word) (S : Bool) : Disas B Unit := do
  if Rd = regPc ∧ S then
    printOpcode "tst" opcodeWide
    printRi Rn imm
  else
    printOpcode "and" (opcodeWide ||| if S then opcodeSetflags else 0)
    printRri Rd Rn imm

def i16AndRegT1 (Rdn Rm : RegNo) : Disas B Unit := do
  printOpcode "and" opcodeSetflagsIfUncond
  printRr Rdn Rm

def i32AndRegT2 (Rd Rn Rm : RegNo) (imm type : Byte) (S : Bool) : Disas B Unit := do
  printOpcode "and" (opcodeWide ||| if S then opcodeSetflags else 0)
  printRrrs Rd Rn Rm type imm

def i16AsrImmT1 (Rd Rm : RegNo) (imm : Byte) : Disas B Unit := do
  let imm := if imm = 0 then 32 else imm
  printOpcode "asr" opcodeSetflagsIfUncond
  printRri Rd Rm (imm.setWidth 32)

def i32AsrImmT2 (Rd Rm : RegNo) (imm : Byte) (S : Bool) : Disas B Unit := do
  printOpcode "mov" (opcodeWide ||| if S then opcodeSetflags else 0)
  printRrs Rd Rm typeAsr imm

def i16AsrRegT1 (Rdn Rm : RegNo) : Disas B Unit := do
  printOpcode "asr" opcodeSetflagsIfUncond
  printRr Rdn Rm

def i32AsrRegT2 (Rd Rn Rm : RegNo) (S : Bool) : Disas B Unit := do
  printOpcode "asr" (opcodeWide ||| if S then opcodeSetflags else 0)
  printRrr Rd Rn Rm

def i16BT1 (imm cond : Byte) : Disas B Unit := do
  printOpcode "b" (opcodeNarrow ||| opcodeIsconditional cond)
  printTarget fun pc => relativeBranchTarget pc (imm.setWidth 32) 8

def i16BT2 (imm : BitVec 16) : Disas B Unit := do
  printOpcode "b" opcodeNarrow
  printTarget fun pc => relativeBranchTarget pc (imm.setWidth 32) 11

def i32BT3 (imm : Word) (cond : Byte) : Disas B Unit := do
  printOpcode "b" (opcodeWide ||| opcodeIsconditional cond)
  printTarget fun pc => return pc + 2 * imm + 4

def i32BT4 (imm : Word) : Disas B Unit := do
  printOpcode "b" opcodeWide
  printTarget fun pc => return pc + 2 * imm + 4

def i32BicImmT1 (Rd Rn : RegNo) (imm : Word) (S : Bool) : Disas B Unit := do
  printOpcode "bic" (opcodeWide ||| if S then opcodeSetflags else 0)
  printRri Rd Rn imm

def i16BicRegT1 (Rdn Rm : RegNo) : Disas B Unit := do
  printOpcode "bic" opcodeSetflagsIfUncond
  printRr Rdn Rm

def i32BicRegT2 (Rd Rn Rm : RegNo) (imm type : Byte) (S : Bool) : Disas B Unit := do
  printOpcode "bic" (opcodeWide ||| if S then opcodeSetflags else 0)
  printRrrs Rd Rn Rm type imm

def i16BkptT1 (imm : Byte) : Disas B Unit := do
  printOpcode "bkpt" 0
  printDisassembly s!" 0x{hexPadded 4 (imm.setWidth 32)}"

def i32BlT1 (imm : Word) : Disas B Unit := do
  printOpcode "bl" 0
  printTarget fun pc => return pc + 2 * imm + 4

def i16BlxRegT1 (Rm : RegNo) : Disas B Unit := do
  printOpcode "blx" 0
  printR Rm

def i16BxT1 (Rm : RegNo) : Disas B Unit := do
  printOpcode "bx" 0
  printR Rm

def i16CbnzT1 (Rn : RegNo) (imm : Byte) (op : Bool) : Disas B Unit := do
  printOpcode (if op then "cbnz" else "cbz") 0
  let target ← checked <| relativeBranchTarget (← getPc) (imm.setWidth 32) 7
  printDisassembly s!" {regString Rn}, 0x{hex target}"

def i32ClzT1 (Rd Rm _Rmx : RegNo) : Disas B Unit := do
  printOpcode "clz" 0
  printRr Rd Rm

def i32CmnImmT1 (Rn : RegNo) (imm : Word) : Disas B Unit := do
  printOpcode "cmn" opcodeWide
  printRi Rn imm

def i16CmnRegT1 (Rn Rm : RegNo) : Disas B Unit := do
  printOpcode "cmn" 0
  printRr Rn Rm

def i32CmnRegT2 (Rn Rm : RegNo) (imm : Word) (type : Byte) : Disas B Unit := do
  printOpcode "cmn" 0
  printRrs Rn Rm type (imm.setWidth 8)

def i16CmpImmT1 (Rn : RegNo) (imm : Byte) : Disas B Unit := do
  printOpcode "cmp" 0
  printRi Rn (imm.setWidth 32)

def i32CmpImmT2 (Rn : RegNo) (imm : Word) : Disas B Unit := do
  printOpcode "cmp" opcodeWide
  printRi Rn imm

def i16CmpRegT1 (Rn Rm : RegNo) : Disas B Unit := do
  printOpcode "cmp" 0
  printRr Rn Rm

def i16CmpRegT2 (Rn Rm : RegNo) : Disas B Unit := do
  printOpcode "cmp" 0
  printRr Rn Rm

def i32CmpRegT3 (Rn Rm : RegNo) (imm type : Byte) : Disas B Unit := do
  printOpcode "cmp" opcodeWide
  printRrs Rn Rm type imm

def i16CpsT1 (imm F I : Bool) : Disas B Unit := do
  printOpcode (if imm then "cpsid" else "cpsie") 0
  when (I || F) do
    printDisassembly " "
  when I do
    printDisassembly "i"
  when F do
    printDisassembly "f"

def i32EorImmT1 (Rd Rn : RegNo) (imm : Word) (S : Bool) : Disas B Unit := do
  if Rd = regPc ∧ S then
    printOpcode "teq" 0
    printRi Rn imm
  else
    printOpcode "eor" (opcodeWide ||| if S then opcodeSetflags else 0)
    printRri Rd Rn imm

def i16EorRegT1 (Rdn Rm : RegNo) : Disas B Unit := do
  printOpcode "eor" opcodeSetflagsIfUncond
  printRr Rdn Rm

def i32EorRegT2 (Rd Rn Rm : RegNo) (imm type : Byte) (S : Bool) : Disas B Unit := do
  if Rd = regPc ∧ S then
    printOpcode "teq" 0
    printRr Rn Rm
  else
    printOpcode "eor" (opcodeWide ||| if S then opcodeSetflags else 0)
    printRrrs Rd Rn Rm type imm

def i16ItT1 (firstcond mask : Byte) : Disas B Unit := do
  printOpcode (itMnemonic firstcond mask) 0
  printDisassembly s!" {ccString firstcond}"

def i16LdmT1 (Rn : RegNo) (registerList : Byte) : Disas B Unit := do
  printOpcode "ldmia" 0
  let bit ← checked <| CInt.shl (1 : Word) Rn.toNat
  let writeback := if registerList.setWidth 32 &&& bit ≠ 0 then "" else "!"
  printDisassembly s!" {regString Rn}{writeback},"
  printReglist (registerList.setWidth 16)

def i32LdmT2 (Rn : RegNo) (registerList : BitVec 16) (P M W : Bool) : Disas B Unit := do
  printOpcode "ldmia" opcodeWide
  printBase Rn W
  printReglist (withReg (withReg registerList regPc P) regLr M)

def i32LdmdbT1 (Rn : RegNo) (registerList : BitVec 16) (P M _W : Bool) : Disas B Unit := do
  printOpcode "ldmdb" 0
  printBase Rn false
  printReglist (withReg (withReg registerList regPc P) regLr M)

def i16LdrImmT1 (Rt Rn : RegNo) (imm : Byte) : Disas B Unit := do
  printOpcode "ldr" 0
  printRIro Rt Rn (imm.setWidth 32 * 4)

def i16LdrImmT2 (Rt : RegNo) (imm : Byte) : Disas B Unit := do
  printOpcode "ldr" 0
  printRIro Rt regSp (imm.setWidth 32 * 4)

def i32LdrImmT3 (Rt Rn : RegNo) (imm : BitVec 16) : Disas B Unit := do
  printOpcode "ldr" opcodeWide
  printRIrO Rt Rn (imm.setWidth 32)

def i32LdrImmT4 (Rt Rn : RegNo) (imm : Byte) (P U W : Bool) : Disas B Unit := do
  printOpcode "ldr" opcodeWide
  if P then
    printRIrO Rt Rn (imm.setWidth 32 * if U then 1 else -1)
    when W do
      printDisassembly "!"
  else
    printRIri Rt Rn (imm.setWidth 32 * if U then 1 else -1)

def i16LdrLitT1 (Rt : RegNo) (imm : Byte) : Disas B Unit := do
  printOpcode "ldr" 0
  printRIro Rt regPc (imm.setWidth 32 * 4)

def i32LdrLitT2 (Rt : RegNo) (imm : BitVec 16) (U : Bool) : Disas B Unit := do
  printOpcode "ldr" opcodeWide
  printRIro Rt regPc (imm.setWidth 32 * if U then 1 else -1)

def i16LdrRegT1 (Rt Rn Rm : RegNo) : Disas B Unit := do
  printOpcode "ldr" 0
  printRIrr Rt Rn Rm

def i32LdrRegT2 (Rt Rn Rm : RegNo) (imm : Byte) : Disas B Unit := do
  printOpcode "ldr" opcodeWide
  printRIrrs Rt Rn Rm typeLsl imm

def i16LdrbImmT1 (Rt Rn : RegNo) (imm : Byte) : Disas B Unit := do
  printOpcode "ldrb" 0
  printRIro Rt Rn (imm.setWidth 32)

def i32LdrbImmT2 (Rt Rn : RegNo) (imm : BitVec 16) : Disas B Unit := do
  printOpcode "ldrb" opcodeWide
  printRIrO Rt Rn (imm.setWidth 32)

def i32LdrbImmT3 (Rt Rn : RegNo) (imm : Byte) (P U W : Bool) : Disas B Unit := do
  printOpcode "ldrb" opcodeWide
  if P then
    printRIrO Rt Rn (imm.setWidth 32 * if U then 1 else -1)
    when W do
      printDisassembly "!"
  else
    printRIri Rt Rn (imm.setWidth 32 * if U then 1 else -1)

def i16LdrbRegT1 (Rt Rn Rm : RegNo) : Disas B Unit := do
  printOpcode "ldrb" 0
  printRIrr Rt Rn Rm

def i32LdrbRegT2 (Rt Rn Rm : RegNo) (imm : Byte) : Disas B Unit := do
  printOpcode "ldrb" opcodeWide
  if imm = 0 then
    printRIrr Rt Rn Rm
  else
    printRIrrs Rt Rn Rm typeLsl imm

def i32LdrdImmT1 (Rt Rn Rtx : RegNo) (imm : Byte) (P U _W : Bool) : Disas B Unit := do
  printOpcode "ldrd" 0
  if P then
    printRrIrO Rt Rtx Rn (imm.setWidth 32 * if U then 4 else -4)
  else
    printRrIri Rt Rtx Rn (imm.setWidth 32 * if U then 4 else -4)

def i16LdrhImmT1 (Rt Rn : RegNo) (imm : Byte) : Disas B Unit := do
  printOpcode "ldrh" 0
  printRIro Rt Rn (imm.setWidth 32 * 2)

def i32LdrhImmT2 (Rt Rn : RegNo) (imm : BitVec 16) : Disas B Unit := do
  printOpcode "ldrh" opcodeWide
  printRIrO Rt Rn (imm.setWidth 32)

def i16LdrhRegT1 (Rt Rn Rm : RegNo) : Disas B Unit := do
  printOpcode "ldrh" 0
  printRIrr Rt Rn Rm

def i16LdrsbRegT1 (Rt Rn Rm : RegNo) : Disas B Unit := do
  printOpcode "ldrsb" 0
  printRIrr Rt Rn Rm

def i32LdrshImmT1 (Rt Rn : RegNo) (imm : BitVec 16) : Disas B Unit := do
  printOpcode "ldrsh" opcodeWide
  printRIrO Rt Rn (imm.setWidth 32)

def i16LdrshRegT1 (Rt Rn Rm : RegNo) : Disas B Unit := do
  printOpcode "ldrsh" 0
  printRIrr Rt Rn Rm

def i16LslImmT1 (Rd Rm : RegNo) (imm : Byte) : Disas B Unit := do
  if imm ≠ 0 then
    printOpcode "lsl" opcodeSetflagsIfUncond
    printRri Rd Rm (imm.setWidth 32)
  else
    printOpcode "mov" opcodeSetflagsIfUncond
    printRr Rd Rm

def i32LslImmT2 (Rd Rm : RegNo) (imm : Byte) (S : Bool) : Disas B Unit := do
  printOpcode "mov" (opcodeWide ||| if S then opcodeSetflags else 0)
  printRrs Rd Rm typeLsl imm

def i16LslRegT1 (Rdn Rm : RegNo) : Disas B Unit := do
  printOpcode "lsl" opcodeSetflagsIfUncond
  printRr Rdn Rm

def i32LslRegT2 (Rd Rn Rm : RegNo) (S : Bool) : Disas B Unit := do
  printOpcode "lsl" (opcodeWide ||| if S then opcodeSetflags else 0)
  printRrr Rd Rn Rm

def i16LsrImmT1 (Rd Rm : RegNo) (imm : Byte) : Disas B Unit := do
  printOpcode "lsr" opcodeSetflagsIfUncond
  let imm := if imm = 0 then 32 else imm
  printRri Rd Rm (imm.setWidth 32)

def i32LsrImmT2 (Rd Rm : RegNo) (imm : Byte) (S : Bool) : Disas B Unit := do
  printOpcode "mov" (opcodeWide ||| if S then opcodeSetflags else 0)
  printRrs Rd Rm typeLsr imm

def i16LsrRegT1 (Rdn Rm : RegNo) : Disas B Unit := do
  printOpcode "lsr" opcodeSetflagsIfUncond
  printRr Rdn Rm

def i32LsrRegT2 (Rd Rn Rm : RegNo) (S : Bool) : Disas B Unit := do
  printOpcode "lsr" (opcodeWide ||| if S then opcodeSetflags else 0)
  printRrr Rd Rn Rm

end Disassembly
