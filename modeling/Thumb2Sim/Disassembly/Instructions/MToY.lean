import Thumb2Sim.Disassembly.Instructions.AToL

open Program

namespace Disassembly

variable {B : Type} [Output B]

-- The stores of words and bytes with an offset, which may be in front of or behind the access.
def printStoreImm (Rt Rn : RegNo) (imm : Byte) (P U W : Bool) : Disas B Unit :=
  let sign := if U then "" else "-"
  let mark := if W then "!" else ""
  let imm  := decimal (imm.setWidth 32)
  if P then
    printDisassembly s!" {regString Rt}, [{regString Rn}, #{sign}{imm}]{mark}"
  else
    printDisassembly s!" {regString Rt}, [{regString Rn}], #{sign}{imm}"

def i32MlaT1 (Rd Rn Rm Ra : RegNo) : Disas B Unit := do
  printOpcode "mla" 0
  printRrrr Rd Rn Rm Ra

def i16MovImmT1 (Rd : RegNo) (imm : Byte) : Disas B Unit := do
  printOpcode "mov" opcodeSetflagsIfUncond
  printRi Rd (imm.setWidth 32)

def i32MovImmT2 (Rd : RegNo) (imm : Word) (S : Bool) : Disas B Unit := do
  printOpcode "mov" (opcodeWide ||| if S then opcodeSetflags else 0)
  printRi Rd imm

def i32MovImmT3 (Rd : RegNo) (imm : BitVec 16) : Disas B Unit := do
  printOpcode "movw" 0
  printRi Rd (imm.setWidth 32)

def i16MovRegT1 (Rd Rm : RegNo) : Disas B Unit := do
  printOpcode "mov" 0
  printRr Rd Rm

def i16MovRegT2 (Rd Rm : RegNo) : Disas B Unit := do
  printOpcode "mov" opcodeSetflagsIfUncond
  printRr Rd Rm

def i32MovtT1 (Rd : RegNo) (imm : BitVec 16) : Disas B Unit := do
  printOpcode "movt" 0
  printRi Rd (imm.setWidth 32)

def i16MulT1 (Rdm Rn : RegNo) : Disas B Unit := do
  printOpcode "mul" opcodeSetflagsIfUncond
  printRr Rdm Rn

def i32MulT2 (Rd Rn Rm : RegNo) : Disas B Unit := do
  printOpcode "mul" opcodeWide
  printRrr Rd Rn Rm

def i32MvnImmT1 (Rd : RegNo) (imm : Word) (S : Bool) : Disas B Unit := do
  printOpcode "mvn" (opcodeWide ||| if S then opcodeSetflags else 0)
  printRi Rd imm

def i16MvnRegT1 (Rd Rm : RegNo) : Disas B Unit := do
  printOpcode "mvn" opcodeSetflagsIfUncond
  printRr Rd Rm

def i32MvnRegT2 (Rd Rm : RegNo) (imm : Word) (type : Byte) (S : Bool) : Disas B Unit := do
  printOpcode "mvn" (opcodeWide ||| if S then opcodeSetflags else 0)
  printRrs Rd Rm type (imm.setWidth 8)

def i16NopT1 : Disas B Unit :=
  printOpcode "nop" 0

def i32NopT2 : Disas B Unit :=
  printOpcode "nop" opcodeWide

def i32OrrImmT1 (Rd Rn : RegNo) (imm : Word) (S : Bool) : Disas B Unit := do
  printOpcode "orr" (opcodeWide ||| if S then opcodeSetflags else 0)
  printRri Rd Rn imm

def i16OrrRegT1 (Rdn Rm : RegNo) : Disas B Unit := do
  printOpcode "orr" opcodeSetflagsIfUncond
  printRr Rdn Rm

def i32OrrRegT2 (Rd Rn Rm : RegNo) (imm type : Byte) (S : Bool) : Disas B Unit := do
  if Rn ≠ 0x0f then
    printOpcode "orr" (opcodeWide ||| if S then opcodeSetflags else 0)
    printRrrs Rd Rn Rm type imm
  else
    printOpcode "mov" (opcodeWide ||| if S then opcodeSetflags else 0)
    printRrs Rd Rm type imm

def i16PopT1 (registerList : Byte) (P : Bool) : Disas B Unit := do
  printOpcode "pop" 0
  printReglist (withReg (registerList.setWidth 16) regPc P)

def i32PopT2 (registerList : BitVec 16) (P M : Bool) : Disas B Unit := do
  printOpcode "ldmia" opcodeWide
  printR regSp
  printDisassembly "!, "
  printReglist (withReg (withReg registerList regPc P) regLr M)

def i32PopT3 (Rt : RegNo) : Disas B Unit := do
  printOpcode "ldr" opcodeWide
  printRIri Rt regSp 4

def i16PushT1 (registerList : Byte) (M : Bool) : Disas B Unit := do
  printOpcode "push" 0
  printReglist (withReg (registerList.setWidth 16) regLr M)

def i32PushT2 (registerList : BitVec 16) (M : Bool) : Disas B Unit := do
  printOpcode "push" 0
  printReglist (withReg registerList regLr M)

def i32PushT3 (Rt : RegNo) : Disas B Unit := do
  printOpcode "str" opcodeWide
  printRIro Rt regSp (-4)
  printDisassembly "!"

def i16Rev16T1 (Rd Rm : RegNo) : Disas B Unit := do
  printOpcode "rev16" 0
  printRr Rd Rm

def i16RevT1 (Rd Rm : RegNo) : Disas B Unit := do
  printOpcode "rev" 0
  printRr Rd Rm

def i32RevT2 (Rd Rm _Rmx : RegNo) : Disas B Unit := do
  printOpcode "rev" opcodeWide
  printRr Rd Rm

def i16RevshT1 (Rd Rm : RegNo) : Disas B Unit := do
  printOpcode "revsh" 0
  printRr Rd Rm

def i32RorImmT1 (Rd Rm : RegNo) (imm : Byte) (S : Bool) : Disas B Unit := do
  printOpcode "mov" (opcodeWide ||| if S then opcodeSetflags else 0)
  printRr Rd Rm
  printDisassembly (printS typeRor imm)

def i16RorRegT1 (Rdn Rm : RegNo) : Disas B Unit := do
  printOpcode "ror" opcodeSetflagsIfUncond
  printRr Rdn Rm

def i16RsbImmT1 (Rd Rn : RegNo) : Disas B Unit := do
  printOpcode "neg" opcodeSetflagsIfUncond
  printRr Rd Rn

def i32RsbImmT2 (Rd Rn : RegNo) (imm : Word) (S : Bool) : Disas B Unit := do
  printOpcode "rsb" (if S then opcodeSetflags else 0)
  printRri Rd Rn imm

def i32RsbRegT1 (Rd Rn Rm : RegNo) (imm type : Byte) (S : Bool) : Disas B Unit := do
  printOpcode "rsb" (if S then opcodeSetflags else 0)
  printRrrs Rd Rn Rm type imm

def i32SbcImmT1 (Rd Rn : RegNo) (imm : Word) (S : Bool) : Disas B Unit := do
  printOpcode "sbc" (opcodeWide ||| if S then opcodeSetflags else 0)
  printRri Rd Rn imm

def i16SbcRegT1 (Rdn Rm : RegNo) : Disas B Unit := do
  printOpcode "sbc" opcodeSetflagsIfUncond
  printRr Rdn Rm

def i32SbcRegT2 (Rd Rn Rm : RegNo) (imm type : Byte) (S : Bool) : Disas B Unit := do
  printOpcode "sbc" (opcodeWide ||| if S then opcodeSetflags else 0)
  printRrrs Rd Rn Rm type imm

def i32SdivT1 (Rd Rn Rm : RegNo) : Disas B Unit := do
  printOpcode "sdiv" 0
  printRrr Rd Rn Rm

def i16SevT1 : Disas B Unit :=
  printOpcode "sev" 0

def i32SevT2 : Disas B Unit :=
  printOpcode "sev" 0

def i32SmullT1 (Rn Rm RdLo RdHi : RegNo) : Disas B Unit := do
  printOpcode "smull" 0
  printRrrr RdLo RdHi Rn Rm

def i16StmT1 (Rn : RegNo) (registerList : Byte) : Disas B Unit := do
  printOpcode "stmia" 0
  printBase Rn true
  printReglist (registerList.setWidth 16)

def i32StmT2 (Rn : RegNo) (registerList : BitVec 16) (M W : Bool) : Disas B Unit := do
  printOpcode "stmia" opcodeWide
  printBase Rn W
  printReglist (withReg registerList regLr M)

def i32StmdbT1 (Rn : RegNo) (registerList : BitVec 16) (M _W : Bool) : Disas B Unit := do
  printOpcode "stmdb" 0
  printBase Rn true
  printReglist (withReg registerList regLr M)

def i16StrImmT1 (Rt Rn : RegNo) (imm : Byte) : Disas B Unit := do
  printOpcode "str" 0
  printRIro Rt Rn (imm.setWidth 32 * 4)

def i16StrImmT2 (Rt : RegNo) (imm : Byte) : Disas B Unit := do
  printOpcode "str" 0
  printRIro Rt regSp (imm.setWidth 32 * 4)

def i32StrImmT3 (Rt Rn : RegNo) (imm : BitVec 16) : Disas B Unit := do
  printOpcode "str" opcodeWide
  printRIrO Rt Rn (imm.setWidth 32)

def i32StrImmT4 (Rt Rn : RegNo) (imm : Byte) (P U W : Bool) : Disas B Unit := do
  printOpcode "str" opcodeWide
  printStoreImm Rt Rn imm P U W

def i16StrRegT1 (Rt Rn Rm : RegNo) : Disas B Unit := do
  printOpcode "str" 0
  printRIrr Rt Rn Rm

def i32StrRegT2 (Rt Rn Rm : RegNo) (imm : Byte) : Disas B Unit := do
  printOpcode "str" opcodeWide
  printDisassembly
    s!" {regString Rt}, [{regString Rn}, {regString Rm}, lsl #{decimal (imm.setWidth 32)}]"

def i16StrbImmT1 (Rt Rn : RegNo) (imm : Byte) : Disas B Unit := do
  printOpcode "strb" 0
  printRIro Rt Rn (imm.setWidth 32)

def i32StrbImmT2 (Rt Rn : RegNo) (imm : BitVec 16) : Disas B Unit := do
  printOpcode "strb" opcodeWide
  printRIrO Rt Rn (imm.setWidth 32)

def i32StrbImmT3 (Rt Rn : RegNo) (imm : Byte) (P U W : Bool) : Disas B Unit := do
  printOpcode "strb" opcodeWide
  printStoreImm Rt Rn imm P U W

def i16StrbRegT1 (Rt Rn Rm : RegNo) : Disas B Unit := do
  printOpcode "strb" 0
  printRIrr Rt Rn Rm

def i32StrbRegT2 (Rt Rn Rm : RegNo) (imm : Byte) : Disas B Unit := do
  printOpcode "strb" opcodeWide
  if imm = 0 then
    printRIrr Rt Rn Rm
  else
    printRIrrs Rt Rn Rm typeLsl imm

def i32StrdImmT1 (Rt Rn Rtx : RegNo) (imm : Byte) (_P _U _W : Bool) : Disas B Unit := do
  printOpcode "strd" 0
  printRrIrO Rt Rtx Rn (imm.setWidth 32 * 4)

def i16StrhImmT1 (Rt Rn : RegNo) (imm : Byte) : Disas B Unit := do
  printOpcode "strh" 0
  printRIro Rt Rn (imm.setWidth 32 * 2)

def i32StrhImmT2 (Rt Rn : RegNo) (imm : BitVec 16) : Disas B Unit := do
  printOpcode "strh" opcodeWide
  printRIro Rt Rn (imm.setWidth 32)

def i16StrhRegT1 (Rt Rn Rm : RegNo) : Disas B Unit := do
  printOpcode "strh" 0
  printRIrr Rt Rn Rm

def i16SubSPimmT1 (imm : Byte) : Disas B Unit := do
  printOpcode "sub" 0
  printRi regSp (imm.setWidth 32 * 4)

def i16SubImmT1 (Rd Rn : RegNo) (imm : Byte) : Disas B Unit := do
  printOpcode "sub" opcodeSetflagsIfUncond
  printRri Rd Rn (imm.setWidth 32)

def i16SubImmT2 (Rdn : RegNo) (imm : Byte) : Disas B Unit := do
  printOpcode "sub" opcodeSetflagsIfUncond
  printRi Rdn (imm.setWidth 32)

def i32SubImmT3 (Rd Rn : RegNo) (imm : Word) (S : Bool) : Disas B Unit := do
  printOpcode "sub" (opcodeWide ||| if S then opcodeSetflags else 0)
  printRri Rd Rn imm

def i32SubImmT4 (Rd Rn : RegNo) (imm : BitVec 16) : Disas B Unit := do
  printOpcode "subw" 0
  printRri Rd Rn (imm.setWidth 32)

def i16SubRegT1 (Rd Rn Rm : RegNo) : Disas B Unit := do
  printOpcode "sub" opcodeSetflagsIfUncond
  printRrr Rd Rn Rm

def i32SubRegT2 (Rd Rn Rm : RegNo) (imm type : Byte) (S : Bool) : Disas B Unit := do
  printOpcode "sub" (opcodeWide ||| if S then opcodeSetflags else 0)
  printRrrs Rd Rn Rm type imm

def i16SvcT1 (imm : Byte) : Disas B Unit := do
  printOpcode "svc" 0
  printDisassembly s!" {decimal (imm.setWidth 32)}"

def i32Sxtb16T1 (Rd Rm : RegNo) (_rotate : Byte) : Disas B Unit := do
  printOpcode "sxtb" 0
  printRr Rd Rm

def i16SxtbT1 (Rd Rm : RegNo) : Disas B Unit := do
  printOpcode "sxtb" 0
  printRr Rd Rm

def i16SxthT1 (Rd Rm : RegNo) : Disas B Unit := do
  printOpcode "sxth" 0
  printRr Rd Rm

def i32TbbT1 (Rn Rm : RegNo) (H : Bool) : Disas B Unit := do
  if H then
    printOpcode "tbh" 0
    printIrrs Rn Rm typeLsl 1
  else
    printOpcode "tbb" 0
    printIrr Rn Rm

def i32TstImmT1 (Rn : RegNo) (imm : Word) : Disas B Unit := do
  printOpcode "tst" opcodeWide
  printRi Rn imm

def i16TstRegT1 (Rn Rm : RegNo) : Disas B Unit := do
  printOpcode "tst" 0
  printRr Rn Rm

def i32UbfxT1 (Rd Rn : RegNo) (imm width : Byte) : Disas B Unit := do
  printOpcode "ubfx" 0
  printRrii Rd Rn (imm.setWidth 32) (width.setWidth 32 + 1)

def i16UdfT1 (imm : Byte) : Disas B Unit := do
  printOpcode "udf" 0
  printI imm

def i32UdivT1 (Rd Rn Rm : RegNo) : Disas B Unit := do
  printOpcode "udiv" 0
  printRrr Rd Rn Rm

def i32UmlalT1 (Rn Rm RdLo RdHi : RegNo) : Disas B Unit := do
  printOpcode "umlal" 0
  printRrrr RdLo RdHi Rn Rm

def i32UmullT1 (Rn Rm RdLo RdHi : RegNo) : Disas B Unit := do
  printOpcode "umull" 0
  printRrrr RdLo RdHi Rn Rm

def i16UxtbT1 (Rd Rm : RegNo) : Disas B Unit := do
  printOpcode "uxtb" 0
  printRr Rd Rm

def i32UxtbT2 (Rd Rm : RegNo) (rotate : Byte) : Disas B Unit := do
  if rotate = 0 then
    printOpcode "uxtb" opcodeWide
    printRr Rd Rm
  else
    printOpcode "uxtb" opcodeWide
    printRrs Rd Rm typeRor (rotate * 8)

def i16UxthT1 (Rd Rm : RegNo) : Disas B Unit := do
  printOpcode "uxth" 0
  printRr Rd Rm

def i32UxthT2 (Rd Rm : RegNo) (rotate : Byte) : Disas B Unit := do
  if rotate = 0 then
    printOpcode "uxth" opcodeWide
    printRr Rd Rm
  else
    printOpcode "uxth" opcodeWide
    printRrs Rd Rm typeRor (rotate * 8)

def i16YieldT1 : Disas B Unit :=
  printOpcode "yield" 0

def i32YieldT2 : Disas B Unit :=
  printOpcode "yield" opcodeWide

end Disassembly
