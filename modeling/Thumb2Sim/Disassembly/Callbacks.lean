import Thumb2Sim.Disassembly.Instructions.MToY

open Disassembly

variable {B : Type} [Output B]

-- The handlers that print nothing.
def notDisassembled : Args → Disas B Unit :=
  fun _ => pure ()

def disassemblyCallbacks : DecodingHandler (DisasCtx B)
  | .adcImmT1 => some fun a => i32AdcImmT1 (a.uint8 .Rd) (a.uint8 .Rn) (a.int32 .imm) (a.bool .S)
  | .adcRegT1 => some fun a => i16AdcRegT1 (a.uint8 .Rdn) (a.uint8 .Rm)
  | .adcRegT2 => some fun a =>
      i32AdcRegT2 (a.uint8 .Rd) (a.uint8 .Rn) (a.uint8 .Rm) (a.uint8 .imm) (a.uint8 .type)
        (a.bool .S)
  | .addSPiT1 => some fun a => i16AddSPiT1 (a.uint8 .Rd) (a.uint8 .imm)
  | .addSPiT2 => some fun a => i16AddSPiT2 (a.uint8 .imm)
  | .addSPiT3 => some fun a => i32AddSPiT3 (a.uint8 .Rd) (a.int32 .imm) (a.bool .S)
  | .addSPiT4 => some fun a => i32AddSPiT4 (a.uint8 .Rd) (a.uint16 .imm)
  | .addSPrT1 => some fun a => i16AddSPrT1 (a.uint8 .Rdm)
  | .addSPrT2 => some fun a => i16AddSPrT2 (a.uint8 .Rm)
  | .addImmT1 => some fun a => i16AddImmT1 (a.uint8 .Rd) (a.uint8 .Rn) (a.uint8 .imm)
  | .addImmT2 => some fun a => i16AddImmT2 (a.uint8 .Rdn) (a.uint8 .imm)
  | .addImmT3 => some fun a => i32AddImmT3 (a.uint8 .Rd) (a.uint8 .Rn) (a.int32 .imm) (a.bool .S)
  | .addImmT4 => some fun a => i32AddImmT4 (a.uint8 .Rd) (a.uint8 .Rn) (a.uint16 .imm)
  | .addRegT1 => some fun a => i16AddRegT1 (a.uint8 .Rd) (a.uint8 .Rn) (a.uint8 .Rm)
  | .addRegT2 => some fun a => i16AddRegT2 (a.uint8 .Rdn) (a.uint8 .Rm)
  | .addRegT3 => some fun a =>
      i32AddRegT3 (a.uint8 .Rd) (a.uint8 .Rn) (a.uint8 .Rm) (a.uint8 .imm) (a.uint8 .type)
        (a.bool .S)
  | .adrT1 => some fun a => i16AdrT1 (a.uint8 .Rd) (a.uint8 .imm)
  | .andImmT1 => some fun a => i32AndImmT1 (a.uint8 .Rd) (a.uint8 .Rn) (a.int32 .imm) (a.bool .S)
  | .andRegT1 => some fun a => i16AndRegT1 (a.uint8 .Rdn) (a.uint8 .Rm)
  | .andRegT2 => some fun a =>
      i32AndRegT2 (a.uint8 .Rd) (a.uint8 .Rn) (a.uint8 .Rm) (a.uint8 .imm) (a.uint8 .type)
        (a.bool .S)
  | .asrImmT1 => some fun a => i16AsrImmT1 (a.uint8 .Rd) (a.uint8 .Rm) (a.uint8 .imm)
  | .asrImmT2 => some fun a => i32AsrImmT2 (a.uint8 .Rd) (a.uint8 .Rm) (a.uint8 .imm) (a.bool .S)
  | .asrRegT1 => some fun a => i16AsrRegT1 (a.uint8 .Rdn) (a.uint8 .Rm)
  | .asrRegT2 => some fun a => i32AsrRegT2 (a.uint8 .Rd) (a.uint8 .Rn) (a.uint8 .Rm) (a.bool .S)
  | .bT1 => some fun a => i16BT1 (a.uint8 .imm) (a.uint8 .cond)
  | .bT2 => some fun a => i16BT2 (a.uint16 .imm)
  | .bT3 => some fun a => i32BT3 (a.int32 .imm) (a.uint8 .cond)
  | .bT4 => some fun a => i32BT4 (a.int32 .imm)
  | .bicImmT1 => some fun a => i32BicImmT1 (a.uint8 .Rd) (a.uint8 .Rn) (a.int32 .imm) (a.bool .S)
  | .bicRegT1 => some fun a => i16BicRegT1 (a.uint8 .Rdn) (a.uint8 .Rm)
  | .bicRegT2 => some fun a =>
      i32BicRegT2 (a.uint8 .Rd) (a.uint8 .Rn) (a.uint8 .Rm) (a.uint8 .imm) (a.uint8 .type)
        (a.bool .S)
  | .bkptT1 => some fun a => i16BkptT1 (a.uint8 .imm)
  | .blT1 => some fun a => i32BlT1 (a.int32 .imm)
  | .blxRegT1 => some fun a => i16BlxRegT1 (a.uint8 .Rm)
  | .bxT1 => some fun a => i16BxT1 (a.uint8 .Rm)
  | .cbnzT1 => some fun a => i16CbnzT1 (a.uint8 .Rn) (a.uint8 .imm) (a.bool .op)
  | .clzT1 => some fun a => i32ClzT1 (a.uint8 .Rd) (a.uint8 .Rm) (a.uint8 .Rmx)
  | .cmnImmT1 => some fun a => i32CmnImmT1 (a.uint8 .Rn) (a.int32 .imm)
  | .cmnRegT1 => some fun a => i16CmnRegT1 (a.uint8 .Rn) (a.uint8 .Rm)
  | .cmnRegT2 => some fun a =>
      i32CmnRegT2 (a.uint8 .Rn) (a.uint8 .Rm) (a.int32 .imm) (a.uint8 .type)
  | .cmpImmT1 => some fun a => i16CmpImmT1 (a.uint8 .Rn) (a.uint8 .imm)
  | .cmpImmT2 => some fun a => i32CmpImmT2 (a.uint8 .Rn) (a.int32 .imm)
  | .cmpRegT1 => some fun a => i16CmpRegT1 (a.uint8 .Rn) (a.uint8 .Rm)
  | .cmpRegT2 => some fun a => i16CmpRegT2 (a.uint8 .Rn) (a.uint8 .Rm)
  | .cmpRegT3 => some fun a =>
      i32CmpRegT3 (a.uint8 .Rn) (a.uint8 .Rm) (a.uint8 .imm) (a.uint8 .type)
  | .cpsT1 => some fun a => i16CpsT1 (a.bool .imm) (a.bool .F) (a.bool .I)
  | .eorImmT1 => some fun a => i32EorImmT1 (a.uint8 .Rd) (a.uint8 .Rn) (a.int32 .imm) (a.bool .S)
  | .eorRegT1 => some fun a => i16EorRegT1 (a.uint8 .Rdn) (a.uint8 .Rm)
  | .eorRegT2 => some fun a =>
      i32EorRegT2 (a.uint8 .Rd) (a.uint8 .Rn) (a.uint8 .Rm) (a.uint8 .imm) (a.uint8 .type)
        (a.bool .S)
  | .itT1 => some fun a => i16ItT1 (a.uint8 .firstcond) (a.uint8 .mask)
  | .ldmT1 => some fun a => i16LdmT1 (a.uint8 .Rn) (a.uint8 .registerList)
  | .ldmT2 => some fun a =>
      i32LdmT2 (a.uint8 .Rn) (a.uint16 .registerList) (a.bool .P) (a.bool .M) (a.bool .W)
  | .ldmdbT1 => some fun a =>
      i32LdmdbT1 (a.uint8 .Rn) (a.uint16 .registerList) (a.bool .P) (a.bool .M) (a.bool .W)
  | .ldrImmT1 => some fun a => i16LdrImmT1 (a.uint8 .Rt) (a.uint8 .Rn) (a.uint8 .imm)
  | .ldrImmT2 => some fun a => i16LdrImmT2 (a.uint8 .Rt) (a.uint8 .imm)
  | .ldrImmT3 => some fun a => i32LdrImmT3 (a.uint8 .Rt) (a.uint8 .Rn) (a.uint16 .imm)
  | .ldrImmT4 => some fun a =>
      i32LdrImmT4 (a.uint8 .Rt) (a.uint8 .Rn) (a.uint8 .imm) (a.bool .P) (a.bool .U) (a.bool .W)
  | .ldrLitT1 => some fun a => i16LdrLitT1 (a.uint8 .Rt) (a.uint8 .imm)
  | .ldrLitT2 => some fun a => i32LdrLitT2 (a.uint8 .Rt) (a.uint16 .imm) (a.bool .U)
  | .ldrRegT1 => some fun a => i16LdrRegT1 (a.uint8 .Rt) (a.uint8 .Rn) (a.uint8 .Rm)
  | .ldrRegT2 => some fun a => i32LdrRegT2 (a.uint8 .Rt) (a.uint8 .Rn) (a.uint8 .Rm) (a.uint8 .imm)
  | .ldrbImmT1 => some fun a => i16LdrbImmT1 (a.uint8 .Rt) (a.uint8 .Rn) (a.uint8 .imm)
  | .ldrbImmT2 => some fun a => i32LdrbImmT2 (a.uint8 .Rt) (a.uint8 .Rn) (a.uint16 .imm)
  | .ldrbImmT3 => some fun a =>
      i32LdrbImmT3 (a.uint8 .Rt) (a.uint8 .Rn) (a.uint8 .imm) (a.bool .P) (a.bool .U) (a.bool .W)
  | .ldrbRegT1 => some fun a => i16LdrbRegT1 (a.uint8 .Rt) (a.uint8 .Rn) (a.uint8 .Rm)
  | .ldrbRegT2 => some fun a =>
      i32LdrbRegT2 (a.uint8 .Rt) (a.uint8 .Rn) (a.uint8 .Rm) (a.uint8 .imm)
  | .ldrdImmT1 => some fun a =>
      i32LdrdImmT1 (a.uint8 .Rt) (a.uint8 .Rn) (a.uint8 .Rtx) (a.uint8 .imm) (a.bool .P)
        (a.bool .U) (a.bool .W)
  | .ldrhImmT1 => some fun a => i16LdrhImmT1 (a.uint8 .Rt) (a.uint8 .Rn) (a.uint8 .imm)
  | .ldrhImmT2 => some fun a => i32LdrhImmT2 (a.uint8 .Rt) (a.uint8 .Rn) (a.uint16 .imm)
  | .ldrhRegT1 => some fun a => i16LdrhRegT1 (a.uint8 .Rt) (a.uint8 .Rn) (a.uint8 .Rm)
  | .ldrsbRegT1 => some fun a => i16LdrsbRegT1 (a.uint8 .Rt) (a.uint8 .Rn) (a.uint8 .Rm)
  | .ldrshImmT1 => some fun a => i32LdrshImmT1 (a.uint8 .Rt) (a.uint8 .Rn) (a.uint16 .imm)
  | .ldrshRegT1 => some fun a => i16LdrshRegT1 (a.uint8 .Rt) (a.uint8 .Rn) (a.uint8 .Rm)
  | .lslImmT1 => some fun a => i16LslImmT1 (a.uint8 .Rd) (a.uint8 .Rm) (a.uint8 .imm)
  | .lslImmT2 => some fun a => i32LslImmT2 (a.uint8 .Rd) (a.uint8 .Rm) (a.uint8 .imm) (a.bool .S)
  | .lslRegT1 => some fun a => i16LslRegT1 (a.uint8 .Rdn) (a.uint8 .Rm)
  | .lslRegT2 => some fun a => i32LslRegT2 (a.uint8 .Rd) (a.uint8 .Rn) (a.uint8 .Rm) (a.bool .S)
  | .lsrImmT1 => some fun a => i16LsrImmT1 (a.uint8 .Rd) (a.uint8 .Rm) (a.uint8 .imm)
  | .lsrImmT2 => some fun a => i32LsrImmT2 (a.uint8 .Rd) (a.uint8 .Rm) (a.uint8 .imm) (a.bool .S)
  | .lsrRegT1 => some fun a => i16LsrRegT1 (a.uint8 .Rdn) (a.uint8 .Rm)
  | .lsrRegT2 => some fun a => i32LsrRegT2 (a.uint8 .Rd) (a.uint8 .Rn) (a.uint8 .Rm) (a.bool .S)
  | .mlaT1 => some fun a => i32MlaT1 (a.uint8 .Rd) (a.uint8 .Rn) (a.uint8 .Rm) (a.uint8 .Ra)
  | .movImmT1 => some fun a => i16MovImmT1 (a.uint8 .Rd) (a.uint8 .imm)
  | .movImmT2 => some fun a => i32MovImmT2 (a.uint8 .Rd) (a.int32 .imm) (a.bool .S)
  | .movImmT3 => some fun a => i32MovImmT3 (a.uint8 .Rd) (a.uint16 .imm)
  | .movRegT1 => some fun a => i16MovRegT1 (a.uint8 .Rd) (a.uint8 .Rm)
  | .movRegT2 => some fun a => i16MovRegT2 (a.uint8 .Rd) (a.uint8 .Rm)
  | .movtT1 => some fun a => i32MovtT1 (a.uint8 .Rd) (a.uint16 .imm)
  | .mulT1 => some fun a => i16MulT1 (a.uint8 .Rdm) (a.uint8 .Rn)
  | .mulT2 => some fun a => i32MulT2 (a.uint8 .Rd) (a.uint8 .Rn) (a.uint8 .Rm)
  | .mvnImmT1 => some fun a => i32MvnImmT1 (a.uint8 .Rd) (a.int32 .imm) (a.bool .S)
  | .mvnRegT1 => some fun a => i16MvnRegT1 (a.uint8 .Rd) (a.uint8 .Rm)
  | .mvnRegT2 => some fun a =>
      i32MvnRegT2 (a.uint8 .Rd) (a.uint8 .Rm) (a.int32 .imm) (a.uint8 .type) (a.bool .S)
  | .nopT1 => some fun _ => i16NopT1
  | .nopT2 => some fun _ => i32NopT2
  | .orrImmT1 => some fun a => i32OrrImmT1 (a.uint8 .Rd) (a.uint8 .Rn) (a.int32 .imm) (a.bool .S)
  | .orrRegT1 => some fun a => i16OrrRegT1 (a.uint8 .Rdn) (a.uint8 .Rm)
  | .orrRegT2 => some fun a =>
      i32OrrRegT2 (a.uint8 .Rd) (a.uint8 .Rn) (a.uint8 .Rm) (a.uint8 .imm) (a.uint8 .type)
        (a.bool .S)
  | .popT1 => some fun a => i16PopT1 (a.uint8 .registerList) (a.bool .P)
  | .popT2 => some fun a => i32PopT2 (a.uint16 .registerList) (a.bool .P) (a.bool .M)
  | .popT3 => some fun a => i32PopT3 (a.uint8 .Rt)
  | .pushT1 => some fun a => i16PushT1 (a.uint8 .registerList) (a.bool .M)
  | .pushT2 => some fun a => i32PushT2 (a.uint16 .registerList) (a.bool .M)
  | .pushT3 => some fun a => i32PushT3 (a.uint8 .Rt)
  | .rev16T1 => some fun a => i16Rev16T1 (a.uint8 .Rd) (a.uint8 .Rm)
  | .revT1 => some fun a => i16RevT1 (a.uint8 .Rd) (a.uint8 .Rm)
  | .revT2 => some fun a => i32RevT2 (a.uint8 .Rd) (a.uint8 .Rm) (a.uint8 .Rmx)
  | .revshT1 => some fun a => i16RevshT1 (a.uint8 .Rd) (a.uint8 .Rm)
  | .rorImmT1 => some fun a => i32RorImmT1 (a.uint8 .Rd) (a.uint8 .Rm) (a.uint8 .imm) (a.bool .S)
  | .rorRegT1 => some fun a => i16RorRegT1 (a.uint8 .Rdn) (a.uint8 .Rm)
  | .rsbImmT1 => some fun a => i16RsbImmT1 (a.uint8 .Rd) (a.uint8 .Rn)
  | .rsbImmT2 => some fun a => i32RsbImmT2 (a.uint8 .Rd) (a.uint8 .Rn) (a.int32 .imm) (a.bool .S)
  | .rsbRegT1 => some fun a =>
      i32RsbRegT1 (a.uint8 .Rd) (a.uint8 .Rn) (a.uint8 .Rm) (a.uint8 .imm) (a.uint8 .type)
        (a.bool .S)
  | .sbcImmT1 => some fun a => i32SbcImmT1 (a.uint8 .Rd) (a.uint8 .Rn) (a.int32 .imm) (a.bool .S)
  | .sbcRegT1 => some fun a => i16SbcRegT1 (a.uint8 .Rdn) (a.uint8 .Rm)
  | .sbcRegT2 => some fun a =>
      i32SbcRegT2 (a.uint8 .Rd) (a.uint8 .Rn) (a.uint8 .Rm) (a.uint8 .imm) (a.uint8 .type)
        (a.bool .S)
  | .sdivT1 => some fun a => i32SdivT1 (a.uint8 .Rd) (a.uint8 .Rn) (a.uint8 .Rm)
  | .sevT1 => some fun _ => i16SevT1
  | .sevT2 => some fun _ => i32SevT2
  | .smullT1 => some fun a => i32SmullT1 (a.uint8 .Rn) (a.uint8 .Rm) (a.uint8 .RdLo) (a.uint8 .RdHi)
  | .stmT1 => some fun a => i16StmT1 (a.uint8 .Rn) (a.uint8 .registerList)
  | .stmT2 => some fun a => i32StmT2 (a.uint8 .Rn) (a.uint16 .registerList) (a.bool .M) (a.bool .W)
  | .stmdbT1 => some fun a =>
      i32StmdbT1 (a.uint8 .Rn) (a.uint16 .registerList) (a.bool .M) (a.bool .W)
  | .strImmT1 => some fun a => i16StrImmT1 (a.uint8 .Rt) (a.uint8 .Rn) (a.uint8 .imm)
  | .strImmT2 => some fun a => i16StrImmT2 (a.uint8 .Rt) (a.uint8 .imm)
  | .strImmT3 => some fun a => i32StrImmT3 (a.uint8 .Rt) (a.uint8 .Rn) (a.uint16 .imm)
  | .strImmT4 => some fun a =>
      i32StrImmT4 (a.uint8 .Rt) (a.uint8 .Rn) (a.uint8 .imm) (a.bool .P) (a.bool .U) (a.bool .W)
  | .strRegT1 => some fun a => i16StrRegT1 (a.uint8 .Rt) (a.uint8 .Rn) (a.uint8 .Rm)
  | .strRegT2 => some fun a => i32StrRegT2 (a.uint8 .Rt) (a.uint8 .Rn) (a.uint8 .Rm) (a.uint8 .imm)
  | .strbImmT1 => some fun a => i16StrbImmT1 (a.uint8 .Rt) (a.uint8 .Rn) (a.uint8 .imm)
  | .strbImmT2 => some fun a => i32StrbImmT2 (a.uint8 .Rt) (a.uint8 .Rn) (a.uint16 .imm)
  | .strbImmT3 => some fun a =>
      i32StrbImmT3 (a.uint8 .Rt) (a.uint8 .Rn) (a.uint8 .imm) (a.bool .P) (a.bool .U) (a.bool .W)
  | .strbRegT1 => some fun a => i16StrbRegT1 (a.uint8 .Rt) (a.uint8 .Rn) (a.uint8 .Rm)
  | .strbRegT2 => some fun a =>
      i32StrbRegT2 (a.uint8 .Rt) (a.uint8 .Rn) (a.uint8 .Rm) (a.uint8 .imm)
  | .strdImmT1 => some fun a =>
      i32StrdImmT1 (a.uint8 .Rt) (a.uint8 .Rn) (a.uint8 .Rtx) (a.uint8 .imm) (a.bool .P)
        (a.bool .U) (a.bool .W)
  | .strhImmT1 => some fun a => i16StrhImmT1 (a.uint8 .Rt) (a.uint8 .Rn) (a.uint8 .imm)
  | .strhImmT2 => some fun a => i32StrhImmT2 (a.uint8 .Rt) (a.uint8 .Rn) (a.uint16 .imm)
  | .strhRegT1 => some fun a => i16StrhRegT1 (a.uint8 .Rt) (a.uint8 .Rn) (a.uint8 .Rm)
  | .subSPimmT1 => some fun a => i16SubSPimmT1 (a.uint8 .imm)
  | .subImmT1 => some fun a => i16SubImmT1 (a.uint8 .Rd) (a.uint8 .Rn) (a.uint8 .imm)
  | .subImmT2 => some fun a => i16SubImmT2 (a.uint8 .Rdn) (a.uint8 .imm)
  | .subImmT3 => some fun a => i32SubImmT3 (a.uint8 .Rd) (a.uint8 .Rn) (a.int32 .imm) (a.bool .S)
  | .subImmT4 => some fun a => i32SubImmT4 (a.uint8 .Rd) (a.uint8 .Rn) (a.uint16 .imm)
  | .subRegT1 => some fun a => i16SubRegT1 (a.uint8 .Rd) (a.uint8 .Rn) (a.uint8 .Rm)
  | .subRegT2 => some fun a =>
      i32SubRegT2 (a.uint8 .Rd) (a.uint8 .Rn) (a.uint8 .Rm) (a.uint8 .imm) (a.uint8 .type)
        (a.bool .S)
  | .svcT1 => some fun a => i16SvcT1 (a.uint8 .imm)
  | .sxtb16T1 => some fun a => i32Sxtb16T1 (a.uint8 .Rd) (a.uint8 .Rm) (a.uint8 .rotate)
  | .sxtbT1 => some fun a => i16SxtbT1 (a.uint8 .Rd) (a.uint8 .Rm)
  | .sxthT1 => some fun a => i16SxthT1 (a.uint8 .Rd) (a.uint8 .Rm)
  | .tbbT1 => some fun a => i32TbbT1 (a.uint8 .Rn) (a.uint8 .Rm) (a.bool .H)
  | .tstImmT1 => some fun a => i32TstImmT1 (a.uint8 .Rn) (a.int32 .imm)
  | .tstRegT1 => some fun a => i16TstRegT1 (a.uint8 .Rn) (a.uint8 .Rm)
  | .ubfxT1 => some fun a => i32UbfxT1 (a.uint8 .Rd) (a.uint8 .Rn) (a.uint8 .imm) (a.uint8 .width)
  | .udfT1 => some fun a => i16UdfT1 (a.uint8 .imm)
  | .udivT1 => some fun a => i32UdivT1 (a.uint8 .Rd) (a.uint8 .Rn) (a.uint8 .Rm)
  | .umlalT1 => some fun a => i32UmlalT1 (a.uint8 .Rn) (a.uint8 .Rm) (a.uint8 .RdLo) (a.uint8 .RdHi)
  | .umullT1 => some fun a => i32UmullT1 (a.uint8 .Rn) (a.uint8 .Rm) (a.uint8 .RdLo) (a.uint8 .RdHi)
  | .uxtbT1 => some fun a => i16UxtbT1 (a.uint8 .Rd) (a.uint8 .Rm)
  | .uxtbT2 => some fun a => i32UxtbT2 (a.uint8 .Rd) (a.uint8 .Rm) (a.uint8 .rotate)
  | .uxthT1 => some fun a => i16UxthT1 (a.uint8 .Rd) (a.uint8 .Rm)
  | .uxthT2 => some fun a => i32UxthT2 (a.uint8 .Rd) (a.uint8 .Rm) (a.uint8 .rotate)
  | .yieldT1 => some fun _ => i16YieldT1
  | .yieldT2 => some fun _ => i32YieldT2
  | .addSPrT3 | .adrT2 | .adrT3 | .bfcT1 | .bfiT1 | .cdp2T2 | .cdpT1 | .clrexT1 | .dbgT1
  | .dmbT1 | .dsbT1 | .isbT1 | .ldc2ImmT2 | .ldc2LitT2 | .ldcImmT1 | .ldcLitT1 | .ldrbLitT1
  | .ldrbtT1 | .ldrdLitT1 | .ldrexT1 | .ldrexbT1 | .ldrexhT1 | .ldrhImmT3 | .ldrhLitT1
  | .ldrhRegT2 | .ldrhtT1 | .ldrsbImmT1 | .ldrsbImmT2 | .ldrsbLitT1 | .ldrsbRegT2 | .ldrsbtT1
  | .ldrshImmT2 | .ldrshLitT1 | .ldrshRegT2 | .ldrshT1 | .ldrtT1 | .mcr2T2 | .mcrT1 | .mcrr2T2
  | .mcrrT1 | .mlsT1 | .movRegT3 | .mrc2T2 | .mrcT1 | .mrrc2T2 | .mrrcT1 | .mrsT1 | .msrT1
  | .ornImmT1 | .ornRegT1 | .pkhbtT1 | .rbitT1 | .rev16T2 | .revshT2 | .rorRegT2 | .rrxT1
  | .stc2T2 | .stcT1 | .strhImmT3 | .strhRegT2 | .strhtT1 | .strtT1 | .subSPimmT2 | .subSPimmT3
  | .subSPregT1 | .sxtbT2 | .sxthT2 | .tstRegT2 | .udfT2 | .uxtb16T1 =>
      some notDisassembled
  | _ => none
