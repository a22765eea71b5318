import Thumb2Sim.Decoder.Basic

-- The branches of `decode_insn` for the opcodes of priority 1, in their order.
def opcodesPriority1 : List Opcode := [
  { variant := .addSPiT4, pattern := ⟨0xfbff8000, 0xf20d0000⟩, length := 4,
    arguments := [
      ⟨.uint8, .Rd, .plain, [⟨0xf00, 8⟩]⟩,
      ⟨.uint16, .imm, .plain, [⟨0x4000000, 15⟩, ⟨0x7000, 4⟩, ⟨0xff, 0⟩]⟩] },
  { variant := .addSPrT2, pattern := ⟨0xff870000, 0x44850000⟩, length := 2,
    arguments := [⟨.uint8, .Rm, .plain, [⟨0x780000, 19⟩]⟩] },
  { variant := .adrT2, pattern := ⟨0xfbff8000, 0xf2af0000⟩, length := 4,
    arguments := [
      ⟨.uint8, .Rd, .plain, [⟨0xf00, 8⟩]⟩,
      ⟨.uint16, .imm, .plain, [⟨0x4000000, 15⟩, ⟨0x7000, 4⟩, ⟨0xff, 0⟩]⟩] },
  { variant := .adrT3, pattern := ⟨0xfbff8000, 0xf20f0000⟩, length := 4,
    arguments := [
      ⟨.uint8, .Rd, .plain, [⟨0xf00, 8⟩]⟩,
      ⟨.uint16, .imm, .plain, [⟨0x4000000, 15⟩, ⟨0x7000, 4⟩, ⟨0xff, 0⟩]⟩] },
  { variant := .bfcT1, pattern := ⟨0xfbff8000, 0xf36f0000⟩, length := 4,
    arguments := [
      ⟨.uint8, .Rd, .plain, [⟨0xf00, 8⟩]⟩, ⟨.uint8, .imm, .plain, [⟨0x7000, 10⟩, ⟨0xc0, 6⟩]⟩,
      ⟨.uint8, .msb, .plain, [⟨0x1f, 0⟩]⟩] },
  { variant := .cmnImmT1, pattern := ⟨0xfbf08f00, 0xf1100f00⟩, length := 4,
    arguments := [
      ⟨.uint8, .Rn, .plain, [⟨0xf0000, 16⟩]⟩,
      ⟨.int32, .imm, .thumbExpandImm, [⟨0x4000000, 15⟩, ⟨0x7000, 4⟩, ⟨0xff, 0⟩]⟩] },
  { variant := .cmnRegT2, pattern := ⟨0xfff00f00, 0xeb100f00⟩, length := 4,
    arguments := [
      ⟨.uint8, .Rn, .plain, [⟨0xf0000, 16⟩]⟩, ⟨.uint8, .Rm, .plain, [⟨0xf, 0⟩]⟩,
      ⟨.int32, .imm, .thumbExpandImm, [⟨0x7000, 10⟩, ⟨0xc0, 6⟩]⟩,
      ⟨.uint8, .type, .plain, [⟨0x30, 4⟩]⟩] },
  { variant := .cmpRegT3, pattern := ⟨0xfff08f00, 0xebb00f00⟩, length := 4,
    arguments := [
      ⟨.uint8, .Rn, .plain, [⟨0xf0000, 16⟩]⟩, ⟨.uint8, .Rm, .plain, [⟨0xf, 0⟩]⟩,
      ⟨.uint8, .imm, .plain, [⟨0x7000, 10⟩, ⟨0xc0, 6⟩]⟩, ⟨.uint8, .type, .plain, [⟨0x30, 4⟩]⟩] },
  { variant := .ldrexbT1, pattern := ⟨0xfff00fff, 0xe8d00f4f⟩, length := 4,
    arguments := [⟨.uint8, .Rt, .plain, [⟨0xf000, 12⟩]⟩, ⟨.uint8, .Rn, .plain, [⟨0xf0000, 16⟩]⟩] },
  { variant := .ldrexhT1, pattern := ⟨0xfff00fff, 0xe8d00f5f⟩, length := 4,
    arguments := [⟨.uint8, .Rt, .plain, [⟨0xf000, 12⟩]⟩, ⟨.uint8, .Rn, .plain, [⟨0xf0000, 16⟩]⟩] },
  { variant := .ldrhRegT2, pattern := ⟨0xfff00fc0, 0xf8300000⟩, length := 4,
    arguments := [
      ⟨.uint8, .Rt, .plain, [⟨0xf000, 12⟩]⟩, ⟨.uint8, .Rn, .plain, [⟨0xf0000, 16⟩]⟩,
      ⟨.uint8, .Rm, .plain, [⟨0xf, 0⟩]⟩, ⟨.uint8, .imm, .plain, [⟨0x30, 4⟩]⟩] },
  { variant := .ldrshT1, pattern := ⟨0xfff00f00, 0xf9300e00⟩, length := 4,
    arguments := [
      ⟨.uint8, .Rt, .plain, [⟨0xf000, 12⟩]⟩, ⟨.uint8, .Rn, .plain, [⟨0xf0000, 16⟩]⟩,
      ⟨.uint8, .imm, .plain, [⟨0xff, 0⟩]⟩] },
  { variant := .ldrshRegT2, pattern := ⟨0xfff00fc0, 0xf9300000⟩, length := 4,
    arguments := [
      ⟨.uint8, .Rt, .plain, [⟨0xf000, 12⟩]⟩, ⟨.uint8, .Rn, .plain, [⟨0xf0000, 16⟩]⟩,
      ⟨.uint8, .Rm, .plain, [⟨0xf, 0⟩]⟩, ⟨.uint8, .imm, .plain, [⟨0x30, 4⟩]⟩] },
  { variant := .mcrr2T2, pattern := ⟨0xfff00000, 0xfc400000⟩, length := 4,
    arguments := [
      ⟨.uint8, .Rt, .plain, [⟨0xf000, 12⟩]⟩, ⟨.uint8, .coproc, .plain, [⟨0xf00, 8⟩]⟩,
      ⟨.uint8, .CRm, .plain, [⟨0xf, 0⟩]⟩, ⟨.uint8, .opcA, .plain, [⟨0xf0, 4⟩]⟩,
      ⟨.uint8, .RtB, .plain, [⟨0xf0000, 16⟩]⟩] },
  { variant := .movImmT2, pattern := ⟨0xfbef8000, 0xf04f0000⟩, length := 4,
    arguments := [
      ⟨.uint8, .Rd, .plain, [⟨0xf00, 8⟩]⟩,
      ⟨.int32, .imm, .thumbExpandImm, [⟨0x4000000, 15⟩, ⟨0x7000, 4⟩, ⟨0xff, 0⟩]⟩,
      ⟨.bool, .S, .plain, [⟨0x100000, 20⟩]⟩] },
  { variant := .movRegT2, pattern := ⟨0xffc00000, 0x00000000⟩, length := 2,
    arguments := [⟨.uint8, .Rd, .plain, [⟨0x70000, 16⟩]⟩, ⟨.uint8, .Rm, .plain, [⟨0x380000, 19⟩]⟩] },
  { variant := .movRegT3, pattern := ⟨0xffeff0f0, 0xf24f0000⟩, length := 4,
    arguments := [
      ⟨.uint8, .Rd, .plain, [⟨0xf00, 8⟩]⟩, ⟨.uint8, .Rm, .plain, [⟨0xf, 0⟩]⟩,
      ⟨.bool, .S, .plain, [⟨0x100000, 20⟩]⟩] },
  { variant := .mrrc2T2, pattern := ⟨0xfff00000, 0xfc500000⟩, length := 4,
    arguments := [
      ⟨.uint8, .Rt, .plain, [⟨0xf000, 12⟩]⟩, ⟨.uint8, .coproc, .plain, [⟨0xf00, 8⟩]⟩,
      ⟨.uint8, .CRm, .plain, [⟨0xf, 0⟩]⟩, ⟨.uint8, .opcA, .plain, [⟨0xf0, 4⟩]⟩,
      ⟨.uint8, .RtB, .plain, [⟨0xf0000, 16⟩]⟩] },
  { variant := .mulT2, pattern := ⟨0xfff0f0f0, 0xfb00f000⟩, length := 4,
    arguments := [
      ⟨.uint8, .Rd, .plain, [⟨0xf00, 8⟩]⟩, ⟨.uint8, .Rn, .plain, [⟨0xf0000, 16⟩]⟩,
      ⟨.uint8, .Rm, .plain, [⟨0xf, 0⟩]⟩] },
  { variant := .mvnImmT1, pattern := ⟨0xfbef8000, 0xf06f0000⟩, length := 4,
    arguments := [
      ⟨.uint8, .Rd, .plain, [⟨0xf00, 8⟩]⟩,
      ⟨.int32, .imm, .thumbExpandImm, [⟨0x4000000, 15⟩, ⟨0x7000, 4⟩, ⟨0xff, 0⟩]⟩,
      ⟨.bool, .S, .plain, [⟨0x100000, 20⟩]⟩] },
  { variant := .mvnRegT2, pattern := ⟨0xffef8000, 0xea6f0000⟩, length := 4,
    arguments := [
      ⟨.uint8, .Rd, .plain, [⟨0xf00, 8⟩]⟩, ⟨.uint8, .Rm, .plain, [⟨0xf, 0⟩]⟩,
      ⟨.int32, .imm, .thumbExpandImm, [⟨0x7000, 10⟩, ⟨0xc0, 6⟩]⟩,
      ⟨.uint8, .type, .plain, [⟨0x30, 4⟩]⟩, ⟨.bool, .S, .plain, [⟨0x100000, 20⟩]⟩] },
  { variant := .nopT1, pattern := ⟨0xffff0000, 0xbf000000⟩, length := 2, arguments := [] },
  { variant := .nopT2, pattern := ⟨0xffffffff, 0xf3af8000⟩, length := 4, arguments := [] },
  { variant := .pldImmlitT3, pattern := ⟨0xff7ff000, 0xf91ff000⟩, length := 4,
    arguments := [⟨.uint16, .imm, .plain, [⟨0xfff, 0⟩]⟩, ⟨.bool, .U, .plain, [⟨0x800000, 23⟩]⟩] },
  { variant := .pldLitT1, pattern := ⟨0xff7ff000, 0xf81ff000⟩, length := 4,
    arguments := [⟨.uint16, .imm, .plain, [⟨0xfff, 0⟩]⟩, ⟨.bool, .U, .plain, [⟨0x800000, 23⟩]⟩] },
  { variant := .popT2, pattern := ⟨0xffff2000, 0xe8bd0000⟩, length := 4,
    arguments := [
      ⟨.uint16, .registerList, .plain, [⟨0x1fff, 0⟩]⟩, ⟨.bool, .P, .plain, [⟨0x8000, 15⟩]⟩,
      ⟨.bool, .M, .plain, [⟨0x4000, 14⟩]⟩] },
  { variant := .popT3, pattern := ⟨0xffff0fff, 0xf85d0b04⟩, length := 4,
    arguments := [⟨.uint8, .Rt, .plain, [⟨0xf000, 12⟩]⟩] },
  { variant := .pushT2, pattern := ⟨0xffffa000, 0xe92d0000⟩, length := 4,
    arguments := [
      ⟨.uint16, .registerList, .plain, [⟨0x1fff, 0⟩]⟩, ⟨.bool, .M, .plain, [⟨0x4000, 14⟩]⟩] },
  { variant := .pushT3, pattern := ⟨0xffff0fff, 0xf84d0d04⟩, length := 4,
    arguments := [⟨.uint8, .Rt, .plain, [⟨0xf000, 12⟩]⟩] },
  { variant := .qasxT1, pattern := ⟨0xfff0f0f0, 0xfae0f010⟩, length := 4,
    arguments := [
      ⟨.uint8, .Rd, .plain, [⟨0xf00, 8⟩]⟩, ⟨.uint8, .Rn, .plain, [⟨0xf0000, 16⟩]⟩,
      ⟨.uint8, .Rm, .plain, [⟨0xf, 0⟩]⟩] },
  { variant := .qsaxT1, pattern := ⟨0xfff0f0f0, 0xfae0f010⟩, length := 4,
    arguments := [
      ⟨.uint8, .Rd, .plain, [⟨0xf00, 8⟩]⟩, ⟨.uint8, .Rn, .plain, [⟨0xf0000, 16⟩]⟩,
      ⟨.uint8, .Rm, .plain, [⟨0xf, 0⟩]⟩] },
  { variant := .rrxT1, pattern := ⟨0xffef70f0, 0xea4f0030⟩, length := 4,
    arguments := [
      ⟨.uint8, .Rd, .plain, [⟨0xf00, 8⟩]⟩, ⟨.uint8, .Rm, .plain, [⟨0xf, 0⟩]⟩,
      ⟨.bool, .S, .plain, [⟨0x100000, 20⟩]⟩] },
  { variant := .sevT1, pattern := ⟨0xffff0000, 0xbf400000⟩, length := 2, arguments := [] },
  { variant := .smmulT1, pattern := ⟨0xfff0f0e0, 0xfb50f000⟩, length := 4,
    arguments := [
      ⟨.uint8, .Rd, .plain, [⟨0xf00, 8⟩]⟩, ⟨.uint8, .Rn, .plain, [⟨0xf0000, 16⟩]⟩,
      ⟨.uint8, .Rm, .plain, [⟨0xf, 0⟩]⟩, ⟨.bool, .R, .plain, [⟨0x10, 4⟩]⟩] },
  { variant := .smuadT1, pattern := ⟨0xfff0f0e0, 0xfb20f000⟩, length := 4,
    arguments := [
      ⟨.uint8, .Rd, .plain, [⟨0xf00, 8⟩]⟩, ⟨.uint8, .Rn, .plain, [⟨0xf0000, 16⟩]⟩,
      ⟨.uint8, .Rm, .plain, [⟨0xf, 0⟩]⟩, ⟨.bool, .M, .plain, [⟨0x10, 4⟩]⟩] },
  { variant := .smulbbT1, pattern := ⟨0xfff0f0c0, 0xfb10f000⟩, length := 4,
    arguments := [
      ⟨.uint8, .Rd, .plain, [⟨0xf00, 8⟩]⟩, ⟨.uint8, .Rn, .plain, [⟨0xf0000, 16⟩]⟩,
      ⟨.uint8, .Rm, .plain, [⟨0xf, 0⟩]⟩, ⟨.bool, .N, .plain, [⟨0x20, 5⟩]⟩,
      ⟨.bool, .M, .plain, [⟨0x10, 4⟩]⟩] },
  { variant := .smulwbT1, pattern := ⟨0xfff0f0e0, 0xfb30f000⟩, length := 4,
    arguments := [
      ⟨.uint8, .Rd, .plain, [⟨0xf00, 8⟩]⟩, ⟨.uint8, .Rn, .plain, [⟨0xf0000, 16⟩]⟩,
      ⟨.uint8, .Rm, .plain, [⟨0xf, 0⟩]⟩, ⟨.bool, .M, .plain, [⟨0x10, 4⟩]⟩] },
  { variant := .smusdT1, pattern := ⟨0xfff0f0e0, 0xfb40f000⟩, length := 4,
    arguments := [
      ⟨.uint8, .Rd, .plain, [⟨0xf00, 8⟩]⟩, ⟨.uint8, .Rn, .plain, [⟨0xf0000, 16⟩]⟩,
      ⟨.uint8, .Rm, .plain, [⟨0xf, 0⟩]⟩, ⟨.bool, .M, .plain, [⟨0x10, 4⟩]⟩] },
  { variant := .ssat16T1, pattern := ⟨0xfbf0f0c0, 0xf3200000⟩, length := 4,
    arguments := [
      ⟨.uint8, .Rd, .plain, [⟨0xf00, 8⟩]⟩, ⟨.uint8, .Rn, .plain, [⟨0xf0000, 16⟩]⟩,
      ⟨.uint8, .satimm, .plain, [⟨0xf, 0⟩]⟩] },
  { variant := .strbT1, pattern := ⟨0xfff00f00, 0xf8000e00⟩, length := 4,
    arguments := [
      ⟨.uint8, .Rt, .plain, [⟨0xf000, 12⟩]⟩, ⟨.uint8, .Rn, .plain, [⟨0xf0000, 16⟩]⟩,
      ⟨.uint8, .imm, .plain, [⟨0xff, 0⟩]⟩] },
  { variant := .strexbT1, pattern := ⟨0xfff000f0, 0xe8c00040⟩, length := 4,
    arguments := [
      ⟨.uint8, .Rd, .plain, [⟨0xf, 0⟩]⟩, ⟨.uint8, .Rt, .plain, [⟨0xf000, 12⟩]⟩,
      ⟨.uint8, .Rn, .plain, [⟨0xf0000, 16⟩]⟩] },
  { variant := .strexhT1, pattern := ⟨0xfff000f0, 0xe8c00050⟩, length := 4,
    arguments := [
      ⟨.uint8, .Rd, .plain, [⟨0xf, 0⟩]⟩, ⟨.uint8, .Rt, .plain, [⟨0xf000, 12⟩]⟩,
      ⟨.uint8, .Rn, .plain, [⟨0xf0000, 16⟩]⟩] },
  { variant := .strhtT1, pattern := ⟨0xfff00f00, 0xf8200e00⟩, length := 4,
    arguments := [
      ⟨.uint8, .Rt, .plain, [⟨0xf000, 12⟩]⟩, ⟨.uint8, .Rn, .plain, [⟨0xf0000, 16⟩]⟩,
      ⟨.uint8, .imm, .plain, [⟨0xff, 0⟩]⟩] },
  { variant := .subSPimmT3, pattern := ⟨0xfbff8000, 0xf2ad0000⟩, length := 4,
    arguments := [
      ⟨.uint8, .Rd, .plain, [⟨0xf00, 8⟩]⟩,
      ⟨.uint16, .imm, .plain, [⟨0x4000000, 15⟩, ⟨0x7000, 4⟩, ⟨0xff, 0⟩]⟩] },
  { variant := .svcT1, pattern := ⟨0xff000000, 0xdf000000⟩, length := 2,
    arguments := [⟨.uint8, .imm, .plain, [⟨0xff0000, 16⟩]⟩] },
  { variant := .sxtb16T1, pattern := ⟨0xfffff0c0, 0xfa2ff080⟩, length := 4,
    arguments := [
      ⟨.uint8, .Rd, .plain, [⟨0xf00, 8⟩]⟩, ⟨.uint8, .Rm, .plain, [⟨0xf, 0⟩]⟩,
      ⟨.uint8, .rotate, .plain, [⟨0x30, 4⟩]⟩] },
  { variant := .sxtbT2, pattern := ⟨0xfffff0c0, 0xfa4ff080⟩, length := 4,
    arguments := [
      ⟨.uint8, .Rd, .plain, [⟨0xf00, 8⟩]⟩, ⟨.uint8, .Rm, .plain, [⟨0xf, 0⟩]⟩,
      ⟨.uint8, .rotate, .plain, [⟨0x30, 4⟩]⟩] },
  { variant := .sxthT2, pattern := ⟨0xfffff0c0, 0xfa0ff080⟩, length := 4,
    arguments := [
      ⟨.uint8, .Rd, .plain, [⟨0xf00, 8⟩]⟩, ⟨.uint8, .Rm, .plain, [⟨0xf, 0⟩]⟩,
      ⟨.uint8, .rotate, .plain, [⟨0x30, 4⟩]⟩] },
  { variant := .teqImmT1, pattern := ⟨0xfbf08f00, 0xf0900f00⟩, length := 4,
    arguments := [
      ⟨.uint8, .Rn, .plain, [⟨0xf0000, 16⟩]⟩,
      ⟨.uint16, .imm, .plain, [⟨0x4000000, 15⟩, ⟨0x7000, 4⟩, ⟨0xff, 0⟩]⟩] },
  { variant := .teqRegT1, pattern := ⟨0xfff00f00, 0xea900f00⟩, length := 4,
    arguments := [
      ⟨.uint8, .Rn, .plain, [⟨0xf0000, 16⟩]⟩, ⟨.uint8, .Rm, .plain, [⟨0xf, 0⟩]⟩,
      ⟨.uint8, .imm, .plain, [⟨0x7000, 10⟩, ⟨0xc0, 6⟩]⟩, ⟨.uint8, .type, .plain, [⟨0x30, 4⟩]⟩] },
  { variant := .tstImmT1, pattern := ⟨0xfbf08f00, 0xf0100f00⟩, length := 4,
    arguments := [
      ⟨.uint8, .Rn, .plain, [⟨0xf0000, 16⟩]⟩,
      ⟨.int32, .imm, .thumbExpandImm, [⟨0x4000000, 15⟩, ⟨0x7000, 4⟩, ⟨0xff, 0⟩]⟩] },
  { variant := .tstRegT2, pattern := ⟨0xfff08f00, 0xea100f00⟩, length := 4,
    arguments := [
      ⟨.uint8, .Rn, .plain, [⟨0xf0000, 16⟩]⟩, ⟨.uint8, .Rm, .plain, [⟨0xf, 0⟩]⟩,
      ⟨.uint8, .imm, .plain, [⟨0x7000, 10⟩, ⟨0xc0, 6⟩]⟩, ⟨.uint8, .type, .plain, [⟨0x30, 4⟩]⟩] },
  { variant := .udfT1, pattern := ⟨0xff000000, 0xde000000⟩, length := 2,
    arguments := [⟨.uint8, .imm, .plain, [⟨0xff0000, 16⟩]⟩] },
  { variant := .usad8T1, pattern := ⟨0xfff0f0f0, 0xfb70f000⟩, length := 4,
    arguments := [
      ⟨.uint8, .Rd, .plain, [⟨0xf00, 8⟩]⟩, ⟨.uint8, .Rn, .plain, [⟨0xf0000, 16⟩]⟩,
      ⟨.uint8, .Rm, .plain, [⟨0xf, 0⟩]⟩] },
  { variant := .usat16T1, pattern := ⟨0xfbf0f0c0, 0xf3a00000⟩, length := 4,
    arguments := [
      ⟨.uint8, .Rd, .plain, [⟨0xf00, 8⟩]⟩, ⟨.uint8, .Rn, .plain, [⟨0xf0000, 16⟩]⟩,
      ⟨.uint8, .satimm, .plain, [⟨0xf, 0⟩]⟩] },
  { variant := .uxtb16T1, pattern := ⟨0xfffff0c0, 0xfa3ff080⟩, length := 4,
    arguments := [
      ⟨.uint8, .Rd, .plain, [⟨0xf00, 8⟩]⟩, ⟨.uint8, .Rm, .plain, [⟨0xf, 0⟩]⟩,
      ⟨.uint8, .rotate, .plain, [⟨0x30, 4⟩]⟩] },
  { variant := .uxtbT2, pattern := ⟨0xfffff0c0, 0xfa5ff080⟩, length := 4,
    arguments := [
      ⟨.uint8, .Rd, .plain, [⟨0xf00, 8⟩]⟩, ⟨.uint8, .Rm, .plain, [⟨0xf, 0⟩]⟩,
      ⟨.uint8, .rotate, .plain, [⟨0x30, 4⟩]⟩] },
  { variant := .uxthT2, pattern := ⟨0xfffff0c0, 0xfa1ff080⟩, length := 4,
    arguments := [
      ⟨.uint8, .Rd, .plain, [⟨0xf00, 8⟩]⟩, ⟨.uint8, .Rm, .plain, [⟨0xf, 0⟩]⟩,
      ⟨.uint8, .rotate, .plain, [⟨0x30, 4⟩]⟩] },
  { variant := .vabsT1, pattern := ⟨0xffbf0ed0, 0xeeb00ac0⟩, length := 4,
    arguments := [
      ⟨.uint8, .Vd, .plain, [⟨0xf000, 12⟩]⟩, ⟨.uint8, .Vm, .plain, [⟨0xf, 0⟩]⟩,
      ⟨.bool, .D, .plain, [⟨0x400000, 22⟩]⟩, ⟨.bool, .M, .plain, [⟨0x20, 5⟩]⟩,
      ⟨.bool, .sz, .plain, [⟨0x100, 8⟩]⟩] },
  { variant := .vcvtDpspT1, pattern := ⟨0xffbf0ed0, 0xeeb70ac0⟩, length := 4,
    arguments := [
      ⟨.uint8, .Vd, .plain, [⟨0xf000, 12⟩]⟩, ⟨.uint8, .Vm, .plain, [⟨0xf, 0⟩]⟩,
      ⟨.bool, .D, .plain, [⟨0x400000, 22⟩]⟩, ⟨.bool, .M, .plain, [⟨0x20, 5⟩]⟩,
      ⟨.bool, .sz, .plain, [⟨0x100, 8⟩]⟩] },
  { variant := .vmov2arm2spT1, pattern := ⟨0xffe00fd0, 0xec400a10⟩, length := 4,
    arguments := [
      ⟨.uint8, .Rt, .plain, [⟨0xf000, 12⟩]⟩, ⟨.uint8, .Rtx, .plain, [⟨0xf0000, 16⟩]⟩,
      ⟨.uint8, .Vm, .plain, [⟨0xf, 0⟩]⟩, ⟨.bool, .op, .plain, [⟨0x100000, 20⟩]⟩,
      ⟨.bool, .M, .plain, [⟨0x20, 5⟩]⟩] },
  { variant := .vmov2armdwT1, pattern := ⟨0xffe00fd0, 0xec400b10⟩, length := 4,
    arguments := [
      ⟨.uint8, .Rt, .plain, [⟨0xf000, 12⟩]⟩, ⟨.uint8, .Rtx, .plain, [⟨0xf0000, 16⟩]⟩,
      ⟨.uint8, .Vm, .plain, [⟨0xf, 0⟩]⟩, ⟨.bool, .op, .plain, [⟨0x100000, 20⟩]⟩,
      ⟨.bool, .M, .plain, [⟨0x20, 5⟩]⟩] },
  { variant := .vmovArmsclT1, pattern := ⟨0xffd00f70, 0xee000b10⟩, length := 4,
    arguments := [
      ⟨.uint8, .Rt, .plain, [⟨0xf000, 12⟩]⟩, ⟨.uint8, .Vd, .plain, [⟨0xf0000, 16⟩]⟩,
      ⟨.bool, .H, .plain, [⟨0x200000, 21⟩]⟩, ⟨.bool, .D, .plain, [⟨0x80, 7⟩]⟩] },
  { variant := .vmovRegT1, pattern := ⟨0xffbf0ed0, 0xeeb00a40⟩, length := 4,
    arguments := [
      ⟨.uint8, .Vd, .plain, [⟨0xf000, 12⟩]⟩, ⟨.uint8, .Vm, .plain, [⟨0xf, 0⟩]⟩,
      ⟨.bool, .D, .plain, [⟨0x400000, 22⟩]⟩, ⟨.bool, .M, .plain, [⟨0x20, 5⟩]⟩,
      ⟨.bool, .sz, .plain, [⟨0x100, 8⟩]⟩] },
  { variant := .vmovSclarmT1, pattern := ⟨0xffd00f70, 0xee100b10⟩, length := 4,
    arguments := [
      ⟨.uint8, .Rt, .plain, [⟨0xf000, 12⟩]⟩, ⟨.uint8, .Vd, .plain, [⟨0xf0000, 16⟩]⟩,
      ⟨.bool, .H, .plain, [⟨0x200000, 21⟩]⟩, ⟨.bool, .D, .plain, [⟨0x80, 7⟩]⟩] },
  { variant := .vnegT1, pattern := ⟨0xffbf0ed0, 0xeeb10a40⟩, length := 4,
    arguments := [
      ⟨.uint8, .Vd, .plain, [⟨0xf000, 12⟩]⟩, ⟨.uint8, .Vm, .plain, [⟨0xf, 0⟩]⟩,
      ⟨.bool, .D, .plain, [⟨0x400000, 22⟩]⟩, ⟨.bool, .M, .plain, [⟨0x20, 5⟩]⟩,
      ⟨.bool, .sz, .plain, [⟨0x100, 8⟩]⟩] },
  { variant := .vrintaT1, pattern := ⟨0xffbc0ed0, 0xfeb80a40⟩, length := 4,
    arguments := [
      ⟨.uint8, .Vd, .plain, [⟨0xf000, 12⟩]⟩, ⟨.uint8, .Vm, .plain, [⟨0xf, 0⟩]⟩,
      ⟨.uint8, .RM, .plain, [⟨0x30000, 16⟩]⟩, ⟨.bool, .D, .plain, [⟨0x400000, 22⟩]⟩,
      ⟨.bool, .M, .plain, [⟨0x20, 5⟩]⟩, ⟨.bool, .sz, .plain, [⟨0x100, 8⟩]⟩] },
  { variant := .vrintxT1, pattern := ⟨0xffbf0ed0, 0xeeb70a40⟩, length := 4,
    arguments := [
      ⟨.uint8, .Vd, .plain, [⟨0xf000, 12⟩]⟩, ⟨.uint8, .Vm, .plain, [⟨0xf, 0⟩]⟩,
      ⟨.bool, .D, .plain, [⟨0x400000, 22⟩]⟩, ⟨.bool, .M, .plain, [⟨0x20, 5⟩]⟩,
      ⟨.bool, .sz, .plain, [⟨0x100, 8⟩]⟩] },
  { variant := .vsqrtT1, pattern := ⟨0xffbf0ed0, 0xeeb10ac0⟩, length := 4,
    arguments := [
      ⟨.uint8, .Vd, .plain, [⟨0xf000, 12⟩]⟩, ⟨.uint8, .Vm, .plain, [⟨0xf, 0⟩]⟩,
      ⟨.bool, .D, .plain, [⟨0x400000, 22⟩]⟩, ⟨.bool, .M, .plain, [⟨0x20, 5⟩]⟩,
      ⟨.bool, .sz, .plain, [⟨0x100, 8⟩]⟩] },
  { variant := .wfeT1, pattern := ⟨0xffff0000, 0xbf200000⟩, length := 2, arguments := [] },
  { variant := .wfiT1, pattern := ⟨0xffff0000, 0xbf300000⟩, length := 2, arguments := [] },
  { variant := .yieldT1, pattern := ⟨0xffff0000, 0xbf100000⟩, length := 2, arguments := [] }
]
