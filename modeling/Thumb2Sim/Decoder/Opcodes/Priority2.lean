import Thumb2Sim.Decoder.Basic

-- The branches of `decode_insn` for the opcodes of priority 2, in their order.
def opcodesPriority2 : List Opcode := [
  { variant := .addSPiT3, pattern := ⟨0xfbef8000, 0xf10d0000⟩, length := 4,
    arguments := [
      ⟨.uint8, .Rd, .plain, [⟨0xf00, 8⟩]⟩,
      ⟨.int32, .imm, .thumbExpandImm, [⟨0x4000000, 15⟩, ⟨0x7000, 4⟩, ⟨0xff, 0⟩]⟩,
      ⟨.bool, .S, .plain, [⟨0x100000, 20⟩]⟩] },
  { variant := .addSPrT1, pattern := ⟨0xff780000, 0x44680000⟩, length := 2,
    arguments := [⟨.uint8, .Rdm, .plain, [⟨0x800000, 20⟩, ⟨0x70000, 16⟩]⟩] },
  { variant := .addSPrT3, pattern := ⟨0xffef8000, 0xeb0d0000⟩, length := 4,
    arguments := [
      ⟨.uint8, .Rd, .plain, [⟨0xf00, 8⟩]⟩, ⟨.uint8, .Rm, .plain, [⟨0xf, 0⟩]⟩,
      ⟨.uint8, .imm, .plain, [⟨0x7000, 10⟩, ⟨0xc0, 6⟩]⟩, ⟨.uint8, .type, .plain, [⟨0x30, 4⟩]⟩,
      ⟨.bool, .S, .plain, [⟨0x100000, 20⟩]⟩] },
  { variant := .addImmT4, pattern := ⟨0xfbf08000, 0xf2000000⟩, length := 4,
    arguments := [
      ⟨.uint8, .Rd, .plain, [⟨0xf00, 8⟩]⟩, ⟨.uint8, .Rn, .plain, [⟨0xf0000, 16⟩]⟩,
      ⟨.uint16, .imm, .plain, [⟨0x4000000, 15⟩, ⟨0x7000, 4⟩, ⟨0xff, 0⟩]⟩] },
  { variant := .andImmT1, pattern := ⟨0xfbe08000, 0xf0000000⟩, length := 4,
    arguments := [
      ⟨.uint8, .Rd, .plain, [⟨0xf00, 8⟩]⟩, ⟨.uint8, .Rn, .plain, [⟨0xf0000, 16⟩]⟩,
      ⟨.int32, .imm, .thumbExpandImm, [⟨0x4000000, 15⟩, ⟨0x7000, 4⟩, ⟨0xff, 0⟩]⟩,
      ⟨.bool, .S, .plain, [⟨0x100000, 20⟩]⟩] },
  { variant := .andRegT2, pattern := ⟨0xffe08000, 0xea000000⟩, length := 4,
    arguments := [
      ⟨.uint8, .Rd, .plain, [⟨0xf00, 8⟩]⟩, ⟨.uint8, .Rn, .plain, [⟨0xf0000, 16⟩]⟩,
      ⟨.uint8, .Rm, .plain, [⟨0xf, 0⟩]⟩, ⟨.uint8, .imm, .plain, [⟨0x7000, 10⟩, ⟨0xc0, 6⟩]⟩,
      ⟨.uint8, .type, .plain, [⟨0x30, 4⟩]⟩, ⟨.bool, .S, .plain, [⟨0x100000, 20⟩]⟩] },
  { variant := .asrImmT2, pattern := ⟨0xffef8030, 0xea4f0020⟩, length := 4,
    arguments := [
      ⟨.uint8, .Rd, .plain, [⟨0xf00, 8⟩]⟩, ⟨.uint8, .Rm, .plain, [⟨0xf, 0⟩]⟩,
      ⟨.uint8, .imm, .plain, [⟨0x7000, 10⟩, ⟨0xc0, 6⟩]⟩, ⟨.bool, .S, .plain, [⟨0x100000, 20⟩]⟩] },
  { variant := .bT1, pattern := ⟨0xf0000000, 0xd0000000⟩, length := 2,
    arguments := [
      ⟨.uint8, .imm, .plain, [⟨0xff0000, 16⟩]⟩, ⟨.uint8, .cond, .plain, [⟨0xf000000, 24⟩]⟩] },
  { variant := .bfiT1, pattern := ⟨0xfbf08000, 0xf3600000⟩, length := 4,
    arguments := [
      ⟨.uint8, .Rd, .plain, [⟨0xf00, 8⟩]⟩, ⟨.uint8, .Rn, .plain, [⟨0xf0000, 16⟩]⟩,
      ⟨.uint8, .imm, .plain, [⟨0x7000, 10⟩, ⟨0xc0, 6⟩]⟩, ⟨.uint8, .msb, .plain, [⟨0x1f, 0⟩]⟩] },
  { variant := .eorImmT1, pattern := ⟨0xfbe08000, 0xf0800000⟩, length := 4,
    arguments := [
      ⟨.uint8, .Rd, .plain, [⟨0xf00, 8⟩]⟩, ⟨.uint8, .Rn, .plain, [⟨0xf0000, 16⟩]⟩,
      ⟨.int32, .imm, .thumbExpandImm, [⟨0x4000000, 15⟩, ⟨0x7000, 4⟩, ⟨0xff, 0⟩]⟩,
      ⟨.bool, .S, .plain, [⟨0x100000, 20⟩]⟩] },
  { variant := .eorRegT2, pattern := ⟨0xffe08000, 0xea800000⟩, length := 4,
    arguments := [
      ⟨.uint8, .Rd, .plain, [⟨0xf00, 8⟩]⟩, ⟨.uint8, .Rn, .plain, [⟨0xf0000, 16⟩]⟩,
      ⟨.uint8, .Rm, .plain, [⟨0xf, 0⟩]⟩, ⟨.uint8, .imm, .plain, [⟨0x7000, 10⟩, ⟨0xc0, 6⟩]⟩,
      ⟨.uint8, .type, .plain, [⟨0x30, 4⟩]⟩, ⟨.bool, .S, .plain, [⟨0x100000, 20⟩]⟩] },
  { variant := .itT1, pattern := ⟨0xff000000, 0xbf000000⟩, length := 2,
    arguments := [
      ⟨.uint8, .firstcond, .plain, [⟨0xf00000, 20⟩]⟩, ⟨.uint8, .mask, .plain, [⟨0xf0000, 16⟩]⟩] },
  { variant := .ldc2LitT2, pattern := ⟨0xfe1f0000, 0xfc1f0000⟩, length := 4,
    arguments := [
      ⟨.uint8, .imm, .plain, [⟨0xff, 0⟩]⟩, ⟨.uint8, .coproc, .plain, [⟨0xf00, 8⟩]⟩,
      ⟨.uint8, .CRd, .plain, [⟨0xf000, 12⟩]⟩, ⟨.bool, .D, .plain, [⟨0x400000, 22⟩]⟩,
      ⟨.bool, .P, .plain, [⟨0x1000000, 24⟩]⟩, ⟨.bool, .U, .plain, [⟨0x800000, 23⟩]⟩,
      ⟨.bool, .W, .plain, [⟨0x200000, 21⟩]⟩] },
  { variant := .ldmT2, pattern := ⟨0xffd02000, 0xe8900000⟩, length := 4,
    arguments := [
      ⟨.uint8, .Rn, .plain, [⟨0xf0000, 16⟩]⟩, ⟨.uint16, .registerList, .plain, [⟨0x1fff, 0⟩]⟩,
      ⟨.bool, .P, .plain, [⟨0x8000, 15⟩]⟩, ⟨.bool, .M, .plain, [⟨0x4000, 14⟩]⟩,
      ⟨.bool, .W, .plain, [⟨0x200000, 21⟩]⟩] },
  { variant := .ldrLitT2, pattern := ⟨0xff7f0000, 0xf85f0000⟩, length := 4,
    arguments := [
      ⟨.uint8, .Rt, .plain, [⟨0xf000, 12⟩]⟩, ⟨.uint16, .imm, .plain, [⟨0xfff, 0⟩]⟩,
      ⟨.bool, .U, .plain, [⟨0x800000, 23⟩]⟩] },
  { variant := .ldrexT1, pattern := ⟨0xfff00f00, 0xe8500f00⟩, length := 4,
    arguments := [
      ⟨.uint8, .Rt, .plain, [⟨0xf000, 12⟩]⟩, ⟨.uint8, .Rn, .plain, [⟨0xf0000, 16⟩]⟩,
      ⟨.uint8, .imm, .plain, [⟨0xff, 0⟩]⟩] },
  { variant := .ldrhtT1, pattern := ⟨0xfff00f00, 0xf8300e00⟩, length := 4,
    arguments := [
      ⟨.uint8, .Rt, .plain, [⟨0xf000, 12⟩]⟩, ⟨.uint8, .Rn, .plain, [⟨0xf0000, 16⟩]⟩,
      ⟨.uint8, .imm, .plain, [⟨0xff, 0⟩]⟩] },
  { variant := .ldrsbLitT1, pattern := ⟨0xff7f0000, 0xf91f0000⟩, length := 4,
    arguments := [
      ⟨.uint8, .Rt, .plain, [⟨0xf000, 12⟩]⟩, ⟨.uint16, .imm, .plain, [⟨0xfff, 0⟩]⟩,
      ⟨.bool, .U, .plain, [⟨0x800000, 23⟩]⟩] },
  { variant := .ldrshImmT2, pattern := ⟨0xfff00800, 0xf9300800⟩, length := 4,
    arguments := [
      ⟨.uint8, .Rt, .plain, [⟨0xf000, 12⟩]⟩, ⟨.uint8, .Rn, .plain, [⟨0xf0000, 16⟩]⟩,
      ⟨.uint8, .imm, .plain, [⟨0xff, 0⟩]⟩, ⟨.bool, .P, .plain, [⟨0x400, 10⟩]⟩,
      ⟨.bool, .U, .plain, [⟨0x200, 9⟩]⟩, ⟨.bool, .W, .plain, [⟨0x100, 8⟩]⟩] },
  { variant := .lslImmT1, pattern := ⟨0xf8000000, 0x00000000⟩, length := 2,
    arguments := [
      ⟨.uint8, .Rd, .plain, [⟨0x70000, 16⟩]⟩, ⟨.uint8, .Rm, .plain, [⟨0x380000, 19⟩]⟩,
      ⟨.uint8, .imm, .plain, [⟨0x7c00000, 22⟩]⟩] },
  { variant := .lslImmT2, pattern := ⟨0xffef8030, 0xea4f0000⟩, length := 4,
    arguments := [
      ⟨.uint8, .Rd, .plain, [⟨0xf00, 8⟩]⟩, ⟨.uint8, .Rm, .plain, [⟨0xf, 0⟩]⟩,
      ⟨.uint8, .imm, .plain, [⟨0x7000, 10⟩, ⟨0xc0, 6⟩]⟩, ⟨.bool, .S, .plain, [⟨0x100000, 20⟩]⟩] },
  { variant := .lsrImmT2, pattern := ⟨0xffef8030, 0xea4f0010⟩, length := 4,
    arguments := [
      ⟨.uint8, .Rd, .plain, [⟨0xf00, 8⟩]⟩, ⟨.uint8, .Rm, .plain, [⟨0xf, 0⟩]⟩,
      ⟨.uint8, .imm, .plain, [⟨0x7000, 10⟩, ⟨0xc0, 6⟩]⟩, ⟨.bool, .S, .plain, [⟨0x100000, 20⟩]⟩] },
  { variant := .mlaT1, pattern := ⟨0xfff000f0, 0xfb000000⟩, length := 4,
    arguments := [
      ⟨.uint8, .Rd, .plain, [⟨0xf00, 8⟩]⟩, ⟨.uint8, .Rn, .plain, [⟨0xf0000, 16⟩]⟩,
      ⟨.uint8, .Rm, .plain, [⟨0xf, 0⟩]⟩, ⟨.uint8, .Ra, .plain, [⟨0xf000, 12⟩]⟩] },
  { variant := .movImmT3, pattern := ⟨0xfbf08000, 0xf2400000⟩, length := 4,
    arguments := [
      ⟨.uint8, .Rd, .plain, [⟨0xf00, 8⟩]⟩,
      ⟨.uint16, .imm, .plain, [⟨0x4000000, 15⟩, ⟨0xf7000, 4⟩, ⟨0xff, 0⟩]⟩] },
  { variant := .ornImmT1, pattern := ⟨0xfbe08000, 0xf0600000⟩, length := 4,
    arguments := [
      ⟨.uint8, .Rd, .plain, [⟨0xf00, 8⟩]⟩, ⟨.uint8, .Rn, .plain, [⟨0xf0000, 16⟩]⟩,
      ⟨.uint16, .imm, .plain, [⟨0x4000000, 15⟩, ⟨0x7000, 4⟩, ⟨0xff, 0⟩]⟩,
      ⟨.bool, .S, .plain, [⟨0x100000, 20⟩]⟩] },
  { variant := .ornRegT1, pattern := ⟨0xffe08000, 0xea600000⟩, length := 4,
    arguments := [
      ⟨.uint8, .Rd, .plain, [⟨0xf00, 8⟩]⟩, ⟨.uint8, .Rn, .plain, [⟨0xf0000, 16⟩]⟩,
      ⟨.uint8, .Rm, .plain, [⟨0xf, 0⟩]⟩, ⟨.uint8, .imm, .plain, [⟨0x7000, 10⟩, ⟨0xc0, 6⟩]⟩,
      ⟨.uint8, .type, .plain, [⟨0x30, 4⟩]⟩, ⟨.bool, .S, .plain, [⟨0x100000, 20⟩]⟩] },
  { variant := .orrImmT1, pattern := ⟨0xfbe08000, 0xf0400000⟩, length := 4,
    arguments := [
      ⟨.uint8, .Rd, .plain, [⟨0xf00, 8⟩]⟩, ⟨.uint8, .Rn, .plain, [⟨0xf0000, 16⟩]⟩,
      ⟨.int32, .imm, .thumbExpandImm, [⟨0x4000000, 15⟩, ⟨0x7000, 4⟩, ⟨0xff, 0⟩]⟩,
      ⟨.bool, .S, .plain, [⟨0x100000, 20⟩]⟩] },
  { variant := .pldRegT1, pattern := ⟨0xfff0ffc0, 0xf810f000⟩, length := 4,
    arguments := [
      ⟨.uint8, .Rn, .plain, [⟨0xf0000, 16⟩]⟩, ⟨.uint8, .Rm, .plain, [⟨0xf, 0⟩]⟩,
      ⟨.uint8, .imm, .plain, [⟨0x30, 4⟩]⟩] },
  { variant := .rorImmT1, pattern := ⟨0xffef0030, 0xea4f0030⟩, length := 4,
    arguments := [
      ⟨.uint8, .Rd, .plain, [⟨0xf00, 8⟩]⟩, ⟨.uint8, .Rm, .plain, [⟨0xf, 0⟩]⟩,
      ⟨.uint8, .imm, .plain, [⟨0x7000, 10⟩, ⟨0xc0, 6⟩]⟩, ⟨.bool, .S, .plain, [⟨0x100000, 20⟩]⟩] },
  { variant := .smlabbT1, pattern := ⟨0xfff000c0, 0xfb100000⟩, length := 4,
    arguments := [
      ⟨.uint8, .Rd, .plain, [⟨0xf00, 8⟩]⟩, ⟨.uint8, .Rn, .plain, [⟨0xf0000, 16⟩]⟩,
      ⟨.uint8, .Rm, .plain, [⟨0xf, 0⟩]⟩, ⟨.uint8, .Ra, .plain, [⟨0xf000, 12⟩]⟩,
      ⟨.bool, .N, .plain, [⟨0x20, 5⟩]⟩, ⟨.bool, .M, .plain, [⟨0x10, 4⟩]⟩] },
  { variant := .smladT1, pattern := ⟨0xfff000e0, 0xfb200000⟩, length := 4,
    arguments := [
      ⟨.uint8, .Rd, .plain, [⟨0xf00, 8⟩]⟩, ⟨.uint8, .Rn, .plain, [⟨0xf0000, 16⟩]⟩,
      ⟨.uint8, .Rm, .plain, [⟨0xf, 0⟩]⟩, ⟨.uint8, .Ra, .plain, [⟨0xf000, 12⟩]⟩,
      ⟨.bool, .M, .plain, [⟨0x10, 4⟩]⟩] },
  { variant := .smlawbT1, pattern := ⟨0xfff000e0, 0xfb300000⟩, length := 4,
    arguments := [
      ⟨.uint8, .Rd, .plain, [⟨0xf00, 8⟩]⟩, ⟨.uint8, .Rn, .plain, [⟨0xf0000, 16⟩]⟩,
      ⟨.uint8, .Rm, .plain, [⟨0xf, 0⟩]⟩, ⟨.uint8, .Ra, .plain, [⟨0xf000, 12⟩]⟩,
      ⟨.bool, .M, .plain, [⟨0x10, 4⟩]⟩] },
  { variant := .smlsdT1, pattern := ⟨0xfff000e0, 0xfb400000⟩, length := 4,
    arguments := [
      ⟨.uint8, .Rd, .plain, [⟨0xf00, 8⟩]⟩, ⟨.uint8, .Rn, .plain, [⟨0xf0000, 16⟩]⟩,
      ⟨.uint8, .Rm, .plain, [⟨0xf, 0⟩]⟩, ⟨.uint8, .Ra, .plain, [⟨0xf000, 12⟩]⟩,
      ⟨.bool, .M, .plain, [⟨0x10, 4⟩]⟩] },
  { variant := .smmlaT1, pattern := ⟨0xfff000e0, 0xfb500000⟩, length := 4,
    arguments := [
      ⟨.uint8, .Rd, .plain, [⟨0xf00, 8⟩]⟩, ⟨.uint8, .Rn, .plain, [⟨0xf0000, 16⟩]⟩,
      ⟨.uint8, .Rm, .plain, [⟨0xf, 0⟩]⟩, ⟨.uint8, .Ra, .plain, [⟨0xf000, 12⟩]⟩,
      ⟨.bool, .R, .plain, [⟨0x10, 4⟩]⟩] },
  { variant := .ssatT1, pattern := ⟨0xfbd08000, 0xf3000000⟩, length := 4,
    arguments := [
      ⟨.uint8, .Rd, .plain, [⟨0xf00, 8⟩]⟩, ⟨.uint8, .Rn, .plain, [⟨0xf0000, 16⟩]⟩,
      ⟨.bool, .shift, .plain, [⟨0x200000, 21⟩]⟩, ⟨.uint8, .imm, .plain, [⟨0x7000, 10⟩, ⟨0xc0, 6⟩]⟩,
      ⟨.uint8, .satimm, .plain, [⟨0x1f, 0⟩]⟩] },
  { variant := .stc2T2, pattern := ⟨0xfe100000, 0xfc000000⟩, length := 4,
    arguments := [
      ⟨.uint8, .Rn, .plain, [⟨0xf0000, 16⟩]⟩, ⟨.uint8, .imm, .plain, [⟨0xff, 0⟩]⟩,
      ⟨.uint8, .coproc, .plain, [⟨0xf00, 8⟩]⟩, ⟨.uint8, .CRd, .plain, [⟨0xf000, 12⟩]⟩,
      ⟨.bool, .P, .plain, [⟨0x1000000, 24⟩]⟩, ⟨.bool, .N, .plain, [⟨0x400000, 22⟩]⟩,
      ⟨.bool, .U, .plain, [⟨0x800000, 23⟩]⟩, ⟨.bool, .W, .plain, [⟨0x200000, 21⟩]⟩] },
  { variant := .stmdbT1, pattern := ⟨0xffd0a000, 0xe9000000⟩, length := 4,
    arguments := [
      ⟨.uint8, .Rn, .plain, [⟨0xf0000, 16⟩]⟩, ⟨.uint16, .registerList, .plain, [⟨0x1fff, 0⟩]⟩,
      ⟨.bool, .M, .plain, [⟨0x4000, 14⟩]⟩, ⟨.bool, .W, .plain, [⟨0x200000, 21⟩]⟩] },
  { variant := .strbImmT3, pattern := ⟨0xfff00800, 0xf8000800⟩, length := 4,
    arguments := [
      ⟨.uint8, .Rt, .plain, [⟨0xf000, 12⟩]⟩, ⟨.uint8, .Rn, .plain, [⟨0xf0000, 16⟩]⟩,
      ⟨.uint8, .imm, .plain, [⟨0xff, 0⟩]⟩, ⟨.bool, .P, .plain, [⟨0x400, 10⟩]⟩,
      ⟨.bool, .U, .plain, [⟨0x200, 9⟩]⟩, ⟨.bool, .W, .plain, [⟨0x100, 8⟩]⟩] },
  { variant := .strexT1, pattern := ⟨0xfff00000, 0xe8400000⟩, length := 4,
    arguments := [
      ⟨.uint8, .Rd, .plain, [⟨0xf00, 8⟩]⟩, ⟨.uint8, .Rt, .plain, [⟨0xf000, 12⟩]⟩,
      ⟨.uint8, .Rn, .plain, [⟨0xf0000, 16⟩]⟩, ⟨.uint8, .imm, .plain, [⟨0xff, 0⟩]⟩] },
  { variant := .strhImmT3, pattern := ⟨0xfff00800, 0xf8200800⟩, length := 4,
    arguments := [
      ⟨.uint8, .Rt, .plain, [⟨0xf000, 12⟩]⟩, ⟨.uint8, .Rn, .plain, [⟨0xf0000, 16⟩]⟩,
      ⟨.uint8, .imm, .plain, [⟨0xff, 0⟩]⟩, ⟨.bool, .P, .plain, [⟨0x400, 10⟩]⟩,
      ⟨.bool, .U, .plain, [⟨0x200, 9⟩]⟩, ⟨.bool, .W, .plain, [⟨0x100, 8⟩]⟩] },
  { variant := .strtT1, pattern := ⟨0xfff00f00, 0xf8400e00⟩, length := 4,
    arguments := [
      ⟨.uint8, .Rt, .plain, [⟨0xf000, 12⟩]⟩, ⟨.uint8, .Rn, .plain, [⟨0xf0000, 16⟩]⟩,
      ⟨.uint8, .imm, .plain, [⟨0xff, 0⟩]⟩] },
  { variant := .subSPregT1, pattern := ⟨0xffef8000, 0xebad0000⟩, length := 4,
    arguments := [
      ⟨.uint8, .Rd, .plain, [⟨0xf00, 8⟩]⟩, ⟨.uint8, .Rm, .plain, [⟨0xf, 0⟩]⟩,
      ⟨.uint8, .imm, .plain, [⟨0x7000, 10⟩, ⟨0xc0, 6⟩]⟩, ⟨.uint8, .type, .plain, [⟨0x30, 4⟩]⟩,
      ⟨.bool, .S, .plain, [⟨0x100000, 20⟩]⟩] },
  { variant := .subImmT4, pattern := ⟨0xfbf08000, 0xf2a00000⟩, length := 4,
    arguments := [
      ⟨.uint8, .Rd, .plain, [⟨0xf00, 8⟩]⟩, ⟨.uint8, .Rn, .plain, [⟨0xf0000, 16⟩]⟩,
      ⟨.uint16, .imm, .plain, [⟨0x4000000, 15⟩, ⟨0x7000, 4⟩, ⟨0xff, 0⟩]⟩] },
  { variant := .sxtab16T1, pattern := ⟨0xfff0f080, 0xfa20f080⟩, length := 4,
    arguments := [
      ⟨.uint8, .Rd, .plain, [⟨0xf00, 8⟩]⟩, ⟨.uint8, .Rn, .plain, [⟨0xf0000, 16⟩]⟩,
      ⟨.uint8, .Rm, .plain, [⟨0xf, 0⟩]⟩, ⟨.uint8, .rotate, .plain, [⟨0x30, 4⟩]⟩] },
  { variant := .sxtabT1, pattern := ⟨0xfff0f080, 0xfa40f080⟩, length := 4,
    arguments := [
      ⟨.uint8, .Rd, .plain, [⟨0xf00, 8⟩]⟩, ⟨.uint8, .Rn, .plain, [⟨0xf0000, 16⟩]⟩,
      ⟨.uint8, .Rm, .plain, [⟨0xf, 0⟩]⟩, ⟨.uint8, .rotate, .plain, [⟨0x30, 4⟩]⟩] },
  { variant := .sxtahT1, pattern := ⟨0xfff0f080, 0xfa00f080⟩, length := 4,
    arguments := [
      ⟨.uint8, .Rd, .plain, [⟨0xf00, 8⟩]⟩, ⟨.uint8, .Rn, .plain, [⟨0xf0000, 16⟩]⟩,
      ⟨.uint8, .Rm, .plain, [⟨0xf, 0⟩]⟩, ⟨.uint8, .rotate, .plain, [⟨0x30, 4⟩]⟩] },
  { variant := .udfT2, pattern := ⟨0xfff0f000, 0xf7f0a000⟩, length := 4,
    arguments := [⟨.uint16, .imm, .plain, [⟨0xf0000, 4⟩, ⟨0xfff, 0⟩]⟩] },
  { variant := .usada8T1, pattern := ⟨0xfff000f0, 0xfb700000⟩, length := 4,
    arguments := [
      ⟨.uint8, .Rd, .plain, [⟨0xf00, 8⟩]⟩, ⟨.uint8, .Rn, .plain, [⟨0xf0000, 16⟩]⟩,
      ⟨.uint8, .Rm, .plain, [⟨0xf, 0⟩]⟩, ⟨.uint8, .Ra, .plain, [⟨0xf000, 12⟩]⟩] },
  { variant := .usatT1, pattern := ⟨0xfbd08000, 0xf3800000⟩, length := 4,
    arguments := [
      ⟨.uint8, .Rd, .plain, [⟨0xf00, 8⟩]⟩, ⟨.uint8, .Rn, .plain, [⟨0xf0000, 16⟩]⟩,
      ⟨.bool, .shift, .plain, [⟨0x200000, 21⟩]⟩, ⟨.uint8, .imm, .plain, [⟨0x7000, 10⟩, ⟨0xc0, 6⟩]⟩,
      ⟨.uint8, .satimm, .plain, [⟨0x1f, 0⟩]⟩] },
  { variant := .uxtab16T1, pattern := ⟨0xfff0f080, 0xfa30f080⟩, length := 4,
    arguments := [
      ⟨.uint8, .Rd, .plain, [⟨0xf00, 8⟩]⟩, ⟨.uint8, .Rn, .plain, [⟨0xf0000, 16⟩]⟩,
      ⟨.uint8, .Rm, .plain, [⟨0xf, 0⟩]⟩, ⟨.uint8, .rotate, .plain, [⟨0x30, 4⟩]⟩] },
  { variant := .uxtabT1, pattern := ⟨0xfff0f080, 0xfa50f080⟩, length := 4,
    arguments := [
      ⟨.uint8, .Rd, .plain, [⟨0xf00, 8⟩]⟩, ⟨.uint8, .Rn, .plain, [⟨0xf0000, 16⟩]⟩,
      ⟨.uint8, .Rm, .plain, [⟨0xf, 0⟩]⟩, ⟨.uint8, .rotate, .plain, [⟨0x30, 4⟩]⟩] },
  { variant := .uxtahT1, pattern := ⟨0xfff0f080, 0xfa10f080⟩, length := 4,
    arguments := [
      ⟨.uint8, .Rd, .plain, [⟨0xf00, 8⟩]⟩, ⟨.uint8, .Rn, .plain, [⟨0xf0000, 16⟩]⟩,
      ⟨.uint8, .Rm, .plain, [⟨0xf, 0⟩]⟩, ⟨.uint8, .rotate, .plain, [⟨0x30, 4⟩]⟩] },
  { variant := .vcmpT1, pattern := ⟨0xffbf0e50, 0xeeb40a40⟩, length := 4,
    arguments := [
      ⟨.uint8, .Vd, .plain, [⟨0xf000, 12⟩]⟩, ⟨.uint8, .Vm, .plain, [⟨0xf, 0⟩]⟩,
      ⟨.bool, .D, .plain, [⟨0x400000, 22⟩]⟩, ⟨.bool, .E, .plain, [⟨0x80, 7⟩]⟩,
      ⟨.bool, .M, .plain, [⟨0x20, 5⟩]⟩, ⟨.bool, .sz, .plain, [⟨0x100, 8⟩]⟩] },
  { variant := .vcmpT2, pattern := ⟨0xffbf0e50, 0xeeb50a40⟩, length := 4,
    arguments := [
      ⟨.uint8, .Vd, .plain, [⟨0xf000, 12⟩]⟩, ⟨.bool, .D, .plain, [⟨0x400000, 22⟩]⟩,
      ⟨.bool, .E, .plain, [⟨0x80, 7⟩]⟩, ⟨.bool, .sz, .plain, [⟨0x100, 8⟩]⟩] },
  { variant := .vcvtFltintT1, pattern := ⟨0xffbc0e50, 0xfebc0a40⟩, length := 4,
    arguments := [
      ⟨.uint8, .Vd, .plain, [⟨0xf000, 12⟩]⟩, ⟨.uint8, .Vm, .plain, [⟨0xf, 0⟩]⟩,
      ⟨.bool, .op, .plain, [⟨0x80, 7⟩]⟩, ⟨.uint8, .RM, .plain, [⟨0x30000, 16⟩]⟩,
      ⟨.bool, .D, .plain, [⟨0x400000, 22⟩]⟩, ⟨.bool, .M, .plain, [⟨0x20, 5⟩]⟩,
      ⟨.bool, .sz, .plain, [⟨0x100, 8⟩]⟩] },
  { variant := .vcvtaT1, pattern := ⟨0xffbc0e50, 0xfebc0a40⟩, length := 4,
    arguments := [
      ⟨.uint8, .Vd, .plain, [⟨0xf000, 12⟩]⟩, ⟨.uint8, .Vm, .plain, [⟨0xf, 0⟩]⟩,
      ⟨.bool, .op, .plain, [⟨0x80, 7⟩]⟩, ⟨.uint8, .RM, .plain, [⟨0x30000, 16⟩]⟩,
      ⟨.bool, .D, .plain, [⟨0x400000, 22⟩]⟩, ⟨.bool, .M, .plain, [⟨0x20, 5⟩]⟩,
      ⟨.bool, .sz, .plain, [⟨0x100, 8⟩]⟩] },
  { variant := .vmrsT1, pattern := ⟨0xfff00f10, 0xeef00a10⟩, length := 4,
    arguments := [⟨.uint8, .Rt, .plain, [⟨0xf000, 12⟩]⟩] },
  { variant := .vmsrT1, pattern := ⟨0xfff00f10, 0xeee00a10⟩, length := 4,
    arguments := [⟨.uint8, .Rt, .plain, [⟨0xf000, 12⟩]⟩] },
  { variant := .vpopT1, pattern := ⟨0xffbf0f00, 0xecbd0b00⟩, length := 4,
    arguments := [
      ⟨.uint8, .Vd, .plain, [⟨0xf000, 12⟩]⟩, ⟨.uint8, .imm, .plain, [⟨0xff, 0⟩]⟩,
      ⟨.bool, .D, .plain, [⟨0x400000, 22⟩]⟩] },
  { variant := .vpopT2, pattern := ⟨0xffbf0f00, 0xecbd0a00⟩, length := 4,
    arguments := [
      ⟨.uint8, .Vd, .plain, [⟨0xf000, 12⟩]⟩, ⟨.uint8, .imm, .plain, [⟨0xff, 0⟩]⟩,
      ⟨.bool, .D, .plain, [⟨0x400000, 22⟩]⟩] },
  { variant := .vpushT1, pattern := ⟨0xffbf0f00, 0xed2d0b00⟩, length := 4,
    arguments := [
      ⟨.uint8, .Vd, .plain, [⟨0xf000, 12⟩]⟩, ⟨.uint8, .imm, .plain, [⟨0xff, 0⟩]⟩,
      ⟨.bool, .D, .plain, [⟨0x400000, 22⟩]⟩] },
  { variant := .vpushT2, pattern := ⟨0xffbf0f00, 0xed2d0a00⟩, length := 4,
    arguments := [
      ⟨.uint8, .Vd, .plain, [⟨0xf000, 12⟩]⟩, ⟨.uint8, .imm, .plain, [⟨0xff, 0⟩]⟩,
      ⟨.bool, .D, .plain, [⟨0x400000, 22⟩]⟩] },
  { variant := .vrintzT1, pattern := ⟨0xffbf0e50, 0xeeb60a40⟩, length := 4,
    arguments := [
      ⟨.uint8, .Vd, .plain, [⟨0xf000, 12⟩]⟩, ⟨.uint8, .Vm, .plain, [⟨0xf, 0⟩]⟩,
      ⟨.bool, .op, .plain, [⟨0x80, 7⟩]⟩, ⟨.bool, .D, .plain, [⟨0x400000, 22⟩]⟩,
      ⟨.bool, .M, .plain, [⟨0x20, 5⟩]⟩, ⟨.bool, .sz, .plain, [⟨0x100, 8⟩]⟩] }
]
