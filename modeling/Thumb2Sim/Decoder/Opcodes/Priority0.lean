import Thumb2Sim.Decoder.Basic

-- The branches of `decode_insn` for the opcodes of priority 0, in their order.
def opcodesPriority0 : List Opcode := [
  { variant := .adcImmT1, pattern := ⟨0xfbe08000, 0xf1400000⟩, length := 4,
    arguments := [
      ⟨.uint8, .Rd, .plain, [⟨0xf00, 8⟩]⟩, ⟨.uint8, .Rn, .plain, [⟨0xf0000, 16⟩]⟩,
      ⟨.int32, .imm, .thumbExpandImm, [⟨0x4000000, 15⟩, ⟨0x7000, 4⟩, ⟨0xff, 0⟩]⟩,
      ⟨.bool, .S, .plain, [⟨0x100000, 20⟩]⟩] },
  { variant := .adcRegT1, pattern := ⟨0xffc00000, 0x41400000⟩, length := 2,
    arguments := [
      ⟨.uint8, .Rdn, .plain, [⟨0x70000, 16⟩]⟩, ⟨.uint8, .Rm, .plain, [⟨0x380000, 19⟩]⟩] },
  { variant := .adcRegT2, pattern := ⟨0xffe08000, 0xeb400000⟩, length := 4,
    arguments := [
      ⟨.uint8, .Rd, .plain, [⟨0xf00, 8⟩]⟩, ⟨.uint8, .Rn, .plain, [⟨0xf0000, 16⟩]⟩,
      ⟨.uint8, .Rm, .plain, [⟨0xf, 0⟩]⟩, ⟨.uint8, .imm, .plain, [⟨0x7000, 10⟩, ⟨0xc0, 6⟩]⟩,
      ⟨.uint8, .type, .plain, [⟨0x30, 4⟩]⟩, ⟨.bool, .S, .plain, [⟨0x100000, 20⟩]⟩] },
  { variant := .addSPiT1, pattern := ⟨0xf8000000, 0xa8000000⟩, length := 2,
    arguments := [
      ⟨.uint8, .Rd, .plain, [⟨0x7000000, 24⟩]⟩, ⟨.uint8, .imm, .plain, [⟨0xff0000, 16⟩]⟩] },
  { variant := .addSPiT2, pattern := ⟨0xff800000, 0xb0000000⟩, length := 2,
    arguments := [⟨.uint8, .imm, .plain, [⟨0x7f0000, 16⟩]⟩] },
  { variant := .addImmT1, pattern := ⟨0xfe000000, 0x1c000000⟩, length := 2,
    arguments := [
      ⟨.uint8, .Rd, .plain, [⟨0x70000, 16⟩]⟩, ⟨.uint8, .Rn, .plain, [⟨0x380000, 19⟩]⟩,
      ⟨.uint8, .imm, .plain, [⟨0x1c00000, 22⟩]⟩] },
  { variant := .addImmT2, pattern := ⟨0xf8000000, 0x30000000⟩, length := 2,
    arguments := [
      ⟨.uint8, .Rdn, .plain, [⟨0x7000000, 24⟩]⟩, ⟨.uint8, .imm, .plain, [⟨0xff0000, 16⟩]⟩] },
  { variant := .addRegT1, pattern := ⟨0xfe000000, 0x18000000⟩, length := 2,
    arguments := [
      ⟨.uint8, .Rd, .plain, [⟨0x70000, 16⟩]⟩, ⟨.uint8, .Rn, .plain, [⟨0x380000, 19⟩]⟩,
      ⟨.uint8, .Rm, .plain, [⟨0x1c00000, 22⟩]⟩] },
  { variant := .adrT1, pattern := ⟨0xf8000000, 0xa0000000⟩, length := 2,
    arguments := [
      ⟨.uint8, .Rd, .plain, [⟨0x7000000, 24⟩]⟩, ⟨.uint8, .imm, .plain, [⟨0xff0000, 16⟩]⟩] },
  { variant := .andRegT1, pattern := ⟨0xffc00000, 0x40000000⟩, length := 2,
    arguments := [
      ⟨.uint8, .Rdn, .plain, [⟨0x70000, 16⟩]⟩, ⟨.uint8, .Rm, .plain, [⟨0x380000, 19⟩]⟩] },
  { variant := .asrImmT1, pattern := ⟨0xf8000000, 0x10000000⟩, length := 2,
    arguments := [
      ⟨.uint8, .Rd, .plain, [⟨0x70000, 16⟩]⟩, ⟨.uint8, .Rm, .plain, [⟨0x380000, 19⟩]⟩,
      ⟨.uint8, .imm, .plain, [⟨0x7c00000, 22⟩]⟩] },
  { variant := .asrRegT1, pattern := ⟨0xffc00000, 0x41000000⟩, length := 2,
    arguments := [
      ⟨.uint8, .Rdn, .plain, [⟨0x70000, 16⟩]⟩, ⟨.uint8, .Rm, .plain, [⟨0x380000, 19⟩]⟩] },
  { variant := .asrRegT2, pattern := ⟨0xffe0f0f0, 0xfa40f000⟩, length := 4,
    arguments := [
      ⟨.uint8, .Rd, .plain, [⟨0xf00, 8⟩]⟩, ⟨.uint8, .Rn, .plain, [⟨0xf0000, 16⟩]⟩,
      ⟨.uint8, .Rm, .plain, [⟨0xf, 0⟩]⟩, ⟨.bool, .S, .plain, [⟨0x100000, 20⟩]⟩] },
  { variant := .bT2, pattern := ⟨0xf8000000, 0xe0000000⟩, length := 2,
    arguments := [⟨.uint16, .imm, .plain, [⟨0x7ff0000, 16⟩]⟩] },
  { variant := .bicImmT1, pattern := ⟨0xfbe08000, 0xf0200000⟩, length := 4,
    arguments := [
      ⟨.uint8, .Rd, .plain, [⟨0xf00, 8⟩]⟩, ⟨.uint8, .Rn, .plain, [⟨0xf0000, 16⟩]⟩,
      ⟨.int32, .imm, .thumbExpandImm, [⟨0x4000000, 15⟩, ⟨0x7000, 4⟩, ⟨0xff, 0⟩]⟩,
      ⟨.bool, .S, .plain, [⟨0x100000, 20⟩]⟩] },
  { variant := .bicRegT1, pattern := ⟨0xffc00000, 0x43800000⟩, length := 2,
    arguments := [
      ⟨.uint8, .Rdn, .plain, [⟨0x70000, 16⟩]⟩, ⟨.uint8, .Rm, .plain, [⟨0x380000, 19⟩]⟩] },
  { variant := .bicRegT2, pattern := ⟨0xffe00000, 0xea200000⟩, length := 4,
    arguments := [
      ⟨.uint8, .Rd, .plain, [⟨0xf00, 8⟩]⟩, ⟨.uint8, .Rn, .plain, [⟨0xf0000, 16⟩]⟩,
      ⟨.uint8, .Rm, .plain, [⟨0xf, 0⟩]⟩, ⟨.uint8, .imm, .plain, [⟨0x7000, 10⟩, ⟨0xc0, 6⟩]⟩,
      ⟨.uint8, .type, .plain, [⟨0x30, 4⟩]⟩, ⟨.bool, .S, .plain, [⟨0x100000, 20⟩]⟩] },
  { variant := .bkptT1, pattern := ⟨0xff000000, 0xbe000000⟩, length := 2,
    arguments := [⟨.uint8, .imm, .plain, [⟨0xff0000, 16⟩]⟩] },
  { variant := .blxRegT1, pattern := ⟨0xff800000, 0x47800000⟩, length := 2,
    arguments := [⟨.uint8, .Rm, .plain, [⟨0x780000, 19⟩]⟩] },
  { variant := .bxT1, pattern := ⟨0xff800000, 0x47000000⟩, length := 2,
    arguments := [⟨.uint8, .Rm, .plain, [⟨0x780000, 19⟩]⟩] },
  { variant := .cbnzT1, pattern := ⟨0xf5000000, 0xb1000000⟩, length := 2,
    arguments := [
      ⟨.uint8, .Rn, .plain, [⟨0x70000, 16⟩]⟩,
      ⟨.uint8, .imm, .plain, [⟨0x2000000, 20⟩, ⟨0xf80000, 19⟩]⟩,
      ⟨.bool, .op, .plain, [⟨0x8000000, 27⟩]⟩] },
  { variant := .clzT1, pattern := ⟨0xfff0f0f0, 0xfab0f080⟩, length := 4,
    arguments := [
      ⟨.uint8, .Rd, .plain, [⟨0xf00, 8⟩]⟩, ⟨.uint8, .Rm, .plain, [⟨0xf, 0⟩]⟩,
      ⟨.uint8, .Rmx, .plain, [⟨0xf0000, 16⟩]⟩] },
  { variant := .cmnRegT1, pattern := ⟨0xffc00000, 0x42c00000⟩, length := 2,
    arguments := [⟨.uint8, .Rn, .plain, [⟨0x70000, 16⟩]⟩, ⟨.uint8, .Rm, .plain, [⟨0x380000, 19⟩]⟩] },
  { variant := .cmpImmT1, pattern := ⟨0xf8000000, 0x28000000⟩, length := 2,
    arguments := [
      ⟨.uint8, .Rn, .plain, [⟨0x7000000, 24⟩]⟩, ⟨.uint8, .imm, .plain, [⟨0xff0000, 16⟩]⟩] },
  { variant := .cmpRegT1, pattern := ⟨0xffc00000, 0x42800000⟩, length := 2,
    arguments := [⟨.uint8, .Rn, .plain, [⟨0x70000, 16⟩]⟩, ⟨.uint8, .Rm, .plain, [⟨0x380000, 19⟩]⟩] },
  { variant := .cmpRegT2, pattern := ⟨0xff000000, 0x45000000⟩, length := 2,
    arguments := [
      ⟨.uint8, .Rn, .plain, [⟨0x800000, 20⟩, ⟨0x70000, 16⟩]⟩,
      ⟨.uint8, .Rm, .plain, [⟨0x780000, 19⟩]⟩] },
  { variant := .cpsT1, pattern := ⟨0xffe00000, 0xb6600000⟩, length := 2,
    arguments := [
      ⟨.bool, .imm, .plain, [⟨0x100000, 20⟩]⟩, ⟨.bool, .F, .plain, [⟨0x10000, 16⟩]⟩,
      ⟨.bool, .I, .plain, [⟨0x20000, 17⟩]⟩] },
  { variant := .eorRegT1, pattern := ⟨0xffc00000, 0x40400000⟩, length := 2,
    arguments := [
      ⟨.uint8, .Rdn, .plain, [⟨0x70000, 16⟩]⟩, ⟨.uint8, .Rm, .plain, [⟨0x380000, 19⟩]⟩] },
  { variant := .ldmT1, pattern := ⟨0xf8000000, 0xc8000000⟩, length := 2,
    arguments := [
      ⟨.uint8, .Rn, .plain, [⟨0x7000000, 24⟩]⟩, ⟨.uint8, .registerList, .plain, [⟨0xff0000, 16⟩]⟩] },
  { variant := .ldmdbT1, pattern := ⟨0xffd02000, 0xe9100000⟩, length := 4,
    arguments := [
      ⟨.uint8, .Rn, .plain, [⟨0xf0000, 16⟩]⟩, ⟨.uint16, .registerList, .plain, [⟨0x1fff, 0⟩]⟩,
      ⟨.bool, .P, .plain, [⟨0x8000, 15⟩]⟩, ⟨.bool, .M, .plain, [⟨0x4000, 14⟩]⟩,
      ⟨.bool, .W, .plain, [⟨0x200000, 21⟩]⟩] },
  { variant := .ldrImmT1, pattern := ⟨0xf8000000, 0x68000000⟩, length := 2,
    arguments := [
      ⟨.uint8, .Rt, .plain, [⟨0x70000, 16⟩]⟩, ⟨.uint8, .Rn, .plain, [⟨0x380000, 19⟩]⟩,
      ⟨.uint8, .imm, .plain, [⟨0x7c00000, 22⟩]⟩] },
  { variant := .ldrImmT2, pattern := ⟨0xf8000000, 0x98000000⟩, length := 2,
    arguments := [
      ⟨.uint8, .Rt, .plain, [⟨0x7000000, 24⟩]⟩, ⟨.uint8, .imm, .plain, [⟨0xff0000, 16⟩]⟩] },
  { variant := .ldrLitT1, pattern := ⟨0xf8000000, 0x48000000⟩, length := 2,
    arguments := [
      ⟨.uint8, .Rt, .plain, [⟨0x7000000, 24⟩]⟩, ⟨.uint8, .imm, .plain, [⟨0xff0000, 16⟩]⟩] },
  { variant := .ldrRegT1, pattern := ⟨0xfe000000, 0x58000000⟩, length := 2,
    arguments := [
      ⟨.uint8, .Rt, .plain, [⟨0x70000, 16⟩]⟩, ⟨.uint8, .Rn, .plain, [⟨0x380000, 19⟩]⟩,
      ⟨.uint8, .Rm, .plain, [⟨0x1c00000, 22⟩]⟩] },
  { variant := .ldrbImmT1, pattern := ⟨0xf8000000, 0x78000000⟩, length := 2,
    arguments := [
      ⟨.uint8, .Rt, .plain, [⟨0x70000, 16⟩]⟩, ⟨.uint8, .Rn, .plain, [⟨0x380000, 19⟩]⟩,
      ⟨.uint8, .imm, .plain, [⟨0x7c00000, 22⟩]⟩] },
  { variant := .ldrbRegT1, pattern := ⟨0xfe000000, 0x5c000000⟩, length := 2,
    arguments := [
      ⟨.uint8, .Rt, .plain, [⟨0x70000, 16⟩]⟩, ⟨.uint8, .Rn, .plain, [⟨0x380000, 19⟩]⟩,
      ⟨.uint8, .Rm, .plain, [⟨0x1c00000, 22⟩]⟩] },
  { variant := .ldrhImmT1, pattern := ⟨0xf8000000, 0x88000000⟩, length := 2,
    arguments := [
      ⟨.uint8, .Rt, .plain, [⟨0x70000, 16⟩]⟩, ⟨.uint8, .Rn, .plain, [⟨0x380000, 19⟩]⟩,
      ⟨.uint8, .imm, .plain, [⟨0x7c00000, 22⟩]⟩] },
  { variant := .ldrhRegT1, pattern := ⟨0xfe000000, 0x5a000000⟩, length := 2,
    arguments := [
      ⟨.uint8, .Rt, .plain, [⟨0x70000, 16⟩]⟩, ⟨.uint8, .Rn, .plain, [⟨0x380000, 19⟩]⟩,
      ⟨.uint8, .Rm, .plain, [⟨0x1c00000, 22⟩]⟩] },
  { variant := .ldrsbRegT1, pattern := ⟨0xfe000000, 0x56000000⟩, length := 2,
    arguments := [
      ⟨.uint8, .Rt, .plain, [⟨0x70000, 16⟩]⟩, ⟨.uint8, .Rn, .plain, [⟨0x380000, 19⟩]⟩,
      ⟨.uint8, .Rm, .plain, [⟨0x1c00000, 22⟩]⟩] },
  { variant := .ldrshRegT1, pattern := ⟨0xfe000000, 0x5e000000⟩, length := 2,
    arguments := [
      ⟨.uint8, .Rt, .plain, [⟨0x70000, 16⟩]⟩, ⟨.uint8, .Rn, .plain, [⟨0x380000, 19⟩]⟩,
      ⟨.uint8, .Rm, .plain, [⟨0x1c00000, 22⟩]⟩] },
  { variant := .lslRegT1, pattern := ⟨0xffc00000, 0x40800000⟩, length := 2,
    arguments := [
      ⟨.uint8, .Rdn, .plain, [⟨0x70000, 16⟩]⟩, ⟨.uint8, .Rm, .plain, [⟨0x380000, 19⟩]⟩] },
  { variant := .lslRegT2, pattern := ⟨0xffe0f0f0, 0xfa00f000⟩, length := 4,
    arguments := [
      ⟨.uint8, .Rd, .plain, [⟨0xf00, 8⟩]⟩, ⟨.uint8, .Rn, .plain, [⟨0xf0000, 16⟩]⟩,
      ⟨.uint8, .Rm, .plain, [⟨0xf, 0⟩]⟩, ⟨.bool, .S, .plain, [⟨0x100000, 20⟩]⟩] },
  { variant := .lsrImmT1, pattern := ⟨0xf8000000, 0x08000000⟩, length := 2,
    arguments := [
      ⟨.uint8, .Rd, .plain, [⟨0x70000, 16⟩]⟩, ⟨.uint8, .Rm, .plain, [⟨0x380000, 19⟩]⟩,
      ⟨.uint8, .imm, .plain, [⟨0x7c00000, 22⟩]⟩] },
  { variant := .lsrRegT1, pattern := ⟨0xffc00000, 0x40c00000⟩, length := 2,
    arguments := [
      ⟨.uint8, .Rdn, .plain, [⟨0x70000, 16⟩]⟩, ⟨.uint8, .Rm, .plain, [⟨0x380000, 19⟩]⟩] },
  { variant := .lsrRegT2, pattern := ⟨0xffe0f0f0, 0xfa20f000⟩, length := 4,
    arguments := [
      ⟨.uint8, .Rd, .plain, [⟨0xf00, 8⟩]⟩, ⟨.uint8, .Rn, .plain, [⟨0xf0000, 16⟩]⟩,
      ⟨.uint8, .Rm, .plain, [⟨0xf, 0⟩]⟩, ⟨.bool, .S, .plain, [⟨0x100000, 20⟩]⟩] },
  { variant := .mcr2T2, pattern := ⟨0xff100010, 0xfe000010⟩, length := 4,
    arguments := [
      ⟨.uint8, .Rt, .plain, [⟨0xf000, 12⟩]⟩, ⟨.uint8, .coproc, .plain, [⟨0xf00, 8⟩]⟩,
      ⟨.uint8, .CRn, .plain, [⟨0xf0000, 16⟩]⟩, ⟨.uint8, .CRm, .plain, [⟨0xf, 0⟩]⟩,
      ⟨.uint8, .opcA, .plain, [⟨0xe00000, 21⟩]⟩, ⟨.uint8, .opcB, .plain, [⟨0xe0, 5⟩]⟩] },
  { variant := .mlsT1, pattern := ⟨0xfff000f0, 0xfb000010⟩, length := 4,
    arguments := [
      ⟨.uint8, .Rd, .plain, [⟨0xf00, 8⟩]⟩, ⟨.uint8, .Rn, .plain, [⟨0xf0000, 16⟩]⟩,
      ⟨.uint8, .Rm, .plain, [⟨0xf, 0⟩]⟩, ⟨.uint8, .Ra, .plain, [⟨0xf000, 12⟩]⟩] },
  { variant := .movImmT1, pattern := ⟨0xf8000000, 0x20000000⟩, length := 2,
    arguments := [
      ⟨.uint8, .Rd, .plain, [⟨0x7000000, 24⟩]⟩, ⟨.uint8, .imm, .plain, [⟨0xff0000, 16⟩]⟩] },
  { variant := .movRegT1, pattern := ⟨0xff000000, 0x46000000⟩, length := 2,
    arguments := [
      ⟨.uint8, .Rd, .plain, [⟨0x800000, 20⟩, ⟨0x70000, 16⟩]⟩,
      ⟨.uint8, .Rm, .plain, [⟨0x780000, 19⟩]⟩] },
  { variant := .movtT1, pattern := ⟨0xfbf08000, 0xf2c00000⟩, length := 4,
    arguments := [
      ⟨.uint8, .Rd, .plain, [⟨0xf00, 8⟩]⟩,
      ⟨.uint16, .imm, .plain, [⟨0x4000000, 15⟩, ⟨0xf7000, 4⟩, ⟨0xff, 0⟩]⟩] },
  { variant := .mrc2T2, pattern := ⟨0xff100010, 0xfe100010⟩, length := 4,
    arguments := [
      ⟨.uint8, .Rt, .plain, [⟨0xf000, 12⟩]⟩, ⟨.uint8, .coproc, .plain, [⟨0xf00, 8⟩]⟩,
      ⟨.uint8, .Crn, .plain, [⟨0xf0000, 16⟩]⟩, ⟨.uint8, .CRm, .plain, [⟨0xf, 0⟩]⟩,
      ⟨.uint8, .opcA, .plain, [⟨0xe00000, 21⟩]⟩, ⟨.uint8, .opcB, .plain, [⟨0xe0, 5⟩]⟩] },
  { variant := .mulT1, pattern := ⟨0xffc00000, 0x43400000⟩, length := 2,
    arguments := [
      ⟨.uint8, .Rdm, .plain, [⟨0x70000, 16⟩]⟩, ⟨.uint8, .Rn, .plain, [⟨0x380000, 19⟩]⟩] },
  { variant := .mvnRegT1, pattern := ⟨0xffc00000, 0x43c00000⟩, length := 2,
    arguments := [⟨.uint8, .Rd, .plain, [⟨0x70000, 16⟩]⟩, ⟨.uint8, .Rm, .plain, [⟨0x380000, 19⟩]⟩] },
  { variant := .orrRegT1, pattern := ⟨0xffc00000, 0x43000000⟩, length := 2,
    arguments := [
      ⟨.uint8, .Rdn, .plain, [⟨0x70000, 16⟩]⟩, ⟨.uint8, .Rm, .plain, [⟨0x380000, 19⟩]⟩] },
  { variant := .pkhbtT1, pattern := ⟨0xffe00000, 0xeac00000⟩, length := 4,
    arguments := [
      ⟨.uint8, .Rd, .plain, [⟨0xf00, 8⟩]⟩, ⟨.uint8, .Rn, .plain, [⟨0xf0000, 16⟩]⟩,
      ⟨.uint8, .Rm, .plain, [⟨0xf, 0⟩]⟩, ⟨.uint8, .imm, .plain, [⟨0x7000, 10⟩, ⟨0xc0, 6⟩]⟩,
      ⟨.bool, .tb, .plain, [⟨0x20, 5⟩]⟩, ⟨.bool, .S, .plain, [⟨0x100000, 20⟩]⟩,
      ⟨.bool, .T, .plain, [⟨0x10, 4⟩]⟩] },
  { variant := .popT1, pattern := ⟨0xfe000000, 0xbc000000⟩, length := 2,
    arguments := [
      ⟨.uint8, .registerList, .plain, [⟨0xff0000, 16⟩]⟩, ⟨.bool, .P, .plain, [⟨0x1000000, 24⟩]⟩] },
  { variant := .pushT1, pattern := ⟨0xfe000000, 0xb4000000⟩, length := 2,
    arguments := [
      ⟨.uint8, .registerList, .plain, [⟨0xff0000, 16⟩]⟩, ⟨.bool, .M, .plain, [⟨0x1000000, 24⟩]⟩] },
  { variant := .qadd16T1, pattern := ⟨0xfff0f0f0, 0xfa90f010⟩, length := 4,
    arguments := [
      ⟨.uint8, .Rd, .plain, [⟨0xf00, 8⟩]⟩, ⟨.uint8, .Rn, .plain, [⟨0xf0000, 16⟩]⟩,
      ⟨.uint8, .Rm, .plain, [⟨0xf, 0⟩]⟩] },
  { variant := .qadd8T1, pattern := ⟨0xfff0f0f0, 0xfa80f010⟩, length := 4,
    arguments := [
      ⟨.uint8, .Rd, .plain, [⟨0xf00, 8⟩]⟩, ⟨.uint8, .Rn, .plain, [⟨0xf0000, 16⟩]⟩,
      ⟨.uint8, .Rm, .plain, [⟨0xf, 0⟩]⟩] },
  { variant := .qaddT1, pattern := ⟨0xfff0f0f0, 0xfa80f080⟩, length := 4,
    arguments := [
      ⟨.uint8, .Rd, .plain, [⟨0xf00, 8⟩]⟩, ⟨.uint8, .Rn, .plain, [⟨0xf0000, 16⟩]⟩,
      ⟨.uint8, .Rm, .plain, [⟨0xf, 0⟩]⟩] },
  { variant := .qdaddT1, pattern := ⟨0xfff0f0f0, 0xfa80f090⟩, length := 4,
    arguments := [
      ⟨.uint8, .Rd, .plain, [⟨0xf00, 8⟩]⟩, ⟨.uint8, .Rn, .plain, [⟨0xf0000, 16⟩]⟩,
      ⟨.uint8, .Rm, .plain, [⟨0xf, 0⟩]⟩] },
  { variant := .qdsubT1, pattern := ⟨0xfff0f0f0, 0xfa80f0b0⟩, length := 4,
    arguments := [
      ⟨.uint8, .Rd, .plain, [⟨0xf00, 8⟩]⟩, ⟨.uint8, .Rn, .plain, [⟨0xf0000, 16⟩]⟩,
      ⟨.uint8, .Rm, .plain, [⟨0xf, 0⟩]⟩] },
  { variant := .qsub16T1, pattern := ⟨0xfff0f0f0, 0xfad0f010⟩, length := 4,
    arguments := [
      ⟨.uint8, .Rd, .plain, [⟨0xf00, 8⟩]⟩, ⟨.uint8, .Rn, .plain, [⟨0xf0000, 16⟩]⟩,
      ⟨.uint8, .Rm, .plain, [⟨0xf, 0⟩]⟩] },
  { variant := .qsub8T1, pattern := ⟨0xfff0f0f0, 0xfac0f010⟩, length := 4,
    arguments := [
      ⟨.uint8, .Rd, .plain, [⟨0xf00, 8⟩]⟩, ⟨.uint8, .Rn, .plain, [⟨0xf0000, 16⟩]⟩,
      ⟨.uint8, .Rm, .plain, [⟨0xf, 0⟩]⟩] },
  { variant := .qsubT1, pattern := ⟨0xfff0f0f0, 0xfa80f0a0⟩, length := 4,
    arguments := [
      ⟨.uint8, .Rd, .plain, [⟨0xf00, 8⟩]⟩, ⟨.uint8, .Rn, .plain, [⟨0xf0000, 16⟩]⟩,
      ⟨.uint8, .Rm, .plain, [⟨0xf, 0⟩]⟩] },
  { variant := .rbitT1, pattern := ⟨0xfff0f0f0, 0xfa90f0a0⟩, length := 4,
    arguments := [
      ⟨.uint8, .Rd, .plain, [⟨0xf00, 8⟩]⟩, ⟨.uint8, .Rm, .plain, [⟨0xf0000, 12⟩, ⟨0xf, 0⟩]⟩] },
  { variant := .rev16T1, pattern := ⟨0xffc00000, 0xba400000⟩, length := 2,
    arguments := [⟨.uint8, .Rd, .plain, [⟨0x70000, 16⟩]⟩, ⟨.uint8, .Rm, .plain, [⟨0x380000, 19⟩]⟩] },
  { variant := .rev16T2, pattern := ⟨0xfff0f0f0, 0xfa90f090⟩, length := 4,
    arguments := [
      ⟨.uint8, .Rd, .plain, [⟨0xf00, 8⟩]⟩, ⟨.uint8, .Rm, .plain, [⟨0xf0000, 12⟩, ⟨0xf, 0⟩]⟩] },
  { variant := .revT1, pattern := ⟨0xffc00000, 0xba000000⟩, length := 2,
    arguments := [⟨.uint8, .Rd, .plain, [⟨0x70000, 16⟩]⟩, ⟨.uint8, .Rm, .plain, [⟨0x380000, 19⟩]⟩] },
  { variant := .revT2, pattern := ⟨0xfff0f0f0, 0xfa90f080⟩, length := 4,
    arguments := [
      ⟨.uint8, .Rd, .plain, [⟨0xf00, 8⟩]⟩, ⟨.uint8, .Rm, .plain, [⟨0xf, 0⟩]⟩,
      ⟨.uint8, .Rmx, .plain, [⟨0xf0000, 16⟩]⟩] },
  { variant := .revshT1, pattern := ⟨0xffc00000, 0xbac00000⟩, length := 2,
    arguments := [⟨.uint8, .Rd, .plain, [⟨0x70000, 16⟩]⟩, ⟨.uint8, .Rm, .plain, [⟨0x380000, 19⟩]⟩] },
  { variant := .revshT2, pattern := ⟨0xfff0f0f0, 0xfa90f0b0⟩, length := 4,
    arguments := [
      ⟨.uint8, .Rd, .plain, [⟨0xf00, 8⟩]⟩, ⟨.uint8, .Rm, .plain, [⟨0xf0000, 12⟩, ⟨0xf, 0⟩]⟩] },
  { variant := .rorRegT1, pattern := ⟨0xffc00000, 0x41c00000⟩, length := 2,
    arguments := [
      ⟨.uint8, .Rdn, .plain, [⟨0x70000, 16⟩]⟩, ⟨.uint8, .Rm, .plain, [⟨0x380000, 19⟩]⟩] },
  { variant := .rorRegT2, pattern := ⟨0xffe0f0f0, 0xfa60f000⟩, length := 4,
    arguments := [
      ⟨.uint8, .Rd, .plain, [⟨0xf00, 8⟩]⟩, ⟨.uint8, .Rn, .plain, [⟨0xf0000, 16⟩]⟩,
      ⟨.uint8, .Rm, .plain, [⟨0xf, 0⟩]⟩, ⟨.bool, .S, .plain, [⟨0x100000, 20⟩]⟩] },
  { variant := .rsbImmT1, pattern := ⟨0xffc00000, 0x42400000⟩, length := 2,
    arguments := [⟨.uint8, .Rd, .plain, [⟨0x70000, 16⟩]⟩, ⟨.uint8, .Rn, .plain, [⟨0x380000, 19⟩]⟩] },
  { variant := .rsbImmT2, pattern := ⟨0xfbe08000, 0xf1c00000⟩, length := 4,
    arguments := [
      ⟨.uint8, .Rd, .plain, [⟨0xf00, 8⟩]⟩, ⟨.uint8, .Rn, .plain, [⟨0xf0000, 16⟩]⟩,
      ⟨.int32, .imm, .thumbExpandImm, [⟨0x4000000, 15⟩, ⟨0x7000, 4⟩, ⟨0xff, 0⟩]⟩,
      ⟨.bool, .S, .plain, [⟨0x100000, 20⟩]⟩] },
  { variant := .rsbRegT1, pattern := ⟨0xffe00000, 0xebc00000⟩, length := 4,
    arguments := [
      ⟨.uint8, .Rd, .plain, [⟨0xf00, 8⟩]⟩, ⟨.uint8, .Rn, .plain, [⟨0xf0000, 16⟩]⟩,
      ⟨.uint8, .Rm, .plain, [⟨0xf, 0⟩]⟩, ⟨.uint8, .imm, .plain, [⟨0x7000, 10⟩, ⟨0xc0, 6⟩]⟩,
      ⟨.uint8, .type, .plain, [⟨0x30, 4⟩]⟩, ⟨.bool, .S, .plain, [⟨0x100000, 20⟩]⟩] },
  { variant := .sadd16T1, pattern := ⟨0xfff0f0f0, 0xfa90f000⟩, length := 4,
    arguments := [
      ⟨.uint8, .Rd, .plain, [⟨0xf00, 8⟩]⟩, ⟨.uint8, .Rn, .plain, [⟨0xf0000, 16⟩]⟩,
      ⟨.uint8, .Rm, .plain, [⟨0xf, 0⟩]⟩] },
  { variant := .sadd8T1, pattern := ⟨0xfff0f0f0, 0xfa80f000⟩, length := 4,
    arguments := [
      ⟨.uint8, .Rd, .plain, [⟨0xf00, 8⟩]⟩, ⟨.uint8, .Rn, .plain, [⟨0xf0000, 16⟩]⟩,
      ⟨.uint8, .Rm, .plain, [⟨0xf, 0⟩]⟩] },
  { variant := .sasxT1, pattern := ⟨0xfff0f0f0, 0xfaa0f000⟩, length := 4,
    arguments := [
      ⟨.uint8, .Rd, .plain, [⟨0xf00, 8⟩]⟩, ⟨.uint8, .Rn, .plain, [⟨0xf0000, 16⟩]⟩,
      ⟨.uint8, .Rm, .plain, [⟨0xf, 0⟩]⟩] },
  { variant := .sbcImmT1, pattern := ⟨0xfbe08000, 0xf1600000⟩, length := 4,
    arguments := [
      ⟨.uint8, .Rd, .plain, [⟨0xf00, 8⟩]⟩, ⟨.uint8, .Rn, .plain, [⟨0xf0000, 16⟩]⟩,
      ⟨.int32, .imm, .thumbExpandImm, [⟨0x4000000, 15⟩, ⟨0x7000, 4⟩, ⟨0xff, 0⟩]⟩,
      ⟨.bool, .S, .plain, [⟨0x100000, 20⟩]⟩] },
  { variant := .sbcRegT1, pattern := ⟨0xffc00000, 0x41800000⟩, length := 2,
    arguments := [
      ⟨.uint8, .Rdn, .plain, [⟨0x70000, 16⟩]⟩, ⟨.uint8, .Rm, .plain, [⟨0x380000, 19⟩]⟩] },
  { variant := .sbcRegT2, pattern := ⟨0xffe00000, 0xeb600000⟩, length := 4,
    arguments := [
      ⟨.uint8, .Rd, .plain, [⟨0xf00, 8⟩]⟩, ⟨.uint8, .Rn, .plain, [⟨0xf0000, 16⟩]⟩,
      ⟨.uint8, .Rm, .plain, [⟨0xf, 0⟩]⟩, ⟨.uint8, .imm, .plain, [⟨0x7000, 10⟩, ⟨0xc0, 6⟩]⟩,
      ⟨.uint8, .type, .plain, [⟨0x30, 4⟩]⟩, ⟨.bool, .S, .plain, [⟨0x100000, 20⟩]⟩] },
  { variant := .sbfxT1, pattern := ⟨0xfbf08000, 0xf3400000⟩, length := 4,
    arguments := [
      ⟨.uint8, .Rd, .plain, [⟨0xf00, 8⟩]⟩, ⟨.uint8, .Rn, .plain, [⟨0xf0000, 16⟩]⟩,
      ⟨.uint8, .imm, .plain, [⟨0x7000, 10⟩, ⟨0xc0, 6⟩]⟩, ⟨.uint8, .width, .plain, [⟨0x1f, 0⟩]⟩] },
  { variant := .sdivT1, pattern := ⟨0xfff000f0, 0xfb9000f0⟩, length := 4,
    arguments := [
      ⟨.uint8, .Rd, .plain, [⟨0xf00, 8⟩]⟩, ⟨.uint8, .Rn, .plain, [⟨0xf0000, 16⟩]⟩,
      ⟨.uint8, .Rm, .plain, [⟨0xf, 0⟩]⟩] },
  { variant := .selT1, pattern := ⟨0xfff0f0f0, 0xfaa0f080⟩, length := 4,
    arguments := [
      ⟨.uint8, .Rd, .plain, [⟨0xf00, 8⟩]⟩, ⟨.uint8, .Rn, .plain, [⟨0xf0000, 16⟩]⟩,
      ⟨.uint8, .Rm, .plain, [⟨0xf, 0⟩]⟩] },
  { variant := .shadd16T1, pattern := ⟨0xfff0f0f0, 0xfa90f020⟩, length := 4,
    arguments := [
      ⟨.uint8, .Rd, .plain, [⟨0xf00, 8⟩]⟩, ⟨.uint8, .Rn, .plain, [⟨0xf0000, 16⟩]⟩,
      ⟨.uint8, .Rm, .plain, [⟨0xf, 0⟩]⟩] },
  { variant := .shadd8T1, pattern := ⟨0xfff0f0f0, 0xfa80f020⟩, length := 4,
    arguments := [
      ⟨.uint8, .Rd, .plain, [⟨0xf00, 8⟩]⟩, ⟨.uint8, .Rn, .plain, [⟨0xf0000, 16⟩]⟩,
      ⟨.uint8, .Rm, .plain, [⟨0xf, 0⟩]⟩] },
  { variant := .shasxT1, pattern := ⟨0xfff0f0f0, 0xfaa0f020⟩, length := 4,
    arguments := [
      ⟨.uint8, .Rd, .plain, [⟨0xf00, 8⟩]⟩, ⟨.uint8, .Rn, .plain, [⟨0xf0000, 16⟩]⟩,
      ⟨.uint8, .Rm, .plain, [⟨0xf, 0⟩]⟩] },
  { variant := .shsaxT1, pattern := ⟨0xfff0f0f0, 0xfae0f020⟩, length := 4,
    arguments := [
      ⟨.uint8, .Rd, .plain, [⟨0xf00, 8⟩]⟩, ⟨.uint8, .Rn, .plain, [⟨0xf0000, 16⟩]⟩,
      ⟨.uint8, .Rm, .plain, [⟨0xf, 0⟩]⟩] },
  { variant := .shsub16T1, pattern := ⟨0xfff0f0f0, 0xfad0f020⟩, length := 4,
    arguments := [
      ⟨.uint8, .Rd, .plain, [⟨0xf00, 8⟩]⟩, ⟨.uint8, .Rn, .plain, [⟨0xf0000, 16⟩]⟩,
      ⟨.uint8, .Rm, .plain, [⟨0xf, 0⟩]⟩] },
  { variant := .shsub8T1, pattern := ⟨0xfff0f0f0, 0xfac0f020⟩, length := 4,
    arguments := [
      ⟨.uint8, .Rd, .plain, [⟨0xf00, 8⟩]⟩, ⟨.uint8, .Rn, .plain, [⟨0xf0000, 16⟩]⟩,
      ⟨.uint8, .Rm, .plain, [⟨0xf, 0⟩]⟩] },
  { variant := .smlalT1, pattern := ⟨0xfff000f0, 0xfbc00000⟩, length := 4,
    arguments := [
      ⟨.uint8, .Rn, .plain, [⟨0xf0000, 16⟩]⟩, ⟨.uint8, .Rm, .plain, [⟨0xf, 0⟩]⟩,
      ⟨.uint8, .RdLo, .plain, [⟨0xf000, 12⟩]⟩, ⟨.uint8, .RdHi, .plain, [⟨0xf00, 8⟩]⟩] },
  { variant := .smlalbbT1, pattern := ⟨0xfff000c0, 0xfbc00080⟩, length := 4,
    arguments := [
      ⟨.uint8, .Rn, .plain, [⟨0xf0000, 16⟩]⟩, ⟨.uint8, .Rm, .plain, [⟨0xf, 0⟩]⟩,
      ⟨.uint8, .RdLo, .plain, [⟨0xf000, 12⟩]⟩, ⟨.uint8, .RdHi, .plain, [⟨0xf00, 8⟩]⟩,
      ⟨.bool, .N, .plain, [⟨0x20, 5⟩]⟩, ⟨.bool, .M, .plain, [⟨0x10, 4⟩]⟩] },
  { variant := .smlaldT1, pattern := ⟨0xfff000e0, 0xfbc000c0⟩, length := 4,
    arguments := [
      ⟨.uint8, .Rn, .plain, [⟨0xf0000, 16⟩]⟩, ⟨.uint8, .Rm, .plain, [⟨0xf, 0⟩]⟩,
      ⟨.uint8, .RdLo, .plain, [⟨0xf000, 12⟩]⟩, ⟨.uint8, .RdHi, .plain, [⟨0xf00, 8⟩]⟩,
      ⟨.bool, .M, .plain, [⟨0x10, 4⟩]⟩] },
  { variant := .smlsldT1, pattern := ⟨0xfff000e0, 0xfbd000c0⟩, length := 4,
    arguments := [
      ⟨.uint8, .Rn, .plain, [⟨0xf0000, 16⟩]⟩, ⟨.uint8, .Rm, .plain, [⟨0xf, 0⟩]⟩,
      ⟨.uint8, .RdLo, .plain, [⟨0xf000, 12⟩]⟩, ⟨.uint8, .RdHi, .plain, [⟨0xf00, 8⟩]⟩,
      ⟨.bool, .M, .plain, [⟨0x10, 4⟩]⟩] },
  { variant := .smmlsT1, pattern := ⟨0xfff000e0, 0xfb600000⟩, length := 4,
    arguments := [
      ⟨.uint8, .Rd, .plain, [⟨0xf00, 8⟩]⟩, ⟨.uint8, .Rn, .plain, [⟨0xf0000, 16⟩]⟩,
      ⟨.uint8, .Rm, .plain, [⟨0xf, 0⟩]⟩, ⟨.uint8, .Ra, .plain, [⟨0xf000, 12⟩]⟩,
      ⟨.bool, .R, .plain, [⟨0x10, 4⟩]⟩] },
  { variant := .smullT1, pattern := ⟨0xfff000f0, 0xfb800000⟩, length := 4,
    arguments := [
      ⟨.uint8, .Rn, .plain, [⟨0xf0000, 16⟩]⟩, ⟨.uint8, .Rm, .plain, [⟨0xf, 0⟩]⟩,
      ⟨.uint8, .RdLo, .plain, [⟨0xf000, 12⟩]⟩, ⟨.uint8, .RdHi, .plain, [⟨0xf00, 8⟩]⟩] },
  { variant := .ssaxT1, pattern := ⟨0xfff0f0f0, 0xfae0f000⟩, length := 4,
    arguments := [
      ⟨.uint8, .Rd, .plain, [⟨0xf00, 8⟩]⟩, ⟨.uint8, .Rn, .plain, [⟨0xf0000, 16⟩]⟩,
      ⟨.uint8, .Rm, .plain, [⟨0xf, 0⟩]⟩] },
  { variant := .ssub16T1, pattern := ⟨0xfff0f0f0, 0xfad0f000⟩, length := 4,
    arguments := [
      ⟨.uint8, .Rd, .plain, [⟨0xf00, 8⟩]⟩, ⟨.uint8, .Rn, .plain, [⟨0xf0000, 16⟩]⟩,
      ⟨.uint8, .Rm, .plain, [⟨0xf, 0⟩]⟩] },
  { variant := .ssub8T1, pattern := ⟨0xfff0f0f0, 0xfac0f000⟩, length := 4,
    arguments := [
      ⟨.uint8, .Rd, .plain, [⟨0xf00, 8⟩]⟩, ⟨.uint8, .Rn, .plain, [⟨0xf0000, 16⟩]⟩,
      ⟨.uint8, .Rm, .plain, [⟨0xf, 0⟩]⟩] },
  { variant := .stmT1, pattern := ⟨0xf8000000, 0xc0000000⟩, length := 2,
    arguments := [
      ⟨.uint8, .Rn, .plain, [⟨0x7000000, 24⟩]⟩, ⟨.uint8, .registerList, .plain, [⟨0xff0000, 16⟩]⟩] },
  { variant := .stmT2, pattern := ⟨0xffd0a000, 0xe8800000⟩, length := 4,
    arguments := [
      ⟨.uint8, .Rn, .plain, [⟨0xf0000, 16⟩]⟩, ⟨.uint16, .registerList, .plain, [⟨0x1fff, 0⟩]⟩,
      ⟨.bool, .M, .plain, [⟨0x4000, 14⟩]⟩, ⟨.bool, .W, .plain, [⟨0x200000, 21⟩]⟩] },
  { variant := .strImmT1, pattern := ⟨0xf8000000, 0x60000000⟩, length := 2,
    arguments := [
      ⟨.uint8, .Rt, .plain, [⟨0x70000, 16⟩]⟩, ⟨.uint8, .Rn, .plain, [⟨0x380000, 19⟩]⟩,
      ⟨.uint8, .imm, .plain, [⟨0x7c00000, 22⟩]⟩] },
  { variant := .strImmT2, pattern := ⟨0xf8000000, 0x90000000⟩, length := 2,
    arguments := [
      ⟨.uint8, .Rt, .plain, [⟨0x7000000, 24⟩]⟩, ⟨.uint8, .imm, .plain, [⟨0xff0000, 16⟩]⟩] },
  { variant := .strImmT3, pattern := ⟨0xfff00000, 0xf8c00000⟩, length := 4,
    arguments := [
      ⟨.uint8, .Rt, .plain, [⟨0xf000, 12⟩]⟩, ⟨.uint8, .Rn, .plain, [⟨0xf0000, 16⟩]⟩,
      ⟨.uint16, .imm, .plain, [⟨0xfff, 0⟩]⟩] },
  { variant := .strRegT1, pattern := ⟨0xfe000000, 0x50000000⟩, length := 2,
    arguments := [
      ⟨.uint8, .Rt, .plain, [⟨0x70000, 16⟩]⟩, ⟨.uint8, .Rn, .plain, [⟨0x380000, 19⟩]⟩,
      ⟨.uint8, .Rm, .plain, [⟨0x1c00000, 22⟩]⟩] },
  { variant := .strRegT2, pattern := ⟨0xfff00fc0, 0xf8400000⟩, length := 4,
    arguments := [
      ⟨.uint8, .Rt, .plain, [⟨0xf000, 12⟩]⟩, ⟨.uint8, .Rn, .plain, [⟨0xf0000, 16⟩]⟩,
      ⟨.uint8, .Rm, .plain, [⟨0xf, 0⟩]⟩, ⟨.uint8, .imm, .plain, [⟨0x30, 4⟩]⟩] },
  { variant := .strbImmT1, pattern := ⟨0xf8000000, 0x70000000⟩, length := 2,
    arguments := [
      ⟨.uint8, .Rt, .plain, [⟨0x70000, 16⟩]⟩, ⟨.uint8, .Rn, .plain, [⟨0x380000, 19⟩]⟩,
      ⟨.uint8, .imm, .plain, [⟨0x7c00000, 22⟩]⟩] },
  { variant := .strbImmT2, pattern := ⟨0xfff00000, 0xf8800000⟩, length := 4,
    arguments := [
      ⟨.uint8, .Rt, .plain, [⟨0xf000, 12⟩]⟩, ⟨.uint8, .Rn, .plain, [⟨0xf0000, 16⟩]⟩,
      ⟨.uint16, .imm, .plain, [⟨0xfff, 0⟩]⟩] },
  { variant := .strbRegT1, pattern := ⟨0xfe000000, 0x54000000⟩, length := 2,
    arguments := [
      ⟨.uint8, .Rt, .plain, [⟨0x70000, 16⟩]⟩, ⟨.uint8, .Rn, .plain, [⟨0x380000, 19⟩]⟩,
      ⟨.uint8, .Rm, .plain, [⟨0x1c00000, 22⟩]⟩] },
  { variant := .strbRegT2, pattern := ⟨0xfff00fc0, 0xf8000000⟩, length := 4,
    arguments := [
      ⟨.uint8, .Rt, .plain, [⟨0xf000, 12⟩]⟩, ⟨.uint8, .Rn, .plain, [⟨0xf0000, 16⟩]⟩,
      ⟨.uint8, .Rm, .plain, [⟨0xf, 0⟩]⟩, ⟨.uint8, .imm, .plain, [⟨0x30, 4⟩]⟩] },
  { variant := .strhImmT1, pattern := ⟨0xf8000000, 0x80000000⟩, length := 2,
    arguments := [
      ⟨.uint8, .Rt, .plain, [⟨0x70000, 16⟩]⟩, ⟨.uint8, .Rn, .plain, [⟨0x380000, 19⟩]⟩,
      ⟨.uint8, .imm, .plain, [⟨0x7c00000, 22⟩]⟩] },
  { variant := .strhImmT2, pattern := ⟨0xfff00000, 0xf8a00000⟩, length := 4,
    arguments := [
      ⟨.uint8, .Rt, .plain, [⟨0xf000, 12⟩]⟩, ⟨.uint8, .Rn, .plain, [⟨0xf0000, 16⟩]⟩,
      ⟨.uint16, .imm, .plain, [⟨0xfff, 0⟩]⟩] },
  { variant := .strhRegT1, pattern := ⟨0xfe000000, 0x52000000⟩, length := 2,
    arguments := [
      ⟨.uint8, .Rt, .plain, [⟨0x70000, 16⟩]⟩, ⟨.uint8, .Rn, .plain, [⟨0x380000, 19⟩]⟩,
      ⟨.uint8, .Rm, .plain, [⟨0x1c00000, 22⟩]⟩] },
  { variant := .strhRegT2, pattern := ⟨0xfff00fc0, 0xf8200000⟩, length := 4,
    arguments := [
      ⟨.uint8, .Rt, .plain, [⟨0xf000, 12⟩]⟩, ⟨.uint8, .Rn, .plain, [⟨0xf0000, 16⟩]⟩,
      ⟨.uint8, .Rm, .plain, [⟨0xf, 0⟩]⟩, ⟨.uint8, .imm, .plain, [⟨0x30, 4⟩]⟩] },
  { variant := .subSPimmT1, pattern := ⟨0xff800000, 0xb0800000⟩, length := 2,
    arguments := [⟨.uint8, .imm, .plain, [⟨0x7f0000, 16⟩]⟩] },
  { variant := .subImmT1, pattern := ⟨0xfe000000, 0x1e000000⟩, length := 2,
    arguments := [
      ⟨.uint8, .Rd, .plain, [⟨0x70000, 16⟩]⟩, ⟨.uint8, .Rn, .plain, [⟨0x380000, 19⟩]⟩,
      ⟨.uint8, .imm, .plain, [⟨0x1c00000, 22⟩]⟩] },
  { variant := .subImmT2, pattern := ⟨0xf8000000, 0x38000000⟩, length := 2,
    arguments := [
      ⟨.uint8, .Rdn, .plain, [⟨0x7000000, 24⟩]⟩, ⟨.uint8, .imm, .plain, [⟨0xff0000, 16⟩]⟩] },
  { variant := .subRegT1, pattern := ⟨0xfe000000, 0x1a000000⟩, length := 2,
    arguments := [
      ⟨.uint8, .Rd, .plain, [⟨0x70000, 16⟩]⟩, ⟨.uint8, .Rn, .plain, [⟨0x380000, 19⟩]⟩,
      ⟨.uint8, .Rm, .plain, [⟨0x1c00000, 22⟩]⟩] },
  { variant := .sxtbT1, pattern := ⟨0xffc00000, 0xb2400000⟩, length := 2,
    arguments := [⟨.uint8, .Rd, .plain, [⟨0x70000, 16⟩]⟩, ⟨.uint8, .Rm, .plain, [⟨0x380000, 19⟩]⟩] },
  { variant := .sxthT1, pattern := ⟨0xffc00000, 0xb2000000⟩, length := 2,
    arguments := [⟨.uint8, .Rd, .plain, [⟨0x70000, 16⟩]⟩, ⟨.uint8, .Rm, .plain, [⟨0x380000, 19⟩]⟩] },
  { variant := .tstRegT1, pattern := ⟨0xffc00000, 0x42000000⟩, length := 2,
    arguments := [⟨.uint8, .Rn, .plain, [⟨0x70000, 16⟩]⟩, ⟨.uint8, .Rm, .plain, [⟨0x380000, 19⟩]⟩] },
  { variant := .uadd16T1, pattern := ⟨0xfff0f0f0, 0xfa90f040⟩, length := 4,
    arguments := [
      ⟨.uint8, .Rd, .plain, [⟨0xf00, 8⟩]⟩, ⟨.uint8, .Rn, .plain, [⟨0xf0000, 16⟩]⟩,
      ⟨.uint8, .Rm, .plain, [⟨0xf, 0⟩]⟩] },
  { variant := .uadd8T1, pattern := ⟨0xfff0f0f0, 0xfa80f040⟩, length := 4,
    arguments := [
      ⟨.uint8, .Rd, .plain, [⟨0xf00, 8⟩]⟩, ⟨.uint8, .Rn, .plain, [⟨0xf0000, 16⟩]⟩,
      ⟨.uint8, .Rm, .plain, [⟨0xf, 0⟩]⟩] },
  { variant := .uasxT1, pattern := ⟨0xfff0f0f0, 0xfaa0f040⟩, length := 4,
    arguments := [
      ⟨.uint8, .Rd, .plain, [⟨0xf00, 8⟩]⟩, ⟨.uint8, .Rn, .plain, [⟨0xf0000, 16⟩]⟩,
      ⟨.uint8, .Rm, .plain, [⟨0xf, 0⟩]⟩] },
  { variant := .ubfxT1, pattern := ⟨0xfbf08000, 0xf3c00000⟩, length := 4,
    arguments := [
      ⟨.uint8, .Rd, .plain, [⟨0xf00, 8⟩]⟩, ⟨.uint8, .Rn, .plain, [⟨0xf0000, 16⟩]⟩,
      ⟨.uint8, .imm, .plain, [⟨0x7000, 10⟩, ⟨0xc0, 6⟩]⟩, ⟨.uint8, .width, .plain, [⟨0x1f, 0⟩]⟩] },
  { variant := .udivT1, pattern := ⟨0xfff000f0, 0xfbb000f0⟩, length := 4,
    arguments := [
      ⟨.uint8, .Rd, .plain, [⟨0xf00, 8⟩]⟩, ⟨.uint8, .Rn, .plain, [⟨0xf0000, 16⟩]⟩,
      ⟨.uint8, .Rm, .plain, [⟨0xf, 0⟩]⟩] },
  { variant := .uhadd16T1, pattern := ⟨0xfff0f0f0, 0xfa90f060⟩, length := 4,
    arguments := [
      ⟨.uint8, .Rd, .plain, [⟨0xf00, 8⟩]⟩, ⟨.uint8, .Rn, .plain, [⟨0xf0000, 16⟩]⟩,
      ⟨.uint8, .Rm, .plain, [⟨0xf, 0⟩]⟩] },
  { variant := .uhadd8T1, pattern := ⟨0xfff0f0f0, 0xfa80f060⟩, length := 4,
    arguments := [
      ⟨.uint8, .Rd, .plain, [⟨0xf00, 8⟩]⟩, ⟨.uint8, .Rn, .plain, [⟨0xf0000, 16⟩]⟩,
      ⟨.uint8, .Rm, .plain, [⟨0xf, 0⟩]⟩] },
  { variant := .uhasxT1, pattern := ⟨0xfff0f0f0, 0xfaa0f060⟩, length := 4,
    arguments := [
      ⟨.uint8, .Rd, .plain, [⟨0xf00, 8⟩]⟩, ⟨.uint8, .Rn, .plain, [⟨0xf0000, 16⟩]⟩,
      ⟨.uint8, .Rm, .plain, [⟨0xf, 0⟩]⟩] },
  { variant := .uhsaxT1, pattern := ⟨0xfff0f0f0, 0xfae0f060⟩, length := 4,
    arguments := [
      ⟨.uint8, .Rd, .plain, [⟨0xf00, 8⟩]⟩, ⟨.uint8, .Rn, .plain, [⟨0xf0000, 16⟩]⟩,
      ⟨.uint8, .Rm, .plain, [⟨0xf, 0⟩]⟩] },
  { variant := .uhsub16T1, pattern := ⟨0xfff0f0f0, 0xfad0f060⟩, length := 4,
    arguments := [
      ⟨.uint8, .Rd, .plain, [⟨0xf00, 8⟩]⟩, ⟨.uint8, .Rn, .plain, [⟨0xf0000, 16⟩]⟩,
      ⟨.uint8, .Rm, .plain, [⟨0xf, 0⟩]⟩] },
  { variant := .uhsub8T1, pattern := ⟨0xfff0f0f0, 0xfac0f060⟩, length := 4,
    arguments := [
      ⟨.uint8, .Rd, .plain, [⟨0xf00, 8⟩]⟩, ⟨.uint8, .Rn, .plain, [⟨0xf0000, 16⟩]⟩,
      ⟨.uint8, .Rm, .plain, [⟨0xf, 0⟩]⟩] },
  { variant := .umaalT1, pattern := ⟨0xfff000f0, 0xfbe00060⟩, length := 4,
    arguments := [
      ⟨.uint8, .Rn, .plain, [⟨0xf0000, 16⟩]⟩, ⟨.uint8, .Rm, .plain, [⟨0xf, 0⟩]⟩,
      ⟨.uint8, .RdLo, .plain, [⟨0xf000, 12⟩]⟩, ⟨.uint8, .RdHi, .plain, [⟨0xf00, 8⟩]⟩] },
  { variant := .umlalT1, pattern := ⟨0xfff000f0, 0xfbe00000⟩, length := 4,
    arguments := [
      ⟨.uint8, .Rn, .plain, [⟨0xf0000, 16⟩]⟩, ⟨.uint8, .Rm, .plain, [⟨0xf, 0⟩]⟩,
      ⟨.uint8, .RdLo, .plain, [⟨0xf000, 12⟩]⟩, ⟨.uint8, .RdHi, .plain, [⟨0xf00, 8⟩]⟩] },
  { variant := .umullT1, pattern := ⟨0xfff000f0, 0xfba00000⟩, length := 4,
    arguments := [
      ⟨.uint8, .Rn, .plain, [⟨0xf0000, 16⟩]⟩, ⟨.uint8, .Rm, .plain, [⟨0xf, 0⟩]⟩,
      ⟨.uint8, .RdLo, .plain, [⟨0xf000, 12⟩]⟩, ⟨.uint8, .RdHi, .plain, [⟨0xf00, 8⟩]⟩] },
  { variant := .uqadd16T1, pattern := ⟨0xfff0f0f0, 0xfa90f050⟩, length := 4,
    arguments := [
      ⟨.uint8, .Rd, .plain, [⟨0xf00, 8⟩]⟩, ⟨.uint8, .Rn, .plain, [⟨0xf0000, 16⟩]⟩,
      ⟨.uint8, .Rm, .plain, [⟨0xf, 0⟩]⟩] },
  { variant := .uqadd8T1, pattern := ⟨0xfff0f0f0, 0xfa80f050⟩, length := 4,
    arguments := [
      ⟨.uint8, .Rd, .plain, [⟨0xf00, 8⟩]⟩, ⟨.uint8, .Rn, .plain, [⟨0xf0000, 16⟩]⟩,
      ⟨.uint8, .Rm, .plain, [⟨0xf, 0⟩]⟩] },
  { variant := .uqasxT1, pattern := ⟨0xfff0f0f0, 0xfaa0f050⟩, length := 4,
    arguments := [
      ⟨.uint8, .Rd, .plain, [⟨0xf00, 8⟩]⟩, ⟨.uint8, .Rn, .plain, [⟨0xf0000, 16⟩]⟩,
      ⟨.uint8, .Rm, .plain, [⟨0xf, 0⟩]⟩] },
  { variant := .uqsaxT1, pattern := ⟨0xfff0f0f0, 0xfae0f050⟩, length := 4,
    arguments := [
      ⟨.uint8, .Rd, .plain, [⟨0xf00, 8⟩]⟩, ⟨.uint8, .Rn, .plain, [⟨0xf0000, 16⟩]⟩,
      ⟨.uint8, .Rm, .plain, [⟨0xf, 0⟩]⟩] },
  { variant := .uqsub16T1, pattern := ⟨0xfff0f0f0, 0xfad0f050⟩, length := 4,
    arguments := [
      ⟨.uint8, .Rd, .plain, [⟨0xf00, 8⟩]⟩, ⟨.uint8, .Rn, .plain, [⟨0xf0000, 16⟩]⟩,
      ⟨.uint8, .Rm, .plain, [⟨0xf, 0⟩]⟩] },
  { variant := .uqsub8T1, pattern := ⟨0xfff0f0f0, 0xfac0f050⟩, length := 4,
    arguments := [
      ⟨.uint8, .Rd, .plain, [⟨0xf00, 8⟩]⟩, ⟨.uint8, .Rn, .plain, [⟨0xf0000, 16⟩]⟩,
      ⟨.uint8, .Rm, .plain, [⟨0xf, 0⟩]⟩] },
  { variant := .usaxT1, pattern := ⟨0xfff0f0f0, 0xfae0f040⟩, length := 4,
    arguments := [
      ⟨.uint8, .Rd, .plain, [⟨0xf00, 8⟩]⟩, ⟨.uint8, .Rn, .plain, [⟨0xf0000, 16⟩]⟩,
      ⟨.uint8, .Rm, .plain, [⟨0xf, 0⟩]⟩] },
  { variant := .usub16T1, pattern := ⟨0xfff0f0f0, 0xfad0f040⟩, length := 4,
    arguments := [
      ⟨.uint8, .Rd, .plain, [⟨0xf00, 8⟩]⟩, ⟨.uint8, .Rn, .plain, [⟨0xf0000, 16⟩]⟩,
      ⟨.uint8, .Rm, .plain, [⟨0xf, 0⟩]⟩] },
  { variant := .usub8T1, pattern := ⟨0xfff0f0f0, 0xfac0f040⟩, length := 4,
    arguments := [
      ⟨.uint8, .Rd, .plain, [⟨0xf00, 8⟩]⟩, ⟨.uint8, .Rn, .plain, [⟨0xf0000, 16⟩]⟩,
      ⟨.uint8, .Rm, .plain, [⟨0xf, 0⟩]⟩] },
  { variant := .uxtbT1, pattern := ⟨0xffc00000, 0xb2c00000⟩, length := 2,
    arguments := [⟨.uint8, .Rd, .plain, [⟨0x70000, 16⟩]⟩, ⟨.uint8, .Rm, .plain, [⟨0x380000, 19⟩]⟩] },
  { variant := .uxthT1, pattern := ⟨0xffc00000, 0xb2800000⟩, length := 2,
    arguments := [⟨.uint8, .Rd, .plain, [⟨0x70000, 16⟩]⟩, ⟨.uint8, .Rm, .plain, [⟨0x380000, 19⟩]⟩] }
]
