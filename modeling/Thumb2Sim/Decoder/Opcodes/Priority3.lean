import Thumb2Sim.Decoder.Basic

-- The branches of `decode_insn` for the opcodes of priority 3 and more, in their order.
def opcodesPriority3 : List Opcode := [
  { variant := .addImmT3, pattern := ⟨0xfbe08000, 0xf1000000⟩, length := 4,
    arguments := [
      ⟨.uint8, .Rd, .plain, [⟨0xf00, 8⟩]⟩, ⟨.uint8, .Rn, .plain, [⟨0xf0000, 16⟩]⟩,
      ⟨.int32, .imm, .thumbExpandImm, [⟨0x4000000, 15⟩, ⟨0x7000, 4⟩, ⟨0xff, 0⟩]⟩,
      ⟨.bool, .S, .plain, [⟨0x100000, 20⟩]⟩] },
  { variant := .addRegT2, pattern := ⟨0xff000000, 0x44000000⟩, length := 2,
    arguments := [
      ⟨.uint8, .Rdn, .plain, [⟨0x800000, 20⟩, ⟨0x70000, 16⟩]⟩,
      ⟨.uint8, .Rm, .plain, [⟨0x780000, 19⟩]⟩] },
  { variant := .addRegT3, pattern := ⟨0xffe08000, 0xeb000000⟩, length := 4,
    arguments := [
      ⟨.uint8, .Rd, .plain, [⟨0xf00, 8⟩]⟩, ⟨.uint8, .Rn, .plain, [⟨0xf0000, 16⟩]⟩,
      ⟨.uint8, .Rm, .plain, [⟨0xf, 0⟩]⟩, ⟨.uint8, .imm, .plain, [⟨0x7000, 10⟩, ⟨0xc0, 6⟩]⟩,
      ⟨.uint8, .type, .plain, [⟨0x30, 4⟩]⟩, ⟨.bool, .S, .plain, [⟨0x100000, 20⟩]⟩] },
  { variant := .ldc2ImmT2, pattern := ⟨0xfe100000, 0xfc100000⟩, length := 4,
    arguments := [
      ⟨.uint8, .Rn, .plain, [⟨0xf0000, 16⟩]⟩, ⟨.uint8, .imm, .plain, [⟨0xff, 0⟩]⟩,
      ⟨.uint8, .coproc, .plain, [⟨0xf00, 8⟩]⟩, ⟨.uint8, .CRd, .plain, [⟨0xf000, 12⟩]⟩,
      ⟨.bool, .D, .plain, [⟨0x400000, 22⟩]⟩, ⟨.bool, .P, .plain, [⟨0x1000000, 24⟩]⟩,
      ⟨.bool, .U, .plain, [⟨0x800000, 23⟩]⟩, ⟨.bool, .W, .plain, [⟨0x200000, 21⟩]⟩] },
  { variant := .ldrRegT2, pattern := ⟨0xfff00fc0, 0xf8500000⟩, length := 4,
    arguments := [
      ⟨.uint8, .Rt, .plain, [⟨0xf000, 12⟩]⟩, ⟨.uint8, .Rn, .plain, [⟨0xf0000, 16⟩]⟩,
      ⟨.uint8, .Rm, .plain, [⟨0xf, 0⟩]⟩, ⟨.uint8, .imm, .plain, [⟨0x30, 4⟩]⟩] },
  { variant := .ldrhLitT1, pattern := ⟨0xff7f0000, 0xf83f0000⟩, length := 4,
    arguments := [
      ⟨.uint8, .Rt, .plain, [⟨0xf000, 12⟩]⟩, ⟨.uint16, .imm, .plain, [⟨0xfff, 0⟩]⟩,
      ⟨.bool, .U, .plain, [⟨0x800000, 23⟩]⟩] },
  { variant := .ldrshLitT1, pattern := ⟨0xff7f0000, 0xf93f0000⟩, length := 4,
    arguments := [
      ⟨.uint8, .Rt, .plain, [⟨0xf000, 12⟩]⟩, ⟨.uint16, .imm, .plain, [⟨0xfff, 0⟩]⟩,
      ⟨.bool, .U, .plain, [⟨0x800000, 23⟩]⟩] },
  { variant := .orrRegT2, pattern := ⟨0xffe08000, 0xea400000⟩, length := 4,
    arguments := [
      ⟨.uint8, .Rd, .plain, [⟨0xf00, 8⟩]⟩, ⟨.uint8, .Rn, .plain, [⟨0xf0000, 16⟩]⟩,
      ⟨.uint8, .Rm, .plain, [⟨0xf, 0⟩]⟩, ⟨.uint8, .imm, .plain, [⟨0x7000, 10⟩, ⟨0xc0, 6⟩]⟩,
      ⟨.uint8, .type, .plain, [⟨0x30, 4⟩]⟩, ⟨.bool, .S, .plain, [⟨0x100000, 20⟩]⟩] },
  { variant := .pldImmT2, pattern := ⟨0xfff0ff00, 0xf810fc00⟩, length := 4,
    arguments := [⟨.uint8, .Rn, .plain, [⟨0xf0000, 16⟩]⟩, ⟨.uint8, .imm, .plain, [⟨0xff, 0⟩]⟩] },
  { variant := .pldImmlitT2, pattern := ⟨0xfff0ff00, 0xf910fc00⟩, length := 4,
    arguments := [⟨.uint8, .Rn, .plain, [⟨0xf0000, 16⟩]⟩, ⟨.uint8, .imm, .plain, [⟨0xff, 0⟩]⟩] },
  { variant := .sevT2, pattern := ⟨0xfff0d7ff, 0xf3a08004⟩, length := 4, arguments := [] },
  { variant := .strImmT4, pattern := ⟨0xfff00800, 0xf8400800⟩, length := 4,
    arguments := [
      ⟨.uint8, .Rt, .plain, [⟨0xf000, 12⟩]⟩, ⟨.uint8, .Rn, .plain, [⟨0xf0000, 16⟩]⟩,
      ⟨.uint8, .imm, .plain, [⟨0xff, 0⟩]⟩, ⟨.bool, .P, .plain, [⟨0x400, 10⟩]⟩,
      ⟨.bool, .U, .plain, [⟨0x200, 9⟩]⟩, ⟨.bool, .W, .plain, [⟨0x100, 8⟩]⟩] },
  { variant := .strdImmT1, pattern := ⟨0xfe500000, 0xe8400000⟩, length := 4,
    arguments := [
      ⟨.uint8, .Rt, .plain, [⟨0xf000, 12⟩]⟩, ⟨.uint8, .Rn, .plain, [⟨0xf0000, 16⟩]⟩,
      ⟨.uint8, .Rtx, .plain, [⟨0xf00, 8⟩]⟩, ⟨.uint8, .imm, .plain, [⟨0xff, 0⟩]⟩,
      ⟨.bool, .P, .plain, [⟨0x1000000, 24⟩]⟩, ⟨.bool, .U, .plain, [⟨0x800000, 23⟩]⟩,
      ⟨.bool, .W, .plain, [⟨0x200000, 21⟩]⟩] },
  { variant := .subRegT2, pattern := ⟨0xffe08000, 0xeba00000⟩, length := 4,
    arguments := [
      ⟨.uint8, .Rd, .plain, [⟨0xf00, 8⟩]⟩, ⟨.uint8, .Rn, .plain, [⟨0xf0000, 16⟩]⟩,
      ⟨.uint8, .Rm, .plain, [⟨0xf, 0⟩]⟩, ⟨.uint8, .imm, .plain, [⟨0x7000, 10⟩, ⟨0xc0, 6⟩]⟩,
      ⟨.uint8, .type, .plain, [⟨0x30, 4⟩]⟩, ⟨.bool, .S, .plain, [⟨0x100000, 20⟩]⟩] },
  { variant := .tbbT1, pattern := ⟨0xfff000e0, 0xe8d00000⟩, length := 4,
    arguments := [
      ⟨.uint8, .Rn, .plain, [⟨0xf0000, 16⟩]⟩, ⟨.uint8, .Rm, .plain, [⟨0xf, 0⟩]⟩,
      ⟨.bool, .H, .plain, [⟨0x10, 4⟩]⟩] },
  { variant := .vcvtbT1, pattern := ⟨0xffbe0e50, 0xeeb20a40⟩, length := 4,
    arguments := [
      ⟨.uint8, .Vd, .plain, [⟨0xf000, 12⟩]⟩, ⟨.uint8, .Vm, .plain, [⟨0xf, 0⟩]⟩,
      ⟨.bool, .op, .plain, [⟨0x10000, 16⟩]⟩, ⟨.bool, .D, .plain, [⟨0x400000, 22⟩]⟩,
      ⟨.bool, .M, .plain, [⟨0x20, 5⟩]⟩, ⟨.bool, .T, .plain, [⟨0x80, 7⟩]⟩,
      ⟨.bool, .sz, .plain, [⟨0x100, 8⟩]⟩] },
  { variant := .vldrT1, pattern := ⟨0xff300f00, 0xed100b00⟩, length := 4,
    arguments := [
      ⟨.uint8, .Rn, .plain, [⟨0xf0000, 16⟩]⟩, ⟨.uint8, .Vd, .plain, [⟨0xf000, 12⟩]⟩,
      ⟨.uint8, .imm, .plain, [⟨0xff, 0⟩]⟩, ⟨.bool, .D, .plain, [⟨0x400000, 22⟩]⟩,
      ⟨.bool, .U, .plain, [⟨0x800000, 23⟩]⟩] },
  { variant := .vldrT2, pattern := ⟨0xff300f00, 0xed100a00⟩, length := 4,
    arguments := [
      ⟨.uint8, .Rn, .plain, [⟨0xf0000, 16⟩]⟩, ⟨.uint8, .Vd, .plain, [⟨0xf000, 12⟩]⟩,
      ⟨.uint8, .imm, .plain, [⟨0xff, 0⟩]⟩, ⟨.bool, .D, .plain, [⟨0x400000, 22⟩]⟩,
      ⟨.bool, .U, .plain, [⟨0x800000, 23⟩]⟩] },
  { variant := .vmaxnmT1, pattern := ⟨0xffb00e10, 0xfe800a00⟩, length := 4,
    arguments := [
      ⟨.uint8, .Vd, .plain, [⟨0xf000, 12⟩]⟩, ⟨.uint8, .Vn, .plain, [⟨0xf0000, 16⟩]⟩,
      ⟨.uint8, .Vm, .plain, [⟨0xf, 0⟩]⟩, ⟨.bool, .op, .plain, [⟨0x40, 6⟩]⟩,
      ⟨.bool, .D, .plain, [⟨0x400000, 22⟩]⟩, ⟨.bool, .N, .plain, [⟨0x80, 7⟩]⟩,
      ⟨.bool, .M, .plain, [⟨0x20, 5⟩]⟩, ⟨.bool, .sz, .plain, [⟨0x100, 8⟩]⟩] },
  { variant := .vmovArmspT1, pattern := ⟨0xffe00f10, 0xee000a10⟩, length := 4,
    arguments := [
      ⟨.uint8, .Rt, .plain, [⟨0xf000, 12⟩]⟩, ⟨.uint8, .Vn, .plain, [⟨0xf0000, 16⟩]⟩,
      ⟨.bool, .op, .plain, [⟨0x100000, 20⟩]⟩, ⟨.bool, .N, .plain, [⟨0x80, 7⟩]⟩] },
  { variant := .vstrT1, pattern := ⟨0xff300f00, 0xed000b00⟩, length := 4,
    arguments := [
      ⟨.uint8, .Rn, .plain, [⟨0xf0000, 16⟩]⟩, ⟨.uint8, .Vd, .plain, [⟨0xf000, 12⟩]⟩,
      ⟨.uint8, .imm, .plain, [⟨0xff, 0⟩]⟩, ⟨.bool, .D, .plain, [⟨0x400000, 22⟩]⟩,
      ⟨.bool, .U, .plain, [⟨0x800000, 23⟩]⟩] },
  { variant := .vstrT2, pattern := ⟨0xff300f00, 0xed000a00⟩, length := 4,
    arguments := [
      ⟨.uint8, .Rn, .plain, [⟨0xf0000, 16⟩]⟩, ⟨.uint8, .Vd, .plain, [⟨0xf000, 12⟩]⟩,
      ⟨.uint8, .imm, .plain, [⟨0xff, 0⟩]⟩, ⟨.bool, .D, .plain, [⟨0x400000, 22⟩]⟩,
      ⟨.bool, .U, .plain, [⟨0x800000, 23⟩]⟩] },
  { variant := .wfeT2, pattern := ⟨0xfff0d7ff, 0xf3a08002⟩, length := 4, arguments := [] },
  { variant := .wfiT2, pattern := ⟨0xfff0d7ff, 0xf3a08003⟩, length := 4, arguments := [] },
  { variant := .yieldT2, pattern := ⟨0xfff0d7ff, 0xf3a08001⟩, length := 4, arguments := [] },
  { variant := .dbgT1, pattern := ⟨0xfff0d7f0, 0xf3a080f0⟩, length := 4,
    arguments := [⟨.uint8, .option, .plain, [⟨0xf, 0⟩]⟩] },
  { variant := .ldrdLitT1, pattern := ⟨0xfe5f0000, 0xe85f0000⟩, length := 4,
    arguments := [
      ⟨.uint8, .Rt, .plain, [⟨0xf000, 12⟩]⟩, ⟨.uint8, .Rtx, .plain, [⟨0xf00, 8⟩]⟩,
      ⟨.uint8, .imm, .plain, [⟨0xff, 0⟩]⟩, ⟨.bool, .P, .plain, [⟨0x1000000, 24⟩]⟩,
      ⟨.bool, .U, .plain, [⟨0x800000, 23⟩]⟩, ⟨.bool, .W, .plain, [⟨0x200000, 21⟩]⟩] },
  { variant := .ldrhImmT3, pattern := ⟨0xfff00800, 0xf8300800⟩, length := 4,
    arguments := [
      ⟨.uint8, .Rt, .plain, [⟨0xf000, 12⟩]⟩, ⟨.uint8, .Rn, .plain, [⟨0xf0000, 16⟩]⟩,
      ⟨.uint8, .imm, .plain, [⟨0xff, 0⟩]⟩, ⟨.bool, .P, .plain, [⟨0x400, 10⟩]⟩,
      ⟨.bool, .U, .plain, [⟨0x200, 9⟩]⟩, ⟨.bool, .W, .plain, [⟨0x100, 8⟩]⟩] },
  { variant := .ldrshImmT1, pattern := ⟨0xfff00000, 0xf9b00000⟩, length := 4,
    arguments := [
      ⟨.uint8, .Rt, .plain, [⟨0xf000, 12⟩]⟩, ⟨.uint8, .Rn, .plain, [⟨0xf0000, 16⟩]⟩,
      ⟨.uint16, .imm, .plain, [⟨0xfff, 0⟩]⟩] },
  { variant := .ldrtT1, pattern := ⟨0xfff00f00, 0xf8500e00⟩, length := 4,
    arguments := [
      ⟨.uint8, .Rt, .plain, [⟨0xf000, 12⟩]⟩, ⟨.uint8, .Rn, .plain, [⟨0xf0000, 16⟩]⟩,
      ⟨.uint8, .imm, .plain, [⟨0xff, 0⟩]⟩] },
  { variant := .mcrT1, pattern := ⟨0xff100010, 0xee000010⟩, length := 4,
    arguments := [
      ⟨.uint8, .Rt, .plain, [⟨0xf000, 12⟩]⟩, ⟨.uint8, .coproc, .plain, [⟨0xf00, 8⟩]⟩,
      ⟨.uint8, .CRn, .plain, [⟨0xf0000, 16⟩]⟩, ⟨.uint8, .CRm, .plain, [⟨0xf, 0⟩]⟩,
      ⟨.uint8, .opcA, .plain, [⟨0xe00000, 21⟩]⟩, ⟨.uint8, .opcB, .plain, [⟨0xe0, 5⟩]⟩] },
  { variant := .mrcT1, pattern := ⟨0xff100010, 0xee100010⟩, length := 4,
    arguments := [
      ⟨.uint8, .Rt, .plain, [⟨0xf000, 12⟩]⟩, ⟨.uint8, .coproc, .plain, [⟨0xf00, 8⟩]⟩,
      ⟨.uint8, .Crn, .plain, [⟨0xf0000, 16⟩]⟩, ⟨.uint8, .CRm, .plain, [⟨0xf, 0⟩]⟩,
      ⟨.uint8, .opcA, .plain, [⟨0xe00000, 21⟩]⟩, ⟨.uint8, .opcB, .plain, [⟨0xe0, 5⟩]⟩] },
  { variant := .pldImmT1, pattern := ⟨0xfff0f000, 0xf890f000⟩, length := 4,
    arguments := [⟨.uint8, .Rn, .plain, [⟨0xf0000, 16⟩]⟩, ⟨.uint16, .imm, .plain, [⟨0xfff, 0⟩]⟩] },
  { variant := .pldImmlitT1, pattern := ⟨0xfff0f000, 0xf990f000⟩, length := 4,
    arguments := [⟨.uint8, .Rn, .plain, [⟨0xf0000, 16⟩]⟩, ⟨.uint16, .imm, .plain, [⟨0xfff, 0⟩]⟩] },
  { variant := .vcvtFltfptT1, pattern := ⟨0xffba0e50, 0xeeba0a40⟩, length := 4,
    arguments := [
      ⟨.uint8, .Vd, .plain, [⟨0xf000, 12⟩]⟩, ⟨.uint8, .imm, .plain, [⟨0x20, 5⟩, ⟨0xf, -1⟩]⟩,
      ⟨.bool, .op, .plain, [⟨0x40000, 18⟩]⟩, ⟨.bool, .D, .plain, [⟨0x400000, 22⟩]⟩,
      ⟨.bool, .U, .plain, [⟨0x10000, 16⟩]⟩, ⟨.bool, .sf, .plain, [⟨0x100, 8⟩]⟩,
      ⟨.bool, .sx, .plain, [⟨0x80, 7⟩]⟩] },
  { variant := .vldmT1, pattern := ⟨0xfe100f00, 0xec100b00⟩, length := 4,
    arguments := [
      ⟨.uint8, .Rn, .plain, [⟨0xf0000, 16⟩]⟩, ⟨.uint8, .Vd, .plain, [⟨0xf000, 12⟩]⟩,
      ⟨.uint8, .imm, .plain, [⟨0xff, 0⟩]⟩, ⟨.bool, .D, .plain, [⟨0x400000, 22⟩]⟩,
      ⟨.bool, .P, .plain, [⟨0x1000000, 24⟩]⟩, ⟨.bool, .U, .plain, [⟨0x800000, 23⟩]⟩,
      ⟨.bool, .W, .plain, [⟨0x200000, 21⟩]⟩] },
  { variant := .vldmT2, pattern := ⟨0xfe100f00, 0xec100a00⟩, length := 4,
    arguments := [
      ⟨.uint8, .Rn, .plain, [⟨0xf0000, 16⟩]⟩, ⟨.uint8, .Vd, .plain, [⟨0xf000, 12⟩]⟩,
      ⟨.uint8, .imm, .plain, [⟨0xff, 0⟩]⟩, ⟨.bool, .D, .plain, [⟨0x400000, 22⟩]⟩,
      ⟨.bool, .P, .plain, [⟨0x1000000, 24⟩]⟩, ⟨.bool, .U, .plain, [⟨0x800000, 23⟩]⟩,
      ⟨.bool, .W, .plain, [⟨0x200000, 21⟩]⟩] },
  { variant := .vselT1, pattern := ⟨0xff800e50, 0xfe000a00⟩, length := 4,
    arguments := [
      ⟨.uint8, .Vd, .plain, [⟨0xf000, 12⟩]⟩, ⟨.uint8, .Vn, .plain, [⟨0xf0000, 16⟩]⟩,
      ⟨.uint8, .Vm, .plain, [⟨0xf, 0⟩]⟩, ⟨.uint8, .cond, .plain, [⟨0x300000, 20⟩]⟩,
      ⟨.bool, .D, .plain, [⟨0x400000, 22⟩]⟩, ⟨.bool, .N, .plain, [⟨0x80, 7⟩]⟩,
      ⟨.bool, .M, .plain, [⟨0x20, 5⟩]⟩, ⟨.bool, .sz, .plain, [⟨0x100, 8⟩]⟩] },
  { variant := .vstmT1, pattern := ⟨0xfe100f00, 0xec000b00⟩, length := 4,
    arguments := [
      ⟨.uint8, .Rn, .plain, [⟨0xf0000, 16⟩]⟩, ⟨.uint8, .Vd, .plain, [⟨0xf000, 12⟩]⟩,
      ⟨.uint8, .imm, .plain, [⟨0xff, 0⟩]⟩, ⟨.bool, .D, .plain, [⟨0x400000, 22⟩]⟩,
      ⟨.bool, .P, .plain, [⟨0x1000000, 24⟩]⟩, ⟨.bool, .U, .plain, [⟨0x800000, 23⟩]⟩,
      ⟨.bool, .W, .plain, [⟨0x200000, 21⟩]⟩] },
  { variant := .vstmT2, pattern := ⟨0xfe100f00, 0xec000a00⟩, length := 4,
    arguments := [
      ⟨.uint8, .Rn, .plain, [⟨0xf0000, 16⟩]⟩, ⟨.uint8, .Vd, .plain, [⟨0xf000, 12⟩]⟩,
      ⟨.uint8, .imm, .plain, [⟨0xff, 0⟩]⟩, ⟨.bool, .D, .plain, [⟨0x400000, 22⟩]⟩,
      ⟨.bool, .P, .plain, [⟨0x1000000, 24⟩]⟩, ⟨.bool, .U, .plain, [⟨0x800000, 23⟩]⟩,
      ⟨.bool, .W, .plain, [⟨0x200000, 21⟩]⟩] },
  { variant := .cdp2T2, pattern := ⟨0xff000010, 0xfe000000⟩, length := 4,
    arguments := [
      ⟨.uint8, .coproc, .plain, [⟨0xf00, 8⟩]⟩, ⟨.uint8, .CRd, .plain, [⟨0xf000, 12⟩]⟩,
      ⟨.uint8, .CRn, .plain, [⟨0xf0000, 16⟩]⟩, ⟨.uint8, .CRm, .plain, [⟨0xf, 0⟩]⟩,
      ⟨.uint8, .opcA, .plain, [⟨0xf00000, 20⟩]⟩, ⟨.uint8, .opcB, .plain, [⟨0xe0, 5⟩]⟩] },
  { variant := .clrexT1, pattern := ⟨0xfff0d0f0, 0xf3b08020⟩, length := 4, arguments := [] },
  { variant := .dmbT1, pattern := ⟨0xfff0d0f0, 0xf3b08050⟩, length := 4,
    arguments := [⟨.uint8, .option, .plain, [⟨0xf, 0⟩]⟩] },
  { variant := .dsbT1, pattern := ⟨0xfff0d0f0, 0xf3b08040⟩, length := 4,
    arguments := [⟨.uint8, .option, .plain, [⟨0xf, 0⟩]⟩] },
  { variant := .isbT1, pattern := ⟨0xfff0d0f0, 0xf3b08060⟩, length := 4,
    arguments := [⟨.uint8, .option, .plain, [⟨0xf, 0⟩]⟩] },
  { variant := .ldcLitT1, pattern := ⟨0xfe1f0000, 0xec1f0000⟩, length := 4,
    arguments := [
      ⟨.uint8, .imm, .plain, [⟨0xff, 0⟩]⟩, ⟨.uint8, .coproc, .plain, [⟨0xf00, 8⟩]⟩,
      ⟨.uint8, .CRd, .plain, [⟨0xf000, 12⟩]⟩, ⟨.bool, .D, .plain, [⟨0x400000, 22⟩]⟩,
      ⟨.bool, .P, .plain, [⟨0x1000000, 24⟩]⟩, ⟨.bool, .U, .plain, [⟨0x800000, 23⟩]⟩,
      ⟨.bool, .W, .plain, [⟨0x200000, 21⟩]⟩] },
  { variant := .ldrImmT4, pattern := ⟨0xfff00800, 0xf8500800⟩, length := 4,
    arguments := [
      ⟨.uint8, .Rt, .plain, [⟨0xf000, 12⟩]⟩, ⟨.uint8, .Rn, .plain, [⟨0xf0000, 16⟩]⟩,
      ⟨.uint8, .imm, .plain, [⟨0xff, 0⟩]⟩, ⟨.bool, .P, .plain, [⟨0x400, 10⟩]⟩,
      ⟨.bool, .U, .plain, [⟨0x200, 9⟩]⟩, ⟨.bool, .W, .plain, [⟨0x100, 8⟩]⟩] },
  { variant := .ldrbRegT2, pattern := ⟨0xfff00fc0, 0xf8100000⟩, length := 4,
    arguments := [
      ⟨.uint8, .Rt, .plain, [⟨0xf000, 12⟩]⟩, ⟨.uint8, .Rn, .plain, [⟨0xf0000, 16⟩]⟩,
      ⟨.uint8, .Rm, .plain, [⟨0xf, 0⟩]⟩, ⟨.uint8, .imm, .plain, [⟨0x30, 4⟩]⟩] },
  { variant := .ldrdImmT1, pattern := ⟨0xfe500000, 0xe8500000⟩, length := 4,
    arguments := [
      ⟨.uint8, .Rt, .plain, [⟨0xf000, 12⟩]⟩, ⟨.uint8, .Rn, .plain, [⟨0xf0000, 16⟩]⟩,
      ⟨.uint8, .Rtx, .plain, [⟨0xf00, 8⟩]⟩, ⟨.uint8, .imm, .plain, [⟨0xff, 0⟩]⟩,
      ⟨.bool, .P, .plain, [⟨0x1000000, 24⟩]⟩, ⟨.bool, .U, .plain, [⟨0x800000, 23⟩]⟩,
      ⟨.bool, .W, .plain, [⟨0x200000, 21⟩]⟩] },
  { variant := .ldrhImmT2, pattern := ⟨0xfff00000, 0xf8b00000⟩, length := 4,
    arguments := [
      ⟨.uint8, .Rt, .plain, [⟨0xf000, 12⟩]⟩, ⟨.uint8, .Rn, .plain, [⟨0xf0000, 16⟩]⟩,
      ⟨.uint16, .imm, .plain, [⟨0xfff, 0⟩]⟩] },
  { variant := .ldrsbRegT2, pattern := ⟨0xfff00fc0, 0xf9100000⟩, length := 4,
    arguments := [
      ⟨.uint8, .Rt, .plain, [⟨0xf000, 12⟩]⟩, ⟨.uint8, .Rn, .plain, [⟨0xf0000, 16⟩]⟩,
      ⟨.uint8, .Rm, .plain, [⟨0xf, 0⟩]⟩, ⟨.uint8, .imm, .plain, [⟨0x30, 4⟩]⟩] },
  { variant := .vaddT1, pattern := ⟨0xffb00e50, 0xee300a00⟩, length := 4,
    arguments := [
      ⟨.uint8, .Vd, .plain, [⟨0xf000, 12⟩]⟩, ⟨.uint8, .Vn, .plain, [⟨0xf0000, 16⟩]⟩,
      ⟨.uint8, .Vm, .plain, [⟨0xf, 0⟩]⟩, ⟨.bool, .D, .plain, [⟨0x400000, 22⟩]⟩,
      ⟨.bool, .N, .plain, [⟨0x80, 7⟩]⟩, ⟨.bool, .M, .plain, [⟨0x20, 5⟩]⟩,
      ⟨.bool, .sz, .plain, [⟨0x100, 8⟩]⟩] },
  { variant := .vdivT1, pattern := ⟨0xffb00e50, 0xee800a00⟩, length := 4,
    arguments := [
      ⟨.uint8, .Vd, .plain, [⟨0xf000, 12⟩]⟩, ⟨.uint8, .Vn, .plain, [⟨0xf0000, 16⟩]⟩,
      ⟨.uint8, .Vm, .plain, [⟨0xf, 0⟩]⟩, ⟨.bool, .D, .plain, [⟨0x400000, 22⟩]⟩,
      ⟨.bool, .N, .plain, [⟨0x80, 7⟩]⟩, ⟨.bool, .M, .plain, [⟨0x20, 5⟩]⟩,
      ⟨.bool, .sz, .plain, [⟨0x100, 8⟩]⟩] },
  { variant := .vmovImmT1, pattern := ⟨0xffb00e50, 0xeeb00a00⟩, length := 4,
    arguments := [
      ⟨.uint8, .Vd, .plain, [⟨0xf000, 12⟩]⟩, ⟨.uint8, .imm, .plain, [⟨0xf0000, 12⟩, ⟨0xf, 0⟩]⟩,
      ⟨.bool, .D, .plain, [⟨0x400000, 22⟩]⟩, ⟨.bool, .sz, .plain, [⟨0x100, 8⟩]⟩] },
  { variant := .vmulT1, pattern := ⟨0xffb00e50, 0xee200a00⟩, length := 4,
    arguments := [
      ⟨.uint8, .Vd, .plain, [⟨0xf000, 12⟩]⟩, ⟨.uint8, .Vn, .plain, [⟨0xf0000, 16⟩]⟩,
      ⟨.uint8, .Vm, .plain, [⟨0xf, 0⟩]⟩, ⟨.bool, .D, .plain, [⟨0x400000, 22⟩]⟩,
      ⟨.bool, .N, .plain, [⟨0x80, 7⟩]⟩, ⟨.bool, .M, .plain, [⟨0x20, 5⟩]⟩,
      ⟨.bool, .sz, .plain, [⟨0x100, 8⟩]⟩] },
  { variant := .vnmlaT2, pattern := ⟨0xffb00e50, 0xee200a40⟩, length := 4,
    arguments := [
      ⟨.uint8, .Vd, .plain, [⟨0xf000, 12⟩]⟩, ⟨.uint8, .Vn, .plain, [⟨0xf0000, 16⟩]⟩,
      ⟨.uint8, .Vm, .plain, [⟨0xf, 0⟩]⟩, ⟨.bool, .D, .plain, [⟨0x400000, 22⟩]⟩,
      ⟨.bool, .N, .plain, [⟨0x80, 7⟩]⟩, ⟨.bool, .M, .plain, [⟨0x20, 5⟩]⟩,
      ⟨.bool, .sz, .plain, [⟨0x100, 8⟩]⟩] },
  { variant := .vsubT1, pattern := ⟨0xffb00e50, 0xee300a40⟩, length := 4,
    arguments := [
      ⟨.uint8, .Vd, .plain, [⟨0xf000, 12⟩]⟩, ⟨.uint8, .Vn, .plain, [⟨0xf0000, 16⟩]⟩,
      ⟨.uint8, .Vm, .plain, [⟨0xf, 0⟩]⟩, ⟨.bool, .D, .plain, [⟨0x400000, 22⟩]⟩,
      ⟨.bool, .N, .plain, [⟨0x80, 7⟩]⟩, ⟨.bool, .M, .plain, [⟨0x20, 5⟩]⟩,
      ⟨.bool, .sz, .plain, [⟨0x100, 8⟩]⟩] },
  { variant := .ldrImmT3, pattern := ⟨0xfff00000, 0xf8d00000⟩, length := 4,
    arguments := [
      ⟨.uint8, .Rt, .plain, [⟨0xf000, 12⟩]⟩, ⟨.uint8, .Rn, .plain, [⟨0xf0000, 16⟩]⟩,
      ⟨.uint16, .imm, .plain, [⟨0xfff, 0⟩]⟩] },
  { variant := .ldrbtT1, pattern := ⟨0xfff00f00, 0xf8100e00⟩, length := 4,
    arguments := [
      ⟨.uint8, .Rt, .plain, [⟨0xf000, 12⟩]⟩, ⟨.uint8, .Rn, .plain, [⟨0xf0000, 16⟩]⟩,
      ⟨.uint8, .imm, .plain, [⟨0xff, 0⟩]⟩] },
  { variant := .ldrsbtT1, pattern := ⟨0xfff00f00, 0xf9100e00⟩, length := 4,
    arguments := [
      ⟨.uint8, .Rt, .plain, [⟨0xf000, 12⟩]⟩, ⟨.uint8, .Rn, .plain, [⟨0xf0000, 16⟩]⟩,
      ⟨.uint8, .imm, .plain, [⟨0xff, 0⟩]⟩] },
  { variant := .mcrrT1, pattern := ⟨0xfff00000, 0xec400000⟩, length := 4,
    arguments := [
      ⟨.uint8, .Rt, .plain, [⟨0xf000, 12⟩]⟩, ⟨.uint8, .coproc, .plain, [⟨0xf00, 8⟩]⟩,
      ⟨.uint8, .CRm, .plain, [⟨0xf, 0⟩]⟩, ⟨.uint8, .opcA, .plain, [⟨0xf0, 4⟩]⟩,
      ⟨.uint8, .RtB, .plain, [⟨0xf0000, 16⟩]⟩] },
  { variant := .mrrcT1, pattern := ⟨0xfff00000, 0xec500000⟩, length := 4,
    arguments := [
      ⟨.uint8, .Rt, .plain, [⟨0xf000, 12⟩]⟩, ⟨.uint8, .coproc, .plain, [⟨0xf00, 8⟩]⟩,
      ⟨.uint8, .CRm, .plain, [⟨0xf, 0⟩]⟩, ⟨.uint8, .opcA, .plain, [⟨0xf0, 4⟩]⟩,
      ⟨.uint8, .RtB, .plain, [⟨0xf0000, 16⟩]⟩] },
  { variant := .mrsT1, pattern := ⟨0xffe0d000, 0xf3e08000⟩, length := 4,
    arguments := [⟨.uint8, .Rd, .plain, [⟨0xf00, 8⟩]⟩, ⟨.uint8, .SYSm, .plain, [⟨0xff, 0⟩]⟩] },
  { variant := .msrT1, pattern := ⟨0xffe0d000, 0xf3808000⟩, length := 4,
    arguments := [
      ⟨.uint8, .Rn, .plain, [⟨0xf0000, 16⟩]⟩, ⟨.uint8, .mask, .plain, [⟨0xc00, 10⟩]⟩,
      ⟨.uint8, .SYSm, .plain, [⟨0xff, 0⟩]⟩] },
  { variant := .vfmaT1, pattern := ⟨0xffb00e10, 0xeea00a00⟩, length := 4,
    arguments := [
      ⟨.uint8, .Vd, .plain, [⟨0xf000, 12⟩]⟩, ⟨.uint8, .Vn, .plain, [⟨0xf0000, 16⟩]⟩,
      ⟨.uint8, .Vm, .plain, [⟨0xf, 0⟩]⟩, ⟨.bool, .op, .plain, [⟨0x40, 6⟩]⟩,
      ⟨.bool, .D, .plain, [⟨0x400000, 22⟩]⟩, ⟨.bool, .N, .plain, [⟨0x80, 7⟩]⟩,
      ⟨.bool, .M, .plain, [⟨0x20, 5⟩]⟩, ⟨.bool, .sz, .plain, [⟨0x100, 8⟩]⟩] },
  { variant := .vfnmaT1, pattern := ⟨0xffb00e10, 0xee900a00⟩, length := 4,
    arguments := [
      ⟨.uint8, .Vd, .plain, [⟨0xf000, 12⟩]⟩, ⟨.uint8, .Vn, .plain, [⟨0xf0000, 16⟩]⟩,
      ⟨.uint8, .Vm, .plain, [⟨0xf, 0⟩]⟩, ⟨.bool, .op, .plain, [⟨0x40, 6⟩]⟩,
      ⟨.bool, .D, .plain, [⟨0x400000, 22⟩]⟩, ⟨.bool, .N, .plain, [⟨0x80, 7⟩]⟩,
      ⟨.bool, .M, .plain, [⟨0x20, 5⟩]⟩, ⟨.bool, .sz, .plain, [⟨0x100, 8⟩]⟩] },
  { variant := .vmlaT1, pattern := ⟨0xffb00e10, 0xee000a00⟩, length := 4,
    arguments := [
      ⟨.uint8, .Vd, .plain, [⟨0xf000, 12⟩]⟩, ⟨.uint8, .Vn, .plain, [⟨0xf0000, 16⟩]⟩,
      ⟨.uint8, .Vm, .plain, [⟨0xf, 0⟩]⟩, ⟨.bool, .op, .plain, [⟨0x40, 6⟩]⟩,
      ⟨.bool, .D, .plain, [⟨0x400000, 22⟩]⟩, ⟨.bool, .N, .plain, [⟨0x80, 7⟩]⟩,
      ⟨.bool, .M, .plain, [⟨0x20, 5⟩]⟩, ⟨.bool, .sz, .plain, [⟨0x100, 8⟩]⟩] },
  { variant := .vnmlaT1, pattern := ⟨0xffb00e10, 0xee100a00⟩, length := 4,
    arguments := [
      ⟨.uint8, .Vd, .plain, [⟨0xf000, 12⟩]⟩, ⟨.uint8, .Vn, .plain, [⟨0xf0000, 16⟩]⟩,
      ⟨.uint8, .Vm, .plain, [⟨0xf, 0⟩]⟩, ⟨.bool, .op, .plain, [⟨0x40, 6⟩]⟩,
      ⟨.bool, .D, .plain, [⟨0x400000, 22⟩]⟩, ⟨.bool, .N, .plain, [⟨0x80, 7⟩]⟩,
      ⟨.bool, .M, .plain, [⟨0x20, 5⟩]⟩, ⟨.bool, .sz, .plain, [⟨0x100, 8⟩]⟩] },
  { variant := .cdpT1, pattern := ⟨0xff000010, 0xee000000⟩, length := 4,
    arguments := [
      ⟨.uint8, .coproc, .plain, [⟨0xf00, 8⟩]⟩, ⟨.uint8, .CRd, .plain, [⟨0xf000, 12⟩]⟩,
      ⟨.uint8, .CRn, .plain, [⟨0xf0000, 16⟩]⟩, ⟨.uint8, .CRm, .plain, [⟨0xf, 0⟩]⟩,
      ⟨.uint8, .opcA, .plain, [⟨0xf00000, 20⟩]⟩, ⟨.uint8, .opcB, .plain, [⟨0xe0, 5⟩]⟩] },
  { variant := .ldcImmT1, pattern := ⟨0xfe100000, 0xec100000⟩, length := 4,
    arguments := [
      ⟨.uint8, .Rn, .plain, [⟨0xf0000, 16⟩]⟩, ⟨.uint8, .imm, .plain, [⟨0xff, 0⟩]⟩,
      ⟨.uint8, .coproc, .plain, [⟨0xf00, 8⟩]⟩, ⟨.uint8, .CRd, .plain, [⟨0xf000, 12⟩]⟩,
      ⟨.bool, .D, .plain, [⟨0x400000, 22⟩]⟩, ⟨.bool, .P, .plain, [⟨0x1000000, 24⟩]⟩,
      ⟨.bool, .U, .plain, [⟨0x800000, 23⟩]⟩, ⟨.bool, .W, .plain, [⟨0x200000, 21⟩]⟩] },
  { variant := .ldrbImmT3, pattern := ⟨0xfff00800, 0xf8100800⟩, length := 4,
    arguments := [
      ⟨.uint8, .Rt, .plain, [⟨0xf000, 12⟩]⟩, ⟨.uint8, .Rn, .plain, [⟨0xf0000, 16⟩]⟩,
      ⟨.uint8, .imm, .plain, [⟨0xff, 0⟩]⟩, ⟨.bool, .P, .plain, [⟨0x400, 10⟩]⟩,
      ⟨.bool, .U, .plain, [⟨0x200, 9⟩]⟩, ⟨.bool, .W, .plain, [⟨0x100, 8⟩]⟩] },
  { variant := .ldrsbImmT2, pattern := ⟨0xfff00800, 0xf9100800⟩, length := 4,
    arguments := [
      ⟨.uint8, .Rt, .plain, [⟨0xf000, 12⟩]⟩, ⟨.uint8, .Rn, .plain, [⟨0xf0000, 16⟩]⟩,
      ⟨.uint8, .imm, .plain, [⟨0xff, 0⟩]⟩, ⟨.bool, .P, .plain, [⟨0x400, 10⟩]⟩,
      ⟨.bool, .U, .plain, [⟨0x200, 9⟩]⟩, ⟨.bool, .W, .plain, [⟨0x100, 8⟩]⟩] },
  { variant := .stcT1, pattern := ⟨0xfe100000, 0xec000000⟩, length := 4,
    arguments := [
      ⟨.uint8, .Rn, .plain, [⟨0xf0000, 16⟩]⟩, ⟨.uint8, .imm, .plain, [⟨0xff, 0⟩]⟩,
      ⟨.uint8, .coproc, .plain, [⟨0xf00, 8⟩]⟩, ⟨.uint8, .CRd, .plain, [⟨0xf000, 12⟩]⟩,
      ⟨.bool, .P, .plain, [⟨0x1000000, 24⟩]⟩, ⟨.bool, .N, .plain, [⟨0x400000, 22⟩]⟩,
      ⟨.bool, .U, .plain, [⟨0x800000, 23⟩]⟩, ⟨.bool, .W, .plain, [⟨0x200000, 21⟩]⟩] },
  { variant := .subSPimmT2, pattern := ⟨0xfbef8000, 0xf1ad0000⟩, length := 4,
    arguments := [
      ⟨.uint8, .Rd, .plain, [⟨0xf00, 8⟩]⟩,
      ⟨.uint16, .imm, .plain, [⟨0x4000000, 15⟩, ⟨0x7000, 4⟩, ⟨0xff, 0⟩]⟩,
      ⟨.bool, .S, .plain, [⟨0x100000, 20⟩]⟩] },
  { variant := .cmpImmT2, pattern := ⟨0xfbf00f00, 0xf1b00f00⟩, length := 4,
    arguments := [
      ⟨.uint8, .Rn, .plain, [⟨0xf0000, 16⟩]⟩,
      ⟨.int32, .imm, .thumbExpandImm, [⟨0x4000000, 15⟩, ⟨0x7000, 4⟩, ⟨0xff, 0⟩]⟩] },
  { variant := .ldrbLitT1, pattern := ⟨0xff7f0000, 0xf81f0000⟩, length := 4,
    arguments := [
      ⟨.uint8, .Rt, .plain, [⟨0xf000, 12⟩]⟩, ⟨.uint16, .imm, .plain, [⟨0xfff, 0⟩]⟩,
      ⟨.bool, .U, .plain, [⟨0x800000, 23⟩]⟩] },
  { variant := .ldrsbImmT1, pattern := ⟨0xfff00000, 0xf9900000⟩, length := 4,
    arguments := [
      ⟨.uint8, .Rt, .plain, [⟨0xf000, 12⟩]⟩, ⟨.uint8, .Rn, .plain, [⟨0xf0000, 16⟩]⟩,
      ⟨.uint16, .imm, .plain, [⟨0xfff, 0⟩]⟩] },
  { variant := .ldrbImmT2, pattern := ⟨0xfff00000, 0xf8900000⟩, length := 4,
    arguments := [
      ⟨.uint8, .Rt, .plain, [⟨0xf000, 12⟩]⟩, ⟨.uint8, .Rn, .plain, [⟨0xf0000, 16⟩]⟩,
      ⟨.uint16, .imm, .plain, [⟨0xfff, 0⟩]⟩] },
  { variant := .subImmT3, pattern := ⟨0xfbe08000, 0xf1a00000⟩, length := 4,
    arguments := [
      ⟨.uint8, .Rd, .plain, [⟨0xf00, 8⟩]⟩, ⟨.uint8, .Rn, .plain, [⟨0xf0000, 16⟩]⟩,
      ⟨.int32, .imm, .thumbExpandImm, [⟨0x4000000, 15⟩, ⟨0x7000, 4⟩, ⟨0xff, 0⟩]⟩,
      ⟨.bool, .S, .plain, [⟨0x100000, 20⟩]⟩] },
  { variant := .bT3, pattern := ⟨0xf800d000, 0xf0008000⟩, length := 4,
    arguments := [
      
      ⟨.int32, .imm, .thumbSignExtend20, [⟨0x4000000, 7⟩, ⟨0x3f0000, 5⟩, ⟨0x7ff, 0⟩, ⟨0x2000, -4⟩, ⟨0x800, -7⟩]⟩,
      ⟨.uint8, .cond, .plain, [⟨0x3c00000, 22⟩]⟩] },
  { variant := .bT4, pattern := ⟨0xf800d000, 0xf0009000⟩, length := 4,
    arguments := [
      
      ⟨.int32, .imm, .thumbSignExtend24EOR, [⟨0x3ff0000, 5⟩, ⟨0x4000000, 3⟩, ⟨0x7ff, 0⟩, ⟨0x2000, -9⟩, ⟨0x800, -10⟩]⟩] },
  { variant := .blT1, pattern := ⟨0xf800d000, 0xf000d000⟩, length := 4,
    arguments := [
      
      ⟨.int32, .imm, .thumbSignExtend24EOR, [⟨0x3ff0000, 5⟩, ⟨0x4000000, 3⟩, ⟨0x7ff, 0⟩, ⟨0x2000, -9⟩, ⟨0x800, -10⟩]⟩] }
]
