import Thumb2Sim.Codegen.InsnSet

-- The opcodes of `instructions.xml` that begin with `t` to `y`, in their order.
def instructionsTToY : List OpcodeNode := [
  { name := "tbb", variantName := "tbb_T1", variant := .tbbT1,
    bits := [
      .fixed 0b11101#5, .fixed 0b00#2, .fixed 0b0#1, .fixed 0b1#1, .fixed 0b1#1, .fixed 0b0#1,
      .fixed 0b1#1, .var .Rn 4, .dontcare 0b1111#4, .dontcare 0b0000#4, .fixed 0b000#3,
      .var .H 1, .var .Rm 4],
    priority := 3 },
  { name := "teq", variantName := "teq_imm_T1", variant := .teqImmT1,
    bits := [
      .fixed 0b11110#5, .var .imm 1, .fixed 0b0#1, .fixed 0b0100#4, .fixed 0b1#1, .var .Rn 4,
      .fixed 0b0#1, .var .imm 3, .fixed 0b1111#4, .var .imm 8],
    priority := 1 },
  { name := "teq", variantName := "teq_reg_T1", variant := .teqRegT1,
    bits := [
      .fixed 0b11101#5, .fixed 0b01#2, .fixed 0b0100#4, .fixed 0b1#1, .var .Rn 4,
      .dontcare 0b0#1, .var .imm 3, .fixed 0b1111#4, .var .imm 2, .var .type 2, .var .Rm 4],
    priority := 1 },
  { name := "tst", variantName := "tst_imm_T1", variant := .tstImmT1,
    bits := [
      .fixed 0b11110#5, .var .imm 1, .fixed 0b0#1, .fixed 0b0000#4, .fixed 0b1#1, .var .Rn 4,
      .fixed 0b0#1, .var .imm 3, .fixed 0b1111#4, .var .imm 8],
    extend := [(.imm, "thumb_expand_imm")], priority := 1 },
  { name := "tst", variantName := "tst_reg_T1", variant := .tstRegT1,
    bits := [.fixed 0b010000#6, .fixed 0b1000#4, .var .Rm 3, .var .Rn 3] },
  { name := "tst", variantName := "tst_reg_T2", variant := .tstRegT2,
    bits := [
      .fixed 0b11101#5, .fixed 0b01#2, .fixed 0b0000#4, .fixed 0b1#1, .var .Rn 4, .fixed 0b0#1,
      .var .imm 3, .fixed 0b1111#4, .var .imm 2, .var .type 2, .var .Rm 4],
    priority := 1 },
  { name := "uadd", variantName := "uadd16_T1", variant := .uadd16T1,
    bits := [
      .fixed 0b11111#5, .fixed 0b010#3, .fixed 0b1#1, .fixed 0b001#3, .var .Rn 4,
      .fixed 0b1111#4, .var .Rd 4, .fixed 0b0#1, .fixed 0b100#3, .var .Rm 4] },
  { name := "uadd", variantName := "uadd8_T1", variant := .uadd8T1,
    bits := [
      .fixed 0b11111#5, .fixed 0b010#3, .fixed 0b1#1, .fixed 0b000#3, .var .Rn 4,
      .fixed 0b1111#4, .var .Rd 4, .fixed 0b0#1, .fixed 0b100#3, .var .Rm 4] },
  { name := "uasx", variantName := "uasx_T1", variant := .uasxT1,
    bits := [
      .fixed 0b11111#5, .fixed 0b010#3, .fixed 0b1#1, .fixed 0b010#3, .var .Rn 4,
      .fixed 0b1111#4, .var .Rd 4, .fixed 0b0#1, .fixed 0b100#3, .var .Rm 4] },
  { name := "ubfx", variantName := "ubfx_T1", variant := .ubfxT1,
    bits := [
      .fixed 0b11110#5, .dontcare 0b0#1, .fixed 0b11#2, .fixed 0b110#3, .fixed 0b0#1, .var .Rn 4,
      .fixed 0b0#1, .var .imm 3, .var .Rd 4, .var .imm 2, .dontcare 0b0#1, .var .width 5] },
  { name := "udf", variantName := "udf_T1", variant := .udfT1,
    bits := [.fixed 0b1101#4, .fixed 0b1110#4, .var .imm 8],
    priority := 1 },
  { name := "udf", variantName := "udf_T2", variant := .udfT2,
    bits := [
      .fixed 0b111#3, .fixed 0b10#2, .fixed 0b1111111#7, .var .imm 4, .fixed 0b1#1,
      .fixed 0b010#3, .var .imm 12],
    priority := 2 },
  { name := "udiv", variantName := "udiv_T1", variant := .udivT1,
    bits := [
      .fixed 0b11111#5, .fixed 0b011101#6, .fixed 0b1#1, .var .Rn 4, .dontcare 0b1111#4,
      .var .Rd 4, .fixed 0b1111#4, .var .Rm 4] },
  { name := "uhadd", variantName := "uhadd16_T1", variant := .uhadd16T1,
    bits := [
      .fixed 0b11111#5, .fixed 0b010#3, .fixed 0b1#1, .fixed 0b001#3, .var .Rn 4,
      .fixed 0b1111#4, .var .Rd 4, .fixed 0b0#1, .fixed 0b110#3, .var .Rm 4] },
  { name := "uhadd", variantName := "uhadd8_T1", variant := .uhadd8T1,
    bits := [
      .fixed 0b11111#5, .fixed 0b010#3, .fixed 0b1#1, .fixed 0b000#3, .var .Rn 4,
      .fixed 0b1111#4, .var .Rd 4, .fixed 0b0#1, .fixed 0b110#3, .var .Rm 4] },
  { name := "uhasx", variantName := "uhasx_T1", variant := .uhasxT1,
    bits := [
      .fixed 0b11111#5, .fixed 0b010#3, .fixed 0b1#1, .fixed 0b010#3, .var .Rn 4,
      .fixed 0b1111#4, .var .Rd 4, .fixed 0b0#1, .fixed 0b110#3, .var .Rm 4] },
  { name := "uhsax", variantName := "uhsax_T1", variant := .uhsaxT1,
    bits := [
      .fixed 0b11111#5, .fixed 0b010#3, .fixed 0b1#1, .fixed 0b110#3, .var .Rn 4,
      .fixed 0b1111#4, .var .Rd 4, .fixed 0b0#1, .fixed 0b110#3, .var .Rm 4] },
  { name := "uhsub", variantName := "uhsub16_T1", variant := .uhsub16T1,
    bits := [
      .fixed 0b11111#5, .fixed 0b010#3, .fixed 0b1#1, .fixed 0b101#3, .var .Rn 4,
      .fixed 0b1111#4, .var .Rd 4, .fixed 0b0#1, .fixed 0b110#3, .var .Rm 4] },
  { name := "uhsub", variantName := "uhsub8_T1", variant := .uhsub8T1,
    bits := [
      .fixed 0b11111#5, .fixed 0b010#3, .fixed 0b1#1, .fixed 0b100#3, .var .Rn 4,
      .fixed 0b1111#4, .var .Rd 4, .fixed 0b0#1, .fixed 0b110#3, .var .Rm 4] },
  { name := "umaal", variantName := "umaal_T1", variant := .umaalT1,
    bits := [
      .fixed 0b11111#5, .fixed 0b0111#4, .fixed 0b110#3, .var .Rn 4, .var .RdLo 4, .var .RdHi 4,
      .fixed 0b0110#4, .var .Rm 4] },
  { name := "umlal", variantName := "umlal_T1", variant := .umlalT1,
    bits := [
      .fixed 0b11111#5, .fixed 0b0111#4, .fixed 0b110#3, .var .Rn 4, .var .RdLo 4, .var .RdHi 4,
      .fixed 0b0000#4, .var .Rm 4] },
  { name := "umull", variantName := "umull_T1", variant := .umullT1,
    bits := [
      .fixed 0b11111#5, .fixed 0b0111#4, .fixed 0b010#3, .var .Rn 4, .var .RdLo 4, .var .RdHi 4,
      .fixed 0b0000#4, .var .Rm 4] },
  { name := "uqadd", variantName := "uqadd16_T1", variant := .uqadd16T1,
    bits := [
      .fixed 0b11111#5, .fixed 0b010#3, .fixed 0b1#1, .fixed 0b001#3, .var .Rn 4,
      .fixed 0b1111#4, .var .Rd 4, .fixed 0b0#1, .fixed 0b101#3, .var .Rm 4] },
  { name := "uqadd", variantName := "uqadd8_T1", variant := .uqadd8T1,
    bits := [
      .fixed 0b11111#5, .fixed 0b010#3, .fixed 0b1#1, .fixed 0b000#3, .var .Rn 4,
      .fixed 0b1111#4, .var .Rd 4, .fixed 0b0#1, .fixed 0b101#3, .var .Rm 4] },
  { name := "uqasx", variantName := "uqasx_T1", variant := .uqasxT1,
    bits := [
      .fixed 0b11111#5, .fixed 0b010#3, .fixed 0b1#1, .fixed 0b010#3, .var .Rn 4,
      .fixed 0b1111#4, .var .Rd 4, .fixed 0b0#1, .fixed 0b101#3, .var .Rm 4] },
  { name := "uqsax", variantName := "uqsax_T1", variant := .uqsaxT1,
    bits := [
      .fixed 0b11111#5, .fixed 0b010#3, .fixed 0b1#1, .fixed 0b110#3, .var .Rn 4,
      .fixed 0b1111#4, .var .Rd 4, .fixed 0b0#1, .fixed 0b101#3, .var .Rm 4] },
  { name := "uqsub", variantName := "uqsub16_T1", variant := .uqsub16T1,
    bits := [
      .fixed 0b11111#5, .fixed 0b010#3, .fixed 0b1#1, .fixed 0b101#3, .var .Rn 4,
      .fixed 0b1111#4, .var .Rd 4, .fixed 0b0#1, .fixed 0b101#3, .var .Rm 4] },
  { name := "uqsub", variantName := "uqsub8_T1", variant := .uqsub8T1,
    bits := [
      .fixed 0b11111#5, .fixed 0b010#3, .fixed 0b1#1, .fixed 0b100#3, .var .Rn 4,
      .fixed 0b1111#4, .var .Rd 4, .fixed 0b0#1, .fixed 0b101#3, .var .Rm 4] },
  { name := "usad8", variantName := "usad8_T1", variant := .usad8T1,
    bits := [
      .fixed 0b11111#5, .fixed 0b0110#4, .fixed 0b111#3, .var .Rn 4, .fixed 0b1111#4, .var .Rd 4,
      .fixed 0b0000#4, .var .Rm 4],
    priority := 1 },
  { name := "usada8", variantName := "usada8_T1", variant := .usada8T1,
    bits := [
      .fixed 0b11111#5, .fixed 0b0110#4, .fixed 0b111#3, .var .Rn 4, .var .Ra 4, .var .Rd 4,
      .fixed 0b0000#4, .var .Rm 4],
    priority := 2 },
  { name := "usat", variantName := "usat_T1", variant := .usatT1,
    bits := [
      .fixed 0b11110#5, .dontcare 0b0#1, .fixed 0b11#2, .fixed 0b10#2, .var .shift 1,
      .fixed 0b0#1, .var .Rn 4, .fixed 0b0#1, .var .imm 3, .var .Rd 4, .var .imm 2,
      .dontcare 0b0#1, .var .satimm 5],
    priority := 2 },
  { name := "usat", variantName := "usat16_T1", variant := .usat16T1,
    bits := [
      .fixed 0b11110#5, .dontcare 0b0#1, .fixed 0b11#2, .fixed 0b101#3, .fixed 0b0#1, .var .Rn 4,
      .fixed 0b0#1, .fixed 0b000#3, .var .Rd 4, .fixed 0b00#2, .dontcare 0b00#2, .var .satimm 4],
    priority := 1 },
  { name := "usax", variantName := "usax_T1", variant := .usaxT1,
    bits := [
      .fixed 0b11111#5, .fixed 0b010#3, .fixed 0b1#1, .fixed 0b110#3, .var .Rn 4,
      .fixed 0b1111#4, .var .Rd 4, .fixed 0b0#1, .fixed 0b100#3, .var .Rm 4] },
  { name := "usub", variantName := "usub16_T1", variant := .usub16T1,
    bits := [
      .fixed 0b11111#5, .fixed 0b010#3, .fixed 0b1#1, .fixed 0b101#3, .var .Rn 4,
      .fixed 0b1111#4, .var .Rd 4, .fixed 0b0#1, .fixed 0b100#3, .var .Rm 4] },
  { name := "usub", variantName := "usub8_T1", variant := .usub8T1,
    bits := [
      .fixed 0b11111#5, .fixed 0b010#3, .fixed 0b1#1, .fixed 0b100#3, .var .Rn 4,
      .fixed 0b1111#4, .var .Rd 4, .fixed 0b0#1, .fixed 0b100#3, .var .Rm 4] },
  { name := "uxtab", variantName := "uxtab_T1", variant := .uxtabT1,
    bits := [
      .fixed 0b11111#5, .fixed 0b010#3, .fixed 0b0#1, .fixed 0b101#3, .var .Rn 4,
      .fixed 0b1111#4, .var .Rd 4, .fixed 0b1#1, .dontcare 0b0#1, .var .rotate 2, .var .Rm 4],
    priority := 2 },
  { name := "uxtab", variantName := "uxtab16_T1", variant := .uxtab16T1,
    bits := [
      .fixed 0b11111#5, .fixed 0b010#3, .fixed 0b0#1, .fixed 0b011#3, .var .Rn 4,
      .fixed 0b1111#4, .var .Rd 4, .fixed 0b1#1, .dontcare 0b0#1, .var .rotate 2, .var .Rm 4],
    priority := 2 },
  { name := "uxtah", variantName := "uxtah_T1", variant := .uxtahT1,
    bits := [
      .fixed 0b11111#5, .fixed 0b010#3, .fixed 0b0#1, .fixed 0b001#3, .var .Rn 4,
      .fixed 0b1111#4, .var .Rd 4, .fixed 0b1#1, .dontcare 0b0#1, .var .rotate 2, .var .Rm 4],
    priority := 2 },
  { name := "uxtb", variantName := "uxtb_T1", variant := .uxtbT1,
    bits := [.fixed 0b1011#4, .fixed 0b0010#4, .fixed 0b11#2, .var .Rm 3, .var .Rd 3] },
  { name := "uxtb", variantName := "uxtb_T2", variant := .uxtbT2,
    bits := [
      .fixed 0b11111#5, .fixed 0b010#3, .fixed 0b0#1, .fixed 0b101#3, .fixed 0b1111#4,
      .fixed 0b1111#4, .var .Rd 4, .fixed 0b1#1, .fixed 0b0#1, .var .rotate 2, .var .Rm 4],
    priority := 1 },
  { name := "uxtb", variantName := "uxtb16_T1", variant := .uxtb16T1,
    bits := [
      .fixed 0b11111#5, .fixed 0b010#3, .fixed 0b0#1, .fixed 0b011#3, .fixed 0b1111#4,
      .fixed 0b1111#4, .var .Rd 4, .fixed 0b1#1, .fixed 0b0#1, .var .rotate 2, .var .Rm 4],
    priority := 1 },
  { name := "uxth", variantName := "uxth_T1", variant := .uxthT1,
    bits := [.fixed 0b1011#4, .fixed 0b0010#4, .fixed 0b10#2, .var .Rm 3, .var .Rd 3] },
  { name := "uxth", variantName := "uxth_T2", variant := .uxthT2,
    bits := [
      .fixed 0b11111#5, .fixed 0b010#3, .fixed 0b0#1, .fixed 0b001#3, .fixed 0b1111#4,
      .fixed 0b1111#4, .var .Rd 4, .fixed 0b1#1, .fixed 0b0#1, .var .rotate 2, .var .Rm 4],
    priority := 1 },
  { name := "vabs", variantName := "vabs_T1", variant := .vabsT1,
    bits := [
      .fixed 0b1110#4, .fixed 0b11101#5, .var .D 1, .fixed 0b11#2, .fixed 0b0000#4, .var .Vd 4,
      .fixed 0b101#3, .var .sz 1, .fixed 0b1#1, .fixed 0b1#1, .var .M 1, .fixed 0b0#1, .var .Vm 4],
    priority := 1 },
  { name := "vadd", variantName := "vadd_T1", variant := .vaddT1,
    bits := [
      .fixed 0b1110#4, .fixed 0b11100#5, .var .D 1, .fixed 0b11#2, .var .Vn 4, .var .Vd 4,
      .fixed 0b101#3, .var .sz 1, .var .N 1, .fixed 0b0#1, .var .M 1, .fixed 0b0#1, .var .Vm 4],
    priority := 5 },
  { name := "vcmp", variantName := "vcmp_T1", variant := .vcmpT1,
    bits := [
      .fixed 0b1110#4, .fixed 0b11101#5, .var .D 1, .fixed 0b11#2, .fixed 0b0100#4, .var .Vd 4,
      .fixed 0b101#3, .var .sz 1, .var .E 1, .fixed 0b1#1, .var .M 1, .fixed 0b0#1, .var .Vm 4],
    priority := 2 },
  { name := "vcmp", variantName := "vcmp_T2", variant := .vcmpT2,
    bits := [
      .fixed 0b1110#4, .fixed 0b11101#5, .var .D 1, .fixed 0b11#2, .fixed 0b0101#4, .var .Vd 4,
      .fixed 0b101#3, .var .sz 1, .var .E 1, .fixed 0b1#1, .dontcare 0b0#1, .fixed 0b0#1,
      .dontcare 0b0000#4],
    priority := 2 },
  { name := "vcvta", variantName := "vcvta_T1", variant := .vcvtaT1,
    bits := [
      .fixed 0b1111#4, .fixed 0b11101#5, .var .D 1, .fixed 0b1111#4, .var .RM 2, .var .Vd 4,
      .fixed 0b101#3, .var .sz 1, .var .op 1, .fixed 0b1#1, .var .M 1, .fixed 0b0#1, .var .Vm 4],
    priority := 2 },
  { name := "vcvt", variantName := "vcvt_fltint_T1", variant := .vcvtFltintT1,
    bits := [
      .fixed 0b1111#4, .fixed 0b11101#5, .var .D 1, .fixed 0b1111#4, .var .RM 2, .var .Vd 4,
      .fixed 0b101#3, .var .sz 1, .var .op 1, .fixed 0b1#1, .var .M 1, .fixed 0b0#1, .var .Vm 4],
    priority := 2 },
  { name := "vcvt", variantName := "vcvt_fltfpt_T1", variant := .vcvtFltfptT1,
    bits := [
      .fixed 0b1110#4, .fixed 0b1110#4, .fixed 0b1#1, .var .D 1, .fixed 0b11#2, .fixed 0b1#1,
      .var .op 1, .fixed 0b1#1, .var .U 1, .var .Vd 4, .fixed 0b101#3, .var .sf 1, .var .sx 1,
      .fixed 0b1#1, .varAt .imm 1 0, .fixed 0b0#1, .varAt .imm 4 1],
    priority := 4 },
  { name := "vcvt", variantName := "vcvt_dpsp_T1", variant := .vcvtDpspT1,
    bits := [
      .fixed 0b1110#4, .fixed 0b1110#4, .fixed 0b1#1, .var .D 1, .fixed 0b11#2, .fixed 0b011#3,
      .fixed 0b1#1, .var .Vd 4, .fixed 0b101#3, .var .sz 1, .fixed 0b1#1, .fixed 0b1#1,
      .var .M 1, .fixed 0b0#1, .var .Vm 4],
    priority := 1 },
  { name := "vcvtb", variantName := "vcvtb_T1", variant := .vcvtbT1,
    bits := [
      .fixed 0b1110#4, .fixed 0b11101#5, .var .D 1, .fixed 0b11001#5, .var .op 1, .var .Vd 4,
      .fixed 0b101#3, .var .sz 1, .var .T 1, .fixed 0b1#1, .var .M 1, .fixed 0b0#1, .var .Vm 4],
    priority := 3 },
  { name := "vdiv", variantName := "vdiv_T1", variant := .vdivT1,
    bits := [
      .fixed 0b1110#4, .fixed 0b11101#5, .var .D 1, .fixed 0b00#2, .var .Vn 4, .var .Vd 4,
      .fixed 0b101#3, .var .sz 1, .var .N 1, .fixed 0b0#1, .var .M 1, .fixed 0b0#1, .var .Vm 4],
    priority := 5 },
  { name := "vfma", variantName := "vfma_T1", variant := .vfmaT1,
    bits := [
      .fixed 0b1110#4, .fixed 0b11101#5, .var .D 1, .fixed 0b10#2, .var .Vn 4, .var .Vd 4,
      .fixed 0b101#3, .var .sz 1, .var .N 1, .var .op 1, .var .M 1, .fixed 0b0#1, .var .Vm 4],
    priority := 6 },
  { name := "vfnma", variantName := "vfnma_T1", variant := .vfnmaT1,
    bits := [
      .fixed 0b1110#4, .fixed 0b11101#5, .var .D 1, .fixed 0b01#2, .var .Vn 4, .var .Vd 4,
      .fixed 0b101#3, .var .sz 1, .var .N 1, .var .op 1, .var .M 1, .fixed 0b0#1, .var .Vm 4],
    priority := 6 },
  { name := "vldm", variantName := "vldm_T1", variant := .vldmT1,
    bits := [
      .fixed 0b1110#4, .fixed 0b110#3, .var .P 1, .var .U 1, .var .D 1, .var .W 1, .fixed 0b1#1,
      .var .Rn 4, .var .Vd 4, .fixed 0b1011#4, .var .imm 8],
    priority := 4 },
  { name := "vldm", variantName := "vldm_T2", variant := .vldmT2,
    bits := [
      .fixed 0b1110#4, .fixed 0b110#3, .var .P 1, .var .U 1, .var .D 1, .var .W 1, .fixed 0b1#1,
      .var .Rn 4, .var .Vd 4, .fixed 0b1010#4, .var .imm 8],
    priority := 4 },
  { name := "vldr", variantName := "vldr_T1", variant := .vldrT1,
    bits := [
      .fixed 0b1110#4, .fixed 0b1101#4, .var .U 1, .var .D 1, .fixed 0b0#1, .fixed 0b1#1,
      .var .Rn 4, .var .Vd 4, .fixed 0b1011#4, .var .imm 8],
    priority := 3 },
  { name := "vldr", variantName := "vldr_T2", variant := .vldrT2,
    bits := [
      .fixed 0b1110#4, .fixed 0b1101#4, .var .U 1, .var .D 1, .fixed 0b0#1, .fixed 0b1#1,
      .var .Rn 4, .var .Vd 4, .fixed 0b1010#4, .var .imm 8],
    priority := 3 },
  { name := "vmaxnm", variantName := "vmaxnm_T1", variant := .vmaxnmT1,
    bits := [
      .fixed 0b1111#4, .fixed 0b11101#5, .var .D 1, .fixed 0b00#2, .var .Vn 4, .var .Vd 4,
      .fixed 0b101#3, .var .sz 1, .var .N 1, .var .op 1, .var .M 1, .fixed 0b0#1, .var .Vm 4],
    priority := 3 },
  { name := "vmla", variantName := "vmla_T1", variant := .vmlaT1,
    bits := [
      .fixed 0b1110#4, .fixed 0b11100#5, .var .D 1, .fixed 0b00#2, .var .Vn 4, .var .Vd 4,
      .fixed 0b101#3, .var .sz 1, .var .N 1, .var .op 1, .var .M 1, .fixed 0b0#1, .var .Vm 4],
    priority := 6 },
  { name := "vmov", variantName := "vmov_imm_T1", variant := .vmovImmT1,
    bits := [
      .fixed 0b1110#4, .fixed 0b11101#5, .var .D 1, .fixed 0b11#2, .var .imm 4, .var .Vd 4,
      .fixed 0b101#3, .var .sz 1, .dontcare 0b0#1, .fixed 0b0#1, .dontcare 0b0#1, .fixed 0b0#1,
      .var .imm 4],
    priority := 5 },
  { name := "vmov", variantName := "vmov_reg_T1", variant := .vmovRegT1,
    bits := [
      .fixed 0b1110#4, .fixed 0b11101#5, .var .D 1, .fixed 0b11#2, .fixed 0b0000#4, .var .Vd 4,
      .fixed 0b101#3, .var .sz 1, .fixed 0b0#1, .fixed 0b1#1, .var .M 1, .fixed 0b0#1, .var .Vm 4],
    priority := 1 },
  { name := "vmov", variantName := "vmov_armscl_T1", variant := .vmovArmsclT1,
    bits := [
      .fixed 0b1110#4, .fixed 0b1110#4, .fixed 0b0#1, .fixed 0b0#1, .var .H 1, .fixed 0b0#1,
      .var .Vd 4, .var .Rt 4, .fixed 0b1011#4, .var .D 1, .fixed 0b00#2, .fixed 0b1#1,
      .dontcare 0b0000#4],
    priority := 1 },
  { name := "vmov", variantName := "vmov_sclarm_T1", variant := .vmovSclarmT1,
    bits := [
      .fixed 0b1110#4, .fixed 0b1110#4, .fixed 0b0#1, .fixed 0b0#1, .var .H 1, .fixed 0b1#1,
      .var .Vd 4, .var .Rt 4, .fixed 0b1011#4, .var .D 1, .fixed 0b00#2, .fixed 0b1#1,
      .dontcare 0b0000#4],
    priority := 1 },
  { name := "vmov", variantName := "vmov_armsp_T1", variant := .vmovArmspT1,
    bits := [
      .fixed 0b1110#4, .fixed 0b1110#4, .fixed 0b000#3, .var .op 1, .var .Vn 4, .var .Rt 4,
      .fixed 0b1010#4, .var .N 1, .dontcare 0b00#2, .fixed 0b1#1, .dontcare 0b0000#4],
    priority := 3 },
  { name := "vmov", variantName := "vmov_2arm2sp_T1", variant := .vmov2arm2spT1,
    bits := [
      .fixed 0b1110#4, .fixed 0b1100#4, .fixed 0b010#3, .var .op 1, .var .Rtx 4, .var .Rt 4,
      .fixed 0b1010#4, .fixed 0b00#2, .var .M 1, .fixed 0b1#1, .var .Vm 4],
    priority := 1 },
  { name := "vmov", variantName := "vmov_2armdw_T1", variant := .vmov2armdwT1,
    bits := [
      .fixed 0b1110#4, .fixed 0b1100#4, .fixed 0b010#3, .var .op 1, .var .Rtx 4, .var .Rt 4,
      .fixed 0b1011#4, .fixed 0b00#2, .var .M 1, .fixed 0b1#1, .var .Vm 4],
    priority := 1 },
  { name := "vmrs", variantName := "vmrs_T1", variant := .vmrsT1,
    bits := [
      .fixed 0b1110#4, .fixed 0b11101111#8, .dontcare 0b0001#4, .var .Rt 4, .fixed 0b1010#4,
      .dontcare 0b0#1, .dontcare 0b00#2, .fixed 0b1#1, .dontcare 0b0000#4],
    priority := 2 },
  { name := "vmsr", variantName := "vmsr_T1", variant := .vmsrT1,
    bits := [
      .fixed 0b1110#4, .fixed 0b11101110#8, .dontcare 0b0001#4, .var .Rt 4, .fixed 0b1010#4,
      .dontcare 0b0#1, .dontcare 0b00#2, .fixed 0b1#1, .dontcare 0b0000#4],
    priority := 2 },
  { name := "vmul", variantName := "vmul_T1", variant := .vmulT1,
    bits := [
      .fixed 0b1110#4, .fixed 0b11100#5, .var .D 1, .fixed 0b10#2, .var .Vn 4, .var .Vd 4,
      .fixed 0b101#3, .var .sz 1, .var .N 1, .fixed 0b0#1, .var .M 1, .fixed 0b0#1, .var .Vm 4],
    priority := 5 },
  { name := "vneg", variantName := "vneg_T1", variant := .vnegT1,
    bits := [
      .fixed 0b1110#4, .fixed 0b11101#5, .var .D 1, .fixed 0b11#2, .fixed 0b0001#4, .var .Vd 4,
      .fixed 0b101#3, .var .sz 1, .fixed 0b0#1, .fixed 0b1#1, .var .M 1, .fixed 0b0#1, .var .Vm 4],
    priority := 1 },
  { name := "vnmla", variantName := "vnmla_T1", variant := .vnmlaT1,
    bits := [
      .fixed 0b1110#4, .fixed 0b11100#5, .var .D 1, .fixed 0b01#2, .var .Vn 4, .var .Vd 4,
      .fixed 0b101#3, .var .sz 1, .var .N 1, .var .op 1, .var .M 1, .fixed 0b0#1, .var .Vm 4],
    priority := 6 },
  { name := "vnmla", variantName := "vnmla_T2", variant := .vnmlaT2,
    bits := [
      .fixed 0b1110#4, .fixed 0b11100#5, .var .D 1, .fixed 0b10#2, .var .Vn 4, .var .Vd 4,
      .fixed 0b101#3, .var .sz 1, .var .N 1, .fixed 0b1#1, .var .M 1, .fixed 0b0#1, .var .Vm 4],
    priority := 5 },
  { name := "vpop", variantName := "vpop_T1", variant := .vpopT1,
    bits := [
      .fixed 0b1110#4, .fixed 0b110#3, .fixed 0b0#1, .fixed 0b1#1, .var .D 1, .fixed 0b1#1,
      .fixed 0b1#1, .fixed 0b1101#4, .var .Vd 4, .fixed 0b1011#4, .var .imm 8],
    priority := 2 },
  { name := "vpop", variantName := "vpop_T2", variant := .vpopT2,
    bits := [
      .fixed 0b1110#4, .fixed 0b110#3, .fixed 0b0#1, .fixed 0b1#1, .var .D 1, .fixed 0b1#1,
      .fixed 0b1#1, .fixed 0b1101#4, .var .Vd 4, .fixed 0b1010#4, .var .imm 8],
    priority := 2 },
  { name := "vpush", variantName := "vpush_T1", variant := .vpushT1,
    bits := [
      .fixed 0b1110#4, .fixed 0b110#3, .fixed 0b1#1, .fixed 0b0#1, .var .D 1, .fixed 0b1#1,
      .fixed 0b0#1, .fixed 0b1101#4, .var .Vd 4, .fixed 0b1011#4, .var .imm 8],
    priority := 2 },
  { name := "vpush", variantName := "vpush_T2", variant := .vpushT2,
    bits := [
      .fixed 0b1110#4, .fixed 0b110#3, .fixed 0b1#1, .fixed 0b0#1, .var .D 1, .fixed 0b1#1,
      .fixed 0b0#1, .fixed 0b1101#4, .var .Vd 4, .fixed 0b1010#4, .var .imm 8],
    priority := 2 },
  { name := "vrinta", variantName := "vrinta_T1", variant := .vrintaT1,
    bits := [
      .fixed 0b1111#4, .fixed 0b11101#5, .var .D 1, .fixed 0b1110#4, .var .RM 2, .var .Vd 4,
      .fixed 0b101#3, .var .sz 1, .fixed 0b0#1, .fixed 0b1#1, .var .M 1, .fixed 0b0#1, .var .Vm 4],
    priority := 1 },
  { name := "vrintx", variantName := "vrintx_T1", variant := .vrintxT1,
    bits := [
      .fixed 0b1110#4, .fixed 0b11101#5, .var .D 1, .fixed 0b11011#5, .fixed 0b1#1, .var .Vd 4,
      .fixed 0b101#3, .var .sz 1, .fixed 0b0#1, .fixed 0b1#1, .var .M 1, .fixed 0b0#1, .var .Vm 4],
    priority := 1 },
  { name := "vrintz", variantName := "vrintz_T1", variant := .vrintzT1,
    bits := [
      .fixed 0b1110#4, .fixed 0b11101#5, .var .D 1, .fixed 0b11011#5, .fixed 0b0#1, .var .Vd 4,
      .fixed 0b101#3, .var .sz 1, .var .op 1, .fixed 0b1#1, .var .M 1, .fixed 0b0#1, .var .Vm 4],
    priority := 2 },
  { name := "vsel", variantName := "vsel_T1", variant := .vselT1,
    bits := [
      .fixed 0b1111#4, .fixed 0b11100#5, .var .D 1, .var .cond 2, .var .Vn 4, .var .Vd 4,
      .fixed 0b101#3, .var .sz 1, .var .N 1, .fixed 0b0#1, .var .M 1, .fixed 0b0#1, .var .Vm 4],
    priority := 4 },
  { name := "vsqrt", variantName := "vsqrt_T1", variant := .vsqrtT1,
    bits := [
      .fixed 0b1110#4, .fixed 0b11101#5, .var .D 1, .fixed 0b11#2, .fixed 0b0001#4, .var .Vd 4,
      .fixed 0b101#3, .var .sz 1, .fixed 0b1#1, .fixed 0b1#1, .var .M 1, .fixed 0b0#1, .var .Vm 4],
    priority := 1 },
  { name := "vstm", variantName := "vstm_T1", variant := .vstmT1,
    bits := [
      .fixed 0b1110#4, .fixed 0b110#3, .var .P 1, .var .U 1, .var .D 1, .var .W 1, .fixed 0b0#1,
      .var .Rn 4, .var .Vd 4, .fixed 0b1011#4, .var .imm 8],
    priority := 4 },
  { name := "vstm", variantName := "vstm_T2", variant := .vstmT2,
    bits := [
      .fixed 0b1110#4, .fixed 0b110#3, .var .P 1, .var .U 1, .var .D 1, .var .W 1, .fixed 0b0#1,
      .var .Rn 4, .var .Vd 4, .fixed 0b1010#4, .var .imm 8],
    priority := 4 },
  { name := "vstr", variantName := "vstr_T1", variant := .vstrT1,
    bits := [
      .fixed 0b1110#4, .fixed 0b1101#4, .var .U 1, .var .D 1, .fixed 0b0#1, .fixed 0b0#1,
      .var .Rn 4, .var .Vd 4, .fixed 0b1011#4, .var .imm 8],
    priority := 3 },
  { name := "vstr", variantName := "vstr_T2", variant := .vstrT2,
    bits := [
      .fixed 0b1110#4, .fixed 0b1101#4, .var .U 1, .var .D 1, .fixed 0b0#1, .fixed 0b0#1,
      .var .Rn 4, .var .Vd 4, .fixed 0b1010#4, .var .imm 8],
    priority := 3 },
  { name := "vsub", variantName := "vsub_T1", variant := .vsubT1,
    bits := [
      .fixed 0b1110#4, .fixed 0b11100#5, .var .D 1, .fixed 0b11#2, .var .Vn 4, .var .Vd 4,
      .fixed 0b101#3, .var .sz 1, .var .N 1, .fixed 0b1#1, .var .M 1, .fixed 0b0#1, .var .Vm 4],
    priority := 5 },
  { name := "wfe", variantName := "wfe_T1", variant := .wfeT1,
    bits := [.fixed 0b1011#4, .fixed 0b1111#4, .fixed 0b0010#4, .fixed 0b0000#4],
    priority := 1 },
  { name := "wfe", variantName := "wfe_T2", variant := .wfeT2,
    bits := [
      .fixed 0b11110#5, .fixed 0b0#1, .fixed 0b111#3, .fixed 0b01#2, .fixed 0b0#1,
      .dontcare 0b1111#4, .fixed 0b10#2, .dontcare 0b0#1, .fixed 0b0#1, .dontcare 0b0#1,
      .fixed 0b000#3, .fixed 0b00000010#8],
    priority := 3 },
  { name := "wfi", variantName := "wfi_T1", variant := .wfiT1,
    bits := [.fixed 0b1011#4, .fixed 0b1111#4, .fixed 0b0011#4, .fixed 0b0000#4],
    priority := 1 },
  { name := "wfi", variantName := "wfi_T2", variant := .wfiT2,
    bits := [
      .fixed 0b11110#5, .fixed 0b0#1, .fixed 0b111#3, .fixed 0b01#2, .fixed 0b0#1,
      .dontcare 0b1111#4, .fixed 0b10#2, .dontcare 0b0#1, .fixed 0b0#1, .dontcare 0b0#1,
      .fixed 0b000#3, .fixed 0b00000011#8],
    priority := 3 },
  { name := "yield", variantName := "yield_T1", variant := .yieldT1,
    bits := [.fixed 0b1011#4, .fixed 0b1111#4, .fixed 0b0001#4, .fixed 0b0000#4],
    priority := 1 },
  { name := "yield", variantName := "yield_T2", variant := .yieldT2,
    bits := [
      .fixed 0b11110#5, .fixed 0b0#1, .fixed 0b111#3, .fixed 0b01#2, .fixed 0b0#1,
      .dontcare 0b1111#4, .fixed 0b10#2, .dontcare 0b0#1, .fixed 0b0#1, .dontcare 0b0#1,
      .fixed 0b000#3, .fixed 0b00000001#8],
    priority := 3 }]
