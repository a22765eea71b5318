import Thumb2Sim.Codegen.InsnSet

-- The opcodes of `instructions.xml` that begin with `l` to `r`, in their order.
def instructionsLToR : List OpcodeNode := [
  { name := "ldc", variantName := "ldc_imm_T1", variant := .ldcImmT1,
    bits := [
      .fixed 0b1110#4, .fixed 0b110#3, .var .P 1, .var .U 1, .var .D 1, .var .W 1, .fixed 0b1#1,
      .var .Rn 4, .var .CRd 4, .var .coproc 4, .var .imm 8],
    priority := 7 },
  { name := "ldc", variantName := "ldc2_imm_T2", variant := .ldc2ImmT2,
    bits := [
      .fixed 0b1111#4, .fixed 0b110#3, .var .P 1, .var .U 1, .var .D 1, .var .W 1, .fixed 0b1#1,
      .var .Rn 4, .var .CRd 4, .var .coproc 4, .var .imm 8],
    priority := 3 },
  { name := "ldc", variantName := "ldc_lit_T1", variant := .ldcLitT1,
    bits := [
      .fixed 0b1110#4, .fixed 0b110#3, .var .P 1, .var .U 1, .var .D 1, .var .W 1, .fixed 0b1#1,
      .fixed 0b1111#4, .var .CRd 4, .var .coproc 4, .var .imm 8],
    priority := 5 },
  { name := "ldc", variantName := "ldc2_lit_T2", variant := .ldc2LitT2,
    bits := [
      .fixed 0b1111#4, .fixed 0b110#3, .var .P 1, .var .U 1, .var .D 1, .var .W 1, .fixed 0b1#1,
      .fixed 0b1111#4, .var .CRd 4, .var .coproc 4, .var .imm 8],
    priority := 2 },
  { name := "ldm", variantName := "ldm_T1", variant := .ldmT1,
    bits := [.fixed 0b1100#4, .fixed 0b1#1, .var .Rn 3, .var .registerList 8] },
  { name := "ldm", variantName := "ldm_T2", variant := .ldmT2,
    bits := [
      .fixed 0b11101#5, .fixed 0b00#2, .fixed 0b010#3, .var .W 1, .fixed 0b1#1, .var .Rn 4,
      .var .P 1, .var .M 1, .fixed 0b0#1, .var .registerList 13],
    priority := 2 },
  { name := "ldmdb", variantName := "ldmdb_T1", variant := .ldmdbT1,
    bits := [
      .fixed 0b11101#5, .fixed 0b00#2, .fixed 0b100#3, .var .W 1, .fixed 0b1#1, .var .Rn 4,
      .var .P 1, .var .M 1, .fixed 0b0#1, .var .registerList 13] },
  { name := "ldr", variantName := "ldr_imm_T1", variant := .ldrImmT1,
    bits := [.fixed 0b011#3, .fixed 0b0#1, .fixed 0b1#1, .var .imm 5, .var .Rn 3, .var .Rt 3] },
  { name := "ldr", variantName := "ldr_imm_T2", variant := .ldrImmT2,
    bits := [.fixed 0b1001#4, .fixed 0b1#1, .var .Rt 3, .var .imm 8] },
  { name := "ldr", variantName := "ldr_imm_T3", variant := .ldrImmT3,
    bits := [
      .fixed 0b11111#5, .fixed 0b00#2, .fixed 0b0#1, .fixed 0b1#1, .fixed 0b10#2, .fixed 0b1#1,
      .var .Rn 4, .var .Rt 4, .var .imm 12],
    priority := 6 },
  { name := "ldr", variantName := "ldr_imm_T4", variant := .ldrImmT4,
    bits := [
      .fixed 0b11111#5, .fixed 0b00#2, .fixed 0b0#1, .fixed 0b0#1, .fixed 0b10#2, .fixed 0b1#1,
      .var .Rn 4, .var .Rt 4, .fixed 0b1#1, .var .P 1, .var .U 1, .var .W 1, .var .imm 8],
    priority := 5 },
  { name := "ldr", variantName := "ldr_lit_T1", variant := .ldrLitT1,
    bits := [.fixed 0b01001#5, .var .Rt 3, .var .imm 8] },
  { name := "ldr", variantName := "ldr_lit_T2", variant := .ldrLitT2,
    bits := [
      .fixed 0b11111#5, .fixed 0b00#2, .fixed 0b0#1, .var .U 1, .fixed 0b10#2, .fixed 0b1#1,
      .fixed 0b1111#4, .var .Rt 4, .var .imm 12],
    priority := 2 },
  { name := "ldr", variantName := "ldr_reg_T1", variant := .ldrRegT1,
    bits := [.fixed 0b0101#4, .fixed 0b100#3, .var .Rm 3, .var .Rn 3, .var .Rt 3] },
  { name := "ldr", variantName := "ldr_reg_T2", variant := .ldrRegT2,
    bits := [
      .fixed 0b11111#5, .fixed 0b00#2, .fixed 0b0#1, .fixed 0b0#1, .fixed 0b10#2, .fixed 0b1#1,
      .var .Rn 4, .var .Rt 4, .fixed 0b0#1, .fixed 0b00000#5, .var .imm 2, .var .Rm 4],
    priority := 3 },
  { name := "ldrb", variantName := "ldrb_imm_T1", variant := .ldrbImmT1,
    bits := [.fixed 0b011#3, .fixed 0b1#1, .fixed 0b1#1, .var .imm 5, .var .Rn 3, .var .Rt 3] },
  { name := "ldrb", variantName := "ldrb_imm_T2", variant := .ldrbImmT2,
    bits := [
      .fixed 0b11111#5, .fixed 0b00#2, .fixed 0b0#1, .fixed 0b1#1, .fixed 0b00#2, .fixed 0b1#1,
      .var .Rn 4, .var .Rt 4, .var .imm 12],
    priority := 9 },
  { name := "ldrb", variantName := "ldrb_imm_T3", variant := .ldrbImmT3,
    bits := [
      .fixed 0b11111#5, .fixed 0b00#2, .fixed 0b0#1, .fixed 0b0#1, .fixed 0b00#2, .fixed 0b1#1,
      .var .Rn 4, .var .Rt 4, .fixed 0b1#1, .var .P 1, .var .U 1, .var .W 1, .var .imm 8],
    priority := 7 },
  { name := "ldrb", variantName := "ldrb_lit_T1", variant := .ldrbLitT1,
    bits := [
      .fixed 0b11111#5, .fixed 0b00#2, .fixed 0b0#1, .var .U 1, .fixed 0b00#2, .fixed 0b1#1,
      .fixed 0b1111#4, .var .Rt 4, .var .imm 12],
    priority := 8 },
  { name := "ldrb", variantName := "ldrb_reg_T1", variant := .ldrbRegT1,
    bits := [.fixed 0b0101#4, .fixed 0b110#3, .var .Rm 3, .var .Rn 3, .var .Rt 3] },
  { name := "ldrb", variantName := "ldrb_reg_T2", variant := .ldrbRegT2,
    bits := [
      .fixed 0b11111#5, .fixed 0b00#2, .fixed 0b0#1, .fixed 0b0#1, .fixed 0b00#2, .fixed 0b1#1,
      .var .Rn 4, .var .Rt 4, .fixed 0b0#1, .fixed 0b00000#5, .var .imm 2, .var .Rm 4],
    priority := 5 },
  { name := "ldrbt", variantName := "ldrbt_T1", variant := .ldrbtT1,
    bits := [
      .fixed 0b11111#5, .fixed 0b00#2, .fixed 0b0#1, .fixed 0b0#1, .fixed 0b00#2, .fixed 0b1#1,
      .var .Rn 4, .var .Rt 4, .fixed 0b1#1, .fixed 0b110#3, .var .imm 8],
    priority := 6 },
  { name := "ldrd", variantName := "ldrd_imm_T1", variant := .ldrdImmT1,
    bits := [
      .fixed 0b11101#5, .fixed 0b00#2, .var .P 1, .var .U 1, .fixed 0b1#1, .var .W 1,
      .fixed 0b1#1, .var .Rn 4, .var .Rt 4, .var .Rtx 4, .var .imm 8],
    priority := 5 },
  { name := "ldrd", variantName := "ldrd_lit_T1", variant := .ldrdLitT1,
    bits := [
      .fixed 0b11101#5, .fixed 0b00#2, .var .P 1, .var .U 1, .fixed 0b1#1, .var .W 1,
      .fixed 0b1#1, .fixed 0b1111#4, .var .Rt 4, .var .Rtx 4, .var .imm 8],
    priority := 4 },
  { name := "ldrex", variantName := "ldrex_T1", variant := .ldrexT1,
    bits := [
      .fixed 0b11101#5, .fixed 0b00#2, .fixed 0b0#1, .fixed 0b0#1, .fixed 0b1#1, .fixed 0b0#1,
      .fixed 0b1#1, .var .Rn 4, .var .Rt 4, .fixed 0b1#1, .fixed 0b1#1, .fixed 0b1#1,
      .fixed 0b1#1, .var .imm 8],
    priority := 2 },
  { name := "ldrexb", variantName := "ldrexb_T1", variant := .ldrexbT1,
    bits := [
      .fixed 0b11101#5, .fixed 0b000110#6, .fixed 0b1#1, .var .Rn 4, .var .Rt 4, .fixed 0b1111#4,
      .fixed 0b0100#4, .fixed 0b1111#4],
    priority := 1 },
  { name := "ldrexh", variantName := "ldrexh_T1", variant := .ldrexhT1,
    bits := [
      .fixed 0b11101#5, .fixed 0b000110#6, .fixed 0b1#1, .var .Rn 4, .var .Rt 4, .fixed 0b1111#4,
      .fixed 0b0101#4, .fixed 0b1111#4],
    priority := 1 },
  { name := "ldrh", variantName := "ldrh_imm_T1", variant := .ldrhImmT1,
    bits := [.fixed 0b1000#4, .fixed 0b1#1, .var .imm 5, .var .Rn 3, .var .Rt 3] },
  { name := "ldrh", variantName := "ldrh_imm_T2", variant := .ldrhImmT2,
    bits := [
      .fixed 0b11111#5, .fixed 0b00#2, .fixed 0b0#1, .fixed 0b1#1, .fixed 0b01#2, .fixed 0b1#1,
      .var .Rn 4, .var .Rt 4, .var .imm 12],
    priority := 5 },
  { name := "ldrh", variantName := "ldrh_imm_T3", variant := .ldrhImmT3,
    bits := [
      .fixed 0b11111#5, .fixed 0b00#2, .fixed 0b0#1, .fixed 0b0#1, .fixed 0b01#2, .fixed 0b1#1,
      .var .Rn 4, .var .Rt 4, .fixed 0b1#1, .var .P 1, .var .U 1, .var .W 1, .var .imm 8],
    priority := 4 },
  { name := "ldrh", variantName := "ldrh_lit_T1", variant := .ldrhLitT1,
    bits := [
      .fixed 0b11111#5, .fixed 0b00#2, .fixed 0b0#1, .var .U 1, .fixed 0b01#2, .fixed 0b1#1,
      .fixed 0b1111#4, .var .Rt 4, .var .imm 12],
    priority := 3 },
  { name := "ldrh", variantName := "ldrh_reg_T1", variant := .ldrhRegT1,
    bits := [.fixed 0b0101#4, .fixed 0b101#3, .var .Rm 3, .var .Rn 3, .var .Rt 3] },
  { name := "ldrh", variantName := "ldrh_reg_T2", variant := .ldrhRegT2,
    bits := [
      .fixed 0b11111#5, .fixed 0b00#2, .fixed 0b0#1, .fixed 0b0#1, .fixed 0b01#2, .fixed 0b1#1,
      .var .Rn 4, .var .Rt 4, .fixed 0b0#1, .fixed 0b00000#5, .var .imm 2, .var .Rm 4],
    priority := 1 },
  { name := "ldrht", variantName := "ldrht_T1", variant := .ldrhtT1,
    bits := [
      .fixed 0b11111#5, .fixed 0b00#2, .fixed 0b0#1, .fixed 0b0#1, .fixed 0b01#2, .fixed 0b1#1,
      .var .Rn 4, .var .Rt 4, .fixed 0b1#1, .fixed 0b110#3, .var .imm 8],
    priority := 2 },
  { name := "ldrsb", variantName := "ldrsb_imm_T1", variant := .ldrsbImmT1,
    bits := [
      .fixed 0b11111#5, .fixed 0b00#2, .fixed 0b1#1, .fixed 0b1#1, .fixed 0b00#2, .fixed 0b1#1,
      .var .Rn 4, .var .Rt 4, .var .imm 12],
    priority := 8 },
  { name := "ldrsb", variantName := "ldrsb_imm_T2", variant := .ldrsbImmT2,
    bits := [
      .fixed 0b11111#5, .fixed 0b00#2, .fixed 0b1#1, .fixed 0b0#1, .fixed 0b00#2, .fixed 0b1#1,
      .var .Rn 4, .var .Rt 4, .fixed 0b1#1, .var .P 1, .var .U 1, .var .W 1, .var .imm 8],
    priority := 7 },
  { name := "ldrsb", variantName := "ldrsb_lit_T1", variant := .ldrsbLitT1,
    bits := [
      .fixed 0b11111#5, .fixed 0b00#2, .fixed 0b1#1, .var .U 1, .fixed 0b00#2, .fixed 0b1#1,
      .fixed 0b1111#4, .var .Rt 4, .var .imm 12],
    priority := 2 },
  { name := "ldrsb", variantName := "ldrsb_reg_T1", variant := .ldrsbRegT1,
    bits := [.fixed 0b0101#4, .fixed 0b011#3, .var .Rm 3, .var .Rn 3, .var .Rt 3] },
  { name := "ldrsb", variantName := "ldrsb_reg_T2", variant := .ldrsbRegT2,
    bits := [
      .fixed 0b11111#5, .fixed 0b00#2, .fixed 0b1#1, .fixed 0b0#1, .fixed 0b00#2, .fixed 0b1#1,
      .var .Rn 4, .var .Rt 4, .fixed 0b0#1, .fixed 0b00000#5, .var .imm 2, .var .Rm 4],
    priority := 5 },
  { name := "ldrsbt", variantName := "ldrsbt_T1", variant := .ldrsbtT1,
    bits := [
      .fixed 0b11111#5, .fixed 0b00#2, .fixed 0b1#1, .fixed 0b0#1, .fixed 0b00#2, .fixed 0b1#1,
      .var .Rn 4, .var .Rt 4, .fixed 0b1#1, .fixed 0b110#3, .var .imm 8],
    priority := 6 },
  { name := "ldrsh", variantName := "ldrsh_imm_T1", variant := .ldrshImmT1,
    bits := [
      .fixed 0b11111#5, .fixed 0b00#2, .fixed 0b1#1, .fixed 0b1#1, .fixed 0b01#2, .fixed 0b1#1,
      .var .Rn 4, .var .Rt 4, .var .imm 12],
    priority := 4 },
  { name := "ldrsh", variantName := "ldrsh_imm_T2", variant := .ldrshImmT2,
    bits := [
      .fixed 0b11111#5, .fixed 0b00#2, .fixed 0b1#1, .fixed 0b0#1, .fixed 0b01#2, .fixed 0b1#1,
      .var .Rn 4, .var .Rt 4, .fixed 0b1#1, .var .P 1, .var .U 1, .var .W 1, .var .imm 8],
    priority := 2 },
  { name := "ldrsh", variantName := "ldrsh_lit_T1", variant := .ldrshLitT1,
    bits := [
      .fixed 0b11111#5, .fixed 0b00#2, .fixed 0b1#1, .var .U 1, .fixed 0b01#2, .fixed 0b1#1,
      .fixed 0b1111#4, .var .Rt 4, .var .imm 12],
    priority := 3 },
  { name := "ldrsh", variantName := "ldrsh_reg_T1", variant := .ldrshRegT1,
    bits := [.fixed 0b0101#4, .fixed 0b111#3, .var .Rm 3, .var .Rn 3, .var .Rt 3] },
  { name := "ldrsh", variantName := "ldrsh_reg_T2", variant := .ldrshRegT2,
    bits := [
      .fixed 0b11111#5, .fixed 0b00#2, .fixed 0b1#1, .fixed 0b0#1, .fixed 0b01#2, .fixed 0b1#1,
      .var .Rn 4, .var .Rt 4, .fixed 0b0#1, .fixed 0b00000#5, .var .imm 2, .var .Rm 4],
    priority := 1 },
  { name := "ldrsht", variantName := "ldrsh_T1", variant := .ldrshT1,
    bits := [
      .fixed 0b11111#5, .fixed 0b00#2, .fixed 0b1#1, .fixed 0b0#1, .fixed 0b01#2, .fixed 0b1#1,
      .var .Rn 4, .var .Rt 4, .fixed 0b1#1, .fixed 0b110#3, .var .imm 8],
    priority := 1 },
  { name := "ldrt", variantName := "ldrt_T1", variant := .ldrtT1,
    bits := [
      .fixed 0b11111#5, .fixed 0b00#2, .fixed 0b0#1, .fixed 0b0#1, .fixed 0b10#2, .fixed 0b1#1,
      .var .Rn 4, .var .Rt 4, .fixed 0b1#1, .fixed 0b110#3, .var .imm 8],
    priority := 4 },
  { name := "lsl", variantName := "lsl_imm_T1", variant := .lslImmT1,
    bits := [.fixed 0b00000#5, .var .imm 5, .var .Rm 3, .var .Rd 3],
    priority := 2 },
  { name := "lsl", variantName := "lsl_imm_T2", variant := .lslImmT2,
    bits := [
      .fixed 0b11101#5, .fixed 0b01#2, .fixed 0b0010#4, .var .S 1, .fixed 0b1111#4, .fixed 0b0#1,
      .var .imm 3, .var .Rd 4, .var .imm 2, .fixed 0b00#2, .var .Rm 4],
    priority := 2 },
  { name := "lsl", variantName := "lsl_reg_T1", variant := .lslRegT1,
    bits := [.fixed 0b010000#6, .fixed 0b0010#4, .var .Rm 3, .var .Rdn 3] },
  { name := "lsl", variantName := "lsl_reg_T2", variant := .lslRegT2,
    bits := [
      .fixed 0b11111#5, .fixed 0b010#3, .fixed 0b0#1, .fixed 0b00#2, .var .S 1, .var .Rn 4,
      .fixed 0b1111#4, .var .Rd 4, .fixed 0b0#1, .fixed 0b000#3, .var .Rm 4] },
  { name := "lsr", variantName := "lsr_imm_T1", variant := .lsrImmT1,
    bits := [.fixed 0b000#3, .fixed 0b01#2, .var .imm 5, .var .Rm 3, .var .Rd 3] },
  { name := "lsr", variantName := "lsr_imm_T2", variant := .lsrImmT2,
    bits := [
      .fixed 0b11101#5, .fixed 0b01#2, .fixed 0b0010#4, .var .S 1, .fixed 0b1111#4, .fixed 0b0#1,
      .var .imm 3, .var .Rd 4, .var .imm 2, .fixed 0b01#2, .var .Rm 4],
    priority := 2 },
  { name := "lsr", variantName := "lsr_reg_T1", variant := .lsrRegT1,
    bits := [.fixed 0b010000#6, .fixed 0b0011#4, .var .Rm 3, .var .Rdn 3] },
  { name := "lsr", variantName := "lsr_reg_T2", variant := .lsrRegT2,
    bits := [
      .fixed 0b11111#5, .fixed 0b010#3, .fixed 0b0#1, .fixed 0b01#2, .var .S 1, .var .Rn 4,
      .fixed 0b1111#4, .var .Rd 4, .fixed 0b0#1, .fixed 0b000#3, .var .Rm 4] },
  { name := "mcr", variantName := "mcr_T1", variant := .mcrT1,
    bits := [
      .fixed 0b1110#4, .fixed 0b1110#4, .var .opcA 3, .fixed 0b0#1, .var .CRn 4, .var .Rt 4,
      .var .coproc 4, .var .opcB 3, .fixed 0b1#1, .var .CRm 4],
    priority := 4 },
  { name := "mcr", variantName := "mcr2_T2", variant := .mcr2T2,
    bits := [
      .fixed 0b1111#4, .fixed 0b1110#4, .var .opcA 3, .fixed 0b0#1, .var .CRn 4, .var .Rt 4,
      .var .coproc 4, .var .opcB 3, .fixed 0b1#1, .var .CRm 4] },
  { name := "mcrr", variantName := "mcrr_T1", variant := .mcrrT1,
    bits := [
      .fixed 0b1110#4, .fixed 0b110#3, .fixed 0b0#1, .fixed 0b0#1, .fixed 0b1#1, .fixed 0b0#1,
      .fixed 0b0#1, .var .RtB 4, .var .Rt 4, .var .coproc 4, .var .opcA 4, .var .CRm 4],
    priority := 6 },
  { name := "mcrr", variantName := "mcrr2_T2", variant := .mcrr2T2,
    bits := [
      .fixed 0b1111#4, .fixed 0b110#3, .fixed 0b0#1, .fixed 0b0#1, .fixed 0b1#1, .fixed 0b0#1,
      .fixed 0b0#1, .var .RtB 4, .var .Rt 4, .var .coproc 4, .var .opcA 4, .var .CRm 4],
    priority := 1 },
  { name := "mla", variantName := "mla_T1", variant := .mlaT1,
    bits := [
      .fixed 0b11111#5, .fixed 0b0110#4, .fixed 0b000#3, .var .Rn 4, .var .Ra 4, .var .Rd 4,
      .fixed 0b0000#4, .var .Rm 4],
    priority := 2 },
  { name := "mls", variantName := "mls_T1", variant := .mlsT1,
    bits := [
      .fixed 0b11111#5, .fixed 0b0110#4, .fixed 0b000#3, .var .Rn 4, .var .Ra 4, .var .Rd 4,
      .fixed 0b0001#4, .var .Rm 4] },
  { name := "mov", variantName := "mov_imm_T1", variant := .movImmT1,
    bits := [.fixed 0b00100#5, .var .Rd 3, .var .imm 8] },
  { name := "mov", variantName := "mov_imm_T2", variant := .movImmT2,
    bits := [
      .fixed 0b11110#5, .var .imm 1, .fixed 0b00010#5, .var .S 1, .fixed 0b11110#5, .var .imm 3,
      .var .Rd 4, .var .imm 8],
    extend := [(.imm, "thumb_expand_imm")], priority := 1 },
  { name := "mov", variantName := "mov_imm_T3", variant := .movImmT3,
    bits := [
      .fixed 0b11110#5, .varAt .imm 1 2, .fixed 0b10#2, .fixed 0b0#1, .fixed 0b1#1, .fixed 0b0#1,
      .fixed 0b0#1, .varAt .imm 4 3, .fixed 0b0#1, .varAt .imm 3 1, .var .Rd 4, .varAt .imm 8 0],
    priority := 2 },
  { name := "mov", variantName := "mov_reg_T1", variant := .movRegT1,
    bits := [.fixed 0b010001#6, .fixed 0b10#2, .var .Rd 1, .var .Rm 4, .var .Rd 3] },
  { name := "mov", variantName := "mov_reg_T2", variant := .movRegT2,
    bits := [.fixed 0b000#3, .fixed 0b00#2, .fixed 0b00000#5, .var .Rm 3, .var .Rd 3],
    priority := 1 },
  { name := "mov", variantName := "mov_reg_T3", variant := .movRegT3,
    bits := [
      .fixed 0b11110#5, .fixed 0b01#2, .fixed 0b0010#4, .var .S 1, .fixed 0b1111#4,
      .fixed 0b0000#4, .var .Rd 4, .fixed 0b0000#4, .var .Rm 4],
    priority := 1 },
  { name := "movt", variantName := "movt_T1", variant := .movtT1,
    bits := [
      .fixed 0b11110#5, .varAt .imm 1 2, .fixed 0b10#2, .fixed 0b1#1, .fixed 0b1#1, .fixed 0b0#1,
      .fixed 0b0#1, .varAt .imm 4 3, .fixed 0b0#1, .varAt .imm 3 1, .var .Rd 4, .varAt .imm 8 0] },
  { name := "mrc", variantName := "mrc_T1", variant := .mrcT1,
    bits := [
      .fixed 0b1110#4, .fixed 0b1110#4, .var .opcA 3, .fixed 0b1#1, .var .Crn 4, .var .Rt 4,
      .var .coproc 4, .var .opcB 3, .fixed 0b1#1, .var .CRm 4],
    priority := 4 },
  { name := "mrc", variantName := "mrc2_T2", variant := .mrc2T2,
    bits := [
      .fixed 0b1111#4, .fixed 0b1110#4, .var .opcA 3, .fixed 0b1#1, .var .Crn 4, .var .Rt 4,
      .var .coproc 4, .var .opcB 3, .fixed 0b1#1, .var .CRm 4] },
  { name := "mrrc", variantName := "mrrc_T1", variant := .mrrcT1,
    bits := [
      .fixed 0b1110#4, .fixed 0b110#3, .fixed 0b0#1, .fixed 0b0#1, .fixed 0b1#1, .fixed 0b0#1,
      .fixed 0b1#1, .var .RtB 4, .var .Rt 4, .var .coproc 4, .var .opcA 4, .var .CRm 4],
    priority := 6 },
  { name := "mrrc", variantName := "mrrc2_T2", variant := .mrrc2T2,
    bits := [
      .fixed 0b1111#4, .fixed 0b110#3, .fixed 0b0#1, .fixed 0b0#1, .fixed 0b1#1, .fixed 0b0#1,
      .fixed 0b1#1, .var .RtB 4, .var .Rt 4, .var .coproc 4, .var .opcA 4, .var .CRm 4],
    priority := 1 },
  { name := "mrs", variantName := "mrs_T1", variant := .mrsT1,
    bits := [
      .fixed 0b11110#5, .fixed 0b0#1, .fixed 0b1111#4, .fixed 0b1#1, .dontcare 0b0#1,
      .dontcare 0b1111#4, .fixed 0b10#2, .dontcare 0b0#1, .fixed 0b0#1, .var .Rd 4, .var .SYSm 8],
    priority := 6 },
  { name := "msr", variantName := "msr_T1", variant := .msrT1,
    bits := [
      .fixed 0b11110#5, .fixed 0b0#1, .fixed 0b1110#4, .fixed 0b0#1, .dontcare 0b0#1, .var .Rn 4,
      .fixed 0b10#2, .dontcare 0b0#1, .fixed 0b0#1, .var .mask 2, .dontcare 0b0#1,
      .dontcare 0b0#1, .var .SYSm 8],
    priority := 6 },
  { name := "mul", variantName := "mul_T1", variant := .mulT1,
    bits := [.fixed 0b010000#6, .fixed 0b1101#4, .var .Rn 3, .var .Rdm 3] },
  { name := "mul", variantName := "mul_T2", variant := .mulT2,
    bits := [
      .fixed 0b11111#5, .fixed 0b0110#4, .fixed 0b000#3, .var .Rn 4, .fixed 0b1111#4, .var .Rd 4,
      .fixed 0b0000#4, .var .Rm 4],
    priority := 1 },
  { name := "mvn", variantName := "mvn_imm_T1", variant := .mvnImmT1,
    bits := [
      .fixed 0b11110#5, .var .imm 1, .fixed 0b0#1, .fixed 0b0011#4, .var .S 1, .fixed 0b1111#4,
      .fixed 0b0#1, .var .imm 3, .var .Rd 4, .var .imm 8],
    extend := [(.imm, "thumb_expand_imm")], priority := 1 },
  { name := "mvn", variantName := "mvn_reg_T1", variant := .mvnRegT1,
    bits := [.fixed 0b010000#6, .fixed 0b1111#4, .var .Rm 3, .var .Rd 3] },
  { name := "mvn", variantName := "mvn_reg_T2", variant := .mvnRegT2,
    bits := [
      .fixed 0b11101#5, .fixed 0b01#2, .fixed 0b0011#4, .var .S 1, .fixed 0b1111#4, .fixed 0b0#1,
      .var .imm 3, .var .Rd 4, .var .imm 2, .var .type 2, .var .Rm 4],
    extend := [(.imm, "thumb_expand_imm")], priority := 1 },
  { name := "nop", variantName := "nop_T1", variant := .nopT1,
    bits := [.fixed 0b1011#4, .fixed 0b1111#4, .fixed 0b0000#4, .fixed 0b0000#4],
    priority := 1 },
  { name := "nop", variantName := "nop_T2", variant := .nopT2,
    bits := [
      .fixed 0b11110#5, .fixed 0b0#1, .fixed 0b111#3, .fixed 0b01#2, .fixed 0b0#1,
      .fixed 0b1111#4, .fixed 0b10#2, .fixed 0b0#1, .fixed 0b0#1, .fixed 0b0#1, .fixed 0b000#3,
      .fixed 0b00000000#8],
    priority := 1 },
  { name := "orn", variantName := "orn_imm_T1", variant := .ornImmT1,
    bits := [
      .fixed 0b11110#5, .var .imm 1, .fixed 0b0#1, .fixed 0b0011#4, .var .S 1, .var .Rn 4,
      .fixed 0b0#1, .var .imm 3, .var .Rd 4, .var .imm 8],
    priority := 2 },
  { name := "orn", variantName := "orn_reg_T1", variant := .ornRegT1,
    bits := [
      .fixed 0b11101#5, .fixed 0b01#2, .fixed 0b0011#4, .var .S 1, .var .Rn 4, .fixed 0b0#1,
      .var .imm 3, .var .Rd 4, .var .imm 2, .var .type 2, .var .Rm 4],
    priority := 2 },
  { name := "orr", variantName := "orr_imm_T1", variant := .orrImmT1,
    bits := [
      .fixed 0b11110#5, .var .imm 1, .fixed 0b0#1, .fixed 0b0010#4, .var .S 1, .var .Rn 4,
      .fixed 0b0#1, .var .imm 3, .var .Rd 4, .var .imm 8],
    extend := [(.imm, "thumb_expand_imm")], priority := 2 },
  { name := "orr", variantName := "orr_reg_T1", variant := .orrRegT1,
    bits := [.fixed 0b010000#6, .fixed 0b1100#4, .var .Rm 3, .var .Rdn 3] },
  { name := "orr", variantName := "orr_reg_T2", variant := .orrRegT2,
    bits := [
      .fixed 0b11101#5, .fixed 0b01#2, .fixed 0b0010#4, .var .S 1, .var .Rn 4, .fixed 0b0#1,
      .var .imm 3, .var .Rd 4, .var .imm 2, .var .type 2, .var .Rm 4],
    priority := 3 },
  { name := "pkhbt", variantName := "pkhbt_T1", variant := .pkhbtT1,
    bits := [
      .fixed 0b11101#5, .fixed 0b01#2, .fixed 0b0110#4, .var .S 1, .var .Rn 4, .dontcare 0b0#1,
      .var .imm 3, .var .Rd 4, .var .imm 2, .var .tb 1, .var .T 1, .var .Rm 4] },
  { name := "pld", variantName := "pld_imm_T1", variant := .pldImmT1,
    bits := [
      .fixed 0b11111#5, .fixed 0b00#2, .fixed 0b0#1, .fixed 0b1#1, .fixed 0b0#1, .fixed 0b0#1,
      .fixed 0b1#1, .var .Rn 4, .fixed 0b1111#4, .var .imm 12],
    priority := 4 },
  { name := "pld", variantName := "pld_imm_T2", variant := .pldImmT2,
    bits := [
      .fixed 0b11111#5, .fixed 0b00#2, .fixed 0b0#1, .fixed 0b0#1, .fixed 0b0#1, .fixed 0b0#1,
      .fixed 0b1#1, .var .Rn 4, .fixed 0b1111#4, .fixed 0b1#1, .fixed 0b100#3, .var .imm 8],
    priority := 3 },
  { name := "pld", variantName := "pld_lit_T1", variant := .pldLitT1,
    bits := [
      .fixed 0b11111#5, .fixed 0b00#2, .fixed 0b0#1, .var .U 1, .fixed 0b00#2, .fixed 0b1#1,
      .fixed 0b1111#4, .fixed 0b1111#4, .var .imm 12],
    priority := 1 },
  { name := "pld", variantName := "pld_reg_T1", variant := .pldRegT1,
    bits := [
      .fixed 0b11111#5, .fixed 0b00#2, .fixed 0b0#1, .fixed 0b0#1, .fixed 0b00#2, .fixed 0b1#1,
      .var .Rn 4, .fixed 0b1111#4, .fixed 0b0#1, .fixed 0b00000#5, .var .imm 2, .var .Rm 4],
    priority := 2 },
  { name := "pli", variantName := "pld_immlit_T1", variant := .pldImmlitT1,
    bits := [
      .fixed 0b11111#5, .fixed 0b00#2, .fixed 0b1#1, .fixed 0b1#1, .fixed 0b00#2, .fixed 0b1#1,
      .var .Rn 4, .fixed 0b1111#4, .var .imm 12],
    priority := 4 },
  { name := "pli", variantName := "pld_immlit_T2", variant := .pldImmlitT2,
    bits := [
      .fixed 0b11111#5, .fixed 0b00#2, .fixed 0b1#1, .fixed 0b0#1, .fixed 0b00#2, .fixed 0b1#1,
      .var .Rn 4, .fixed 0b1111#4, .fixed 0b1#1, .fixed 0b100#3, .var .imm 8],
    priority := 3 },
  { name := "pli", variantName := "pld_immlit_T3", variant := .pldImmlitT3,
    bits := [
      .fixed 0b11111#5, .fixed 0b00#2, .fixed 0b1#1, .var .U 1, .fixed 0b00#2, .fixed 0b1#1,
      .fixed 0b1111#4, .fixed 0b1111#4, .var .imm 12],
    priority := 1 },
  { name := "pop", variantName := "pop_T1", variant := .popT1,
    bits := [.fixed 0b1011#4, .fixed 0b1#1, .fixed 0b10#2, .var .P 1, .var .registerList 8] },
  { name := "pop", variantName := "pop_T2", variant := .popT2,
    bits := [
      .fixed 0b11101#5, .fixed 0b00#2, .fixed 0b010#3, .fixed 0b1#1, .fixed 0b1#1,
      .fixed 0b1101#4, .var .P 1, .var .M 1, .fixed 0b0#1, .var .registerList 13],
    priority := 1 },
  { name := "pop", variantName := "pop_T3", variant := .popT3,
    bits := [
      .fixed 0b11111#5, .fixed 0b00#2, .fixed 0b0#1, .fixed 0b0#1, .fixed 0b10#2, .fixed 0b1#1,
      .fixed 0b1101#4, .var .Rt 4, .fixed 0b1#1, .fixed 0b011#3, .fixed 0b00000100#8],
    priority := 1 },
  { name := "push", variantName := "push_T1", variant := .pushT1,
    bits := [.fixed 0b1011#4, .fixed 0b0#1, .fixed 0b10#2, .var .M 1, .var .registerList 8] },
  { name := "push", variantName := "push_T2", variant := .pushT2,
    bits := [
      .fixed 0b11101#5, .fixed 0b00#2, .fixed 0b100#3, .fixed 0b1#1, .fixed 0b0#1,
      .fixed 0b1101#4, .fixed 0b0#1, .var .M 1, .fixed 0b0#1, .var .registerList 13],
    priority := 1 },
  { name := "push", variantName := "push_T3", variant := .pushT3,
    bits := [
      .fixed 0b11111#5, .fixed 0b00#2, .fixed 0b0#1, .fixed 0b0#1, .fixed 0b10#2, .fixed 0b0#1,
      .fixed 0b1101#4, .var .Rt 4, .fixed 0b1#1, .fixed 0b101#3, .fixed 0b00000100#8],
    priority := 1 },
  { name := "qadd", variantName := "qadd_T1", variant := .qaddT1,
    bits := [
      .fixed 0b11111#5, .fixed 0b010#3, .fixed 0b1#1, .fixed 0b000#3, .var .Rn 4,
      .fixed 0b1111#4, .var .Rd 4, .fixed 0b1#1, .fixed 0b000#3, .var .Rm 4] },
  { name := "qadd", variantName := "qadd16_T1", variant := .qadd16T1,
    bits := [
      .fixed 0b11111#5, .fixed 0b010#3, .fixed 0b1#1, .fixed 0b001#3, .var .Rn 4,
      .fixed 0b1111#4, .var .Rd 4, .fixed 0b0#1, .fixed 0b001#3, .var .Rm 4] },
  { name := "qadd", variantName := "qadd8_T1", variant := .qadd8T1,
    bits := [
      .fixed 0b11111#5, .fixed 0b010#3, .fixed 0b1#1, .fixed 0b000#3, .var .Rn 4,
      .fixed 0b1111#4, .var .Rd 4, .fixed 0b0#1, .fixed 0b001#3, .var .Rm 4] },
  { name := "qasx", variantName := "qasx_T1", variant := .qasxT1,
    bits := [
      .fixed 0b11111#5, .fixed 0b010#3, .fixed 0b1#1, .fixed 0b110#3, .var .Rn 4,
      .fixed 0b1111#4, .var .Rd 4, .fixed 0b0#1, .fixed 0b001#3, .var .Rm 4],
    priority := 1 },
  { name := "qdadd", variantName := "qdadd_T1", variant := .qdaddT1,
    bits := [
      .fixed 0b11111#5, .fixed 0b010#3, .fixed 0b1#1, .fixed 0b000#3, .var .Rn 4,
      .fixed 0b1111#4, .var .Rd 4, .fixed 0b1#1, .fixed 0b001#3, .var .Rm 4] },
  { name := "qdsub", variantName := "qdsub_T1", variant := .qdsubT1,
    bits := [
      .fixed 0b11111#5, .fixed 0b010#3, .fixed 0b1#1, .fixed 0b000#3, .var .Rn 4,
      .fixed 0b1111#4, .var .Rd 4, .fixed 0b1#1, .fixed 0b011#3, .var .Rm 4] },
  { name := "qsax", variantName := "qsax_T1", variant := .qsaxT1,
    bits := [
      .fixed 0b11111#5, .fixed 0b010#3, .fixed 0b1#1, .fixed 0b110#3, .var .Rn 4,
      .fixed 0b1111#4, .var .Rd 4, .fixed 0b0#1, .fixed 0b001#3, .var .Rm 4],
    priority := 1 },
  { name := "qsub", variantName := "qsub_T1", variant := .qsubT1,
    bits := [
      .fixed 0b11111#5, .fixed 0b010#3, .fixed 0b1#1, .fixed 0b000#3, .var .Rn 4,
      .fixed 0b1111#4, .var .Rd 4, .fixed 0b1#1, .fixed 0b010#3, .var .Rm 4] },
  { name := "qsub", variantName := "qsub16_T1", variant := .qsub16T1,
    bits := [
      .fixed 0b11111#5, .fixed 0b010#3, .fixed 0b1#1, .fixed 0b101#3, .var .Rn 4,
      .fixed 0b1111#4, .var .Rd 4, .fixed 0b0#1, .fixed 0b001#3, .var .Rm 4] },
  { name := "qsub", variantName := "qsub8_T1", variant := .qsub8T1,
    bits := [
      .fixed 0b11111#5, .fixed 0b010#3, .fixed 0b1#1, .fixed 0b100#3, .var .Rn 4,
      .fixed 0b1111#4, .var .Rd 4, .fixed 0b0#1, .fixed 0b001#3, .var .Rm 4] },
  { name := "rbit", variantName := "rbit_T1", variant := .rbitT1,
    bits := [
      .fixed 0b11111#5, .fixed 0b010#3, .fixed 0b1#1, .fixed 0b001#3, .var .Rm 4,
      .fixed 0b1111#4, .var .Rd 4, .fixed 0b1#1, .fixed 0b010#3, .var .Rm 4] },
  { name := "rev", variantName := "rev_T1", variant := .revT1,
    bits := [.fixed 0b1011#4, .fixed 0b1010#4, .fixed 0b00#2, .var .Rm 3, .var .Rd 3] },
  { name := "rev", variantName := "rev_T2", variant := .revT2,
    bits := [
      .fixed 0b11111#5, .fixed 0b010#3, .fixed 0b1#1, .fixed 0b001#3, .var .Rmx 4,
      .fixed 0b1111#4, .var .Rd 4, .fixed 0b1#1, .fixed 0b000#3, .var .Rm 4] },
  { name := "rev", variantName := "rev16_T1", variant := .rev16T1,
    bits := [.fixed 0b1011#4, .fixed 0b1010#4, .fixed 0b01#2, .var .Rm 3, .var .Rd 3] },
  { name := "rev", variantName := "rev16_T2", variant := .rev16T2,
    bits := [
      .fixed 0b11111#5, .fixed 0b010#3, .fixed 0b1#1, .fixed 0b001#3, .var .Rm 4,
      .fixed 0b1111#4, .var .Rd 4, .fixed 0b1#1, .fixed 0b001#3, .var .Rm 4] },
  { name := "revsh", variantName := "revsh_T1", variant := .revshT1,
    bits := [.fixed 0b1011#4, .fixed 0b1010#4, .fixed 0b11#2, .var .Rm 3, .var .Rd 3] },
  { name := "revsh", variantName := "revsh_T2", variant := .revshT2,
    bits := [
      .fixed 0b11111#5, .fixed 0b010#3, .fixed 0b1#1, .fixed 0b001#3, .var .Rm 4,
      .fixed 0b1111#4, .var .Rd 4, .fixed 0b1#1, .fixed 0b011#3, .var .Rm 4] },
  { name := "ror", variantName := "ror_imm_T1", variant := .rorImmT1,
    bits := [
      .fixed 0b11101#5, .fixed 0b01#2, .fixed 0b0010#4, .var .S 1, .fixed 0b1111#4,
      .dontcare 0b0#1, .var .imm 3, .var .Rd 4, .var .imm 2, .fixed 0b11#2, .var .Rm 4],
    priority := 2 },
  { name := "ror", variantName := "ror_reg_T1", variant := .rorRegT1,
    bits := [.fixed 0b010000#6, .fixed 0b0111#4, .var .Rm 3, .var .Rdn 3] },
  { name := "ror", variantName := "ror_reg_T2", variant := .rorRegT2,
    bits := [
      .fixed 0b11111#5, .fixed 0b010#3, .fixed 0b0#1, .fixed 0b11#2, .var .S 1, .var .Rn 4,
      .fixed 0b1111#4, .var .Rd 4, .fixed 0b0#1, .fixed 0b000#3, .var .Rm 4] },
  { name := "rrx", variantName := "rrx_T1", variant := .rrxT1,
    bits := [
      .fixed 0b11101#5, .fixed 0b01#2, .fixed 0b0010#4, .var .S 1, .fixed 0b1111#4,
      .dontcare 0b0#1, .fixed 0b000#3, .var .Rd 4, .fixed 0b00#2, .fixed 0b11#2, .var .Rm 4],
    priority := 1 },
  { name := "rsb", variantName := "rsb_imm_T1", variant := .rsbImmT1,
    bits := [.fixed 0b010000#6, .fixed 0b1001#4, .var .Rn 3, .var .Rd 3] },
  { name := "rsb", variantName := "rsb_imm_T2", variant := .rsbImmT2,
    bits := [
      .fixed 0b11110#5, .var .imm 1, .fixed 0b0#1, .fixed 0b1110#4, .var .S 1, .var .Rn 4,
      .fixed 0b0#1, .var .imm 3, .var .Rd 4, .var .imm 8],
    extend := [(.imm, "thumb_expand_imm")] },
  { name := "rsb", variantName := "rsb_reg_T1", variant := .rsbRegT1,
    bits := [
      .fixed 0b11101#5, .fixed 0b01#2, .fixed 0b1110#4, .var .S 1, .var .Rn 4, .dontcare 0b0#1,
      .var .imm 3, .var .Rd 4, .var .imm 2, .var .type 2, .var .Rm 4] }]
