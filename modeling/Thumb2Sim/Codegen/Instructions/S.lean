import Thumb2Sim.Codegen.InsnSet

-- The opcodes of `instructions.xml` that begin with `s`, in their order.
def instructionsS : List OpcodeNode := [
  { name := "sadd", variantName := "sadd16_T1", variant := .sadd16T1,
    bits := [
      .fixed 0b11111#5, .fixed 0b010#3, .fixed 0b1#1, .fixed 0b001#3, .var .Rn 4,
      .fixed 0b1111#4, .var .Rd 4, .fixed 0b0#1, .fixed 0b000#3, .var .Rm 4] },
  { name := "sadd", variantName := "sadd8_T1", variant := .sadd8T1,
    bits := [
      .fixed 0b11111#5, .fixed 0b010#3, .fixed 0b1#1, .fixed 0b000#3, .var .Rn 4,
      .fixed 0b1111#4, .var .Rd 4, .fixed 0b0#1, .fixed 0b000#3, .var .Rm 4] },
  { name := "sasx", variantName := "sasx_T1", variant := .sasxT1,
    bits := [
      .fixed 0b11111#5, .fixed 0b010#3, .fixed 0b1#1, .fixed 0b010#3, .var .Rn 4,
      .fixed 0b1111#4, .var .Rd 4, .fixed 0b0#1, .fixed 0b000#3, .var .Rm 4] },
  { name := "sbc", variantName := "sbc_imm_T1", variant := .sbcImmT1,
    bits := [
      .fixed 0b11110#5, .var .imm 1, .fixed 0b0#1, .fixed 0b1011#4, .var .S 1, .var .Rn 4,
      .fixed 0b0#1, .var .imm 3, .var .Rd 4, .var .imm 8],
    extend := [(.imm, "thumb_expand_imm")] },
  { name := "sbc", variantName := "sbc_reg_T1", variant := .sbcRegT1,
    bits := [.fixed 0b010000#6, .fixed 0b0110#4, .var .Rm 3, .var .Rdn 3] },
  { name := "sbc", variantName := "sbc_reg_T2", variant := .sbcRegT2,
    bits := [
      .fixed 0b11101#5, .fixed 0b01#2, .fixed 0b1011#4, .var .S 1, .var .Rn 4, .dontcare 0b0#1,
      .var .imm 3, .var .Rd 4, .var .imm 2, .var .type 2, .var .Rm 4] },
  { name := "sbfx", variantName := "sbfx_T1", variant := .sbfxT1,
    bits := [
      .fixed 0b11110#5, .dontcare 0b0#1, .fixed 0b11#2, .fixed 0b010#3, .fixed 0b0#1, .var .Rn 4,
      .fixed 0b0#1, .var .imm 3, .var .Rd 4, .var .imm 2, .dontcare 0b0#1, .var .width 5] },
  { name := "sdiv", variantName := "sdiv_T1", variant := .sdivT1,
    bits := [
      .fixed 0b11111#5, .fixed 0b011100#6, .fixed 0b1#1, .var .Rn 4, .dontcare 0b1111#4,
      .var .Rd 4, .fixed 0b1111#4, .var .Rm 4] },
  { name := "sel", variantName := "sel_T1", variant := .selT1,
    bits := [
      .fixed 0b11111#5, .fixed 0b010#3, .fixed 0b1#1, .fixed 0b010#3, .var .Rn 4,
      .fixed 0b1111#4, .var .Rd 4, .fixed 0b1#1, .fixed 0b000#3, .var .Rm 4] },
  { name := "sev", variantName := "sev_T1", variant := .sevT1,
    bits := [.fixed 0b1011#4, .fixed 0b1111#4, .fixed 0b0100#4, .fixed 0b0000#4],
    priority := 1 },
  { name := "sev", variantName := "sev_T2", variant := .sevT2,
    bits := [
      .fixed 0b11110#5, .fixed 0b0#1, .fixed 0b111#3, .fixed 0b01#2, .fixed 0b0#1,
      .dontcare 0b1111#4, .fixed 0b10#2, .dontcare 0b0#1, .fixed 0b0#1, .dontcare 0b0#1,
      .fixed 0b000#3, .fixed 0b00000100#8],
    priority := 3 },
  { name := "shadd", variantName := "shadd16_T1", variant := .shadd16T1,
    bits := [
      .fixed 0b11111#5, .fixed 0b010#3, .fixed 0b1#1, .fixed 0b001#3, .var .Rn 4,
      .fixed 0b1111#4, .var .Rd 4, .fixed 0b0#1, .fixed 0b010#3, .var .Rm 4] },
  { name := "shadd", variantName := "shadd8_T1", variant := .shadd8T1,
    bits := [
      .fixed 0b11111#5, .fixed 0b010#3, .fixed 0b1#1, .fixed 0b000#3, .var .Rn 4,
      .fixed 0b1111#4, .var .Rd 4, .fixed 0b0#1, .fixed 0b010#3, .var .Rm 4] },
  { name := "shasx", variantName := "shasx_T1", variant := .shasxT1,
    bits := [
      .fixed 0b11111#5, .fixed 0b010#3, .fixed 0b1#1, .fixed 0b010#3, .var .Rn 4,
      .fixed 0b1111#4, .var .Rd 4, .fixed 0b0#1, .fixed 0b010#3, .var .Rm 4] },
  { name := "shsax", variantName := "shsax_T1", variant := .shsaxT1,
    bits := [
      .fixed 0b11111#5, .fixed 0b010#3, .fixed 0b1#1, .fixed 0b110#3, .var .Rn 4,
      .fixed 0b1111#4, .var .Rd 4, .fixed 0b0#1, .fixed 0b010#3, .var .Rm 4] },
  { name := "shsub", variantName := "shsub16_T1", variant := .shsub16T1,
    bits := [
      .fixed 0b11111#5, .fixed 0b010#3, .fixed 0b1#1, .fixed 0b101#3, .var .Rn 4,
      .fixed 0b1111#4, .var .Rd 4, .fixed 0b0#1, .fixed 0b010#3, .var .Rm 4] },
  { name := "shsub", variantName := "shsub8_T1", variant := .shsub8T1,
    bits := [
      .fixed 0b11111#5, .fixed 0b010#3, .fixed 0b1#1, .fixed 0b100#3, .var .Rn 4,
      .fixed 0b1111#4, .var .Rd 4, .fixed 0b0#1, .fixed 0b010#3, .var .Rm 4] },
  { name := "smlabb", variantName := "smlabb_T1", variant := .smlabbT1,
    bits := [
      .fixed 0b11111#5, .fixed 0b0110#4, .fixed 0b001#3, .var .Rn 4, .var .Ra 4, .var .Rd 4,
      .fixed 0b00#2, .var .N 1, .var .M 1, .var .Rm 4],
    priority := 2 },
  { name := "smlad", variantName := "smlad_T1", variant := .smladT1,
    bits := [
      .fixed 0b11111#5, .fixed 0b0110#4, .fixed 0b010#3, .var .Rn 4, .var .Ra 4, .var .Rd 4,
      .fixed 0b000#3, .var .M 1, .var .Rm 4],
    priority := 2 },
  { name := "smlal", variantName := "smlal_T1", variant := .smlalT1,
    bits := [
      .fixed 0b11111#5, .fixed 0b0111#4, .fixed 0b1#1, .fixed 0b00#2, .var .Rn 4, .var .RdLo 4,
      .var .RdHi 4, .fixed 0b0000#4, .var .Rm 4] },
  { name := "smlalbb", variantName := "smlalbb_T1", variant := .smlalbbT1,
    bits := [
      .fixed 0b11111#5, .fixed 0b0111#4, .fixed 0b100#3, .var .Rn 4, .var .RdLo 4, .var .RdHi 4,
      .fixed 0b10#2, .var .N 1, .var .M 1, .var .Rm 4] },
  { name := "smlald", variantName := "smlald_T1", variant := .smlaldT1,
    bits := [
      .fixed 0b11111#5, .fixed 0b0111#4, .fixed 0b100#3, .var .Rn 4, .var .RdLo 4, .var .RdHi 4,
      .fixed 0b110#3, .var .M 1, .var .Rm 4] },
  { name := "smlawb", variantName := "smlawb_T1", variant := .smlawbT1,
    bits := [
      .fixed 0b11111#5, .fixed 0b0110#4, .fixed 0b011#3, .var .Rn 4, .var .Ra 4, .var .Rd 4,
      .fixed 0b000#3, .var .M 1, .var .Rm 4],
    priority := 2 },
  { name := "smlsd", variantName := "smlsd_T1", variant := .smlsdT1,
    bits := [
      .fixed 0b11111#5, .fixed 0b0110#4, .fixed 0b100#3, .var .Rn 4, .var .Ra 4, .var .Rd 4,
      .fixed 0b000#3, .var .M 1, .var .Rm 4],
    priority := 2 },
  { name := "smlsld", variantName := "smlsld_T1", variant := .smlsldT1,
    bits := [
      .fixed 0b11111#5, .fixed 0b0111#4, .fixed 0b1#1, .fixed 0b01#2, .var .Rn 4, .var .RdLo 4,
      .var .RdHi 4, .fixed 0b110#3, .var .M 1, .var .Rm 4] },
  { name := "smmla", variantName := "smmla_T1", variant := .smmlaT1,
    bits := [
      .fixed 0b11111#5, .fixed 0b0110#4, .fixed 0b101#3, .var .Rn 4, .var .Ra 4, .var .Rd 4,
      .fixed 0b000#3, .var .R 1, .var .Rm 4],
    priority := 2 },
  { name := "smmls", variantName := "smmls_T1", variant := .smmlsT1,
    bits := [
      .fixed 0b11111#5, .fixed 0b0110#4, .fixed 0b110#3, .var .Rn 4, .var .Ra 4, .var .Rd 4,
      .fixed 0b000#3, .var .R 1, .var .Rm 4] },
  { name := "smmul", variantName := "smmul_T1", variant := .smmulT1,
    bits := [
      .fixed 0b11111#5, .fixed 0b0110#4, .fixed 0b101#3, .var .Rn 4, .fixed 0b1111#4, .var .Rd 4,
      .fixed 0b000#3, .var .R 1, .var .Rm 4],
    priority := 1 },
  { name := "smuad", variantName := "smuad_T1", variant := .smuadT1,
    bits := [
      .fixed 0b11111#5, .fixed 0b0110#4, .fixed 0b010#3, .var .Rn 4, .fixed 0b1111#4, .var .Rd 4,
      .fixed 0b000#3, .var .M 1, .var .Rm 4],
    priority := 1 },
  { name := "smulbb", variantName := "smulbb_T1", variant := .smulbbT1,
    bits := [
      .fixed 0b11111#5, .fixed 0b0110#4, .fixed 0b001#3, .var .Rn 4, .fixed 0b1111#4, .var .Rd 4,
      .fixed 0b00#2, .var .N 1, .var .M 1, .var .Rm 4],
    priority := 1 },
  { name := "smull", variantName := "smull_T1", variant := .smullT1,
    bits := [
      .fixed 0b11111#5, .fixed 0b0111#4, .fixed 0b0#1, .fixed 0b00#2, .var .Rn 4, .var .RdLo 4,
      .var .RdHi 4, .fixed 0b0000#4, .var .Rm 4] },
  { name := "smulwb", variantName := "smulwb_T1", variant := .smulwbT1,
    bits := [
      .fixed 0b11111#5, .fixed 0b0110#4, .fixed 0b011#3, .var .Rn 4, .fixed 0b1111#4, .var .Rd 4,
      .fixed 0b000#3, .var .M 1, .var .Rm 4],
    priority := 1 },
  { name := "smusd", variantName := "smusd_T1", variant := .smusdT1,
    bits := [
      .fixed 0b11111#5, .fixed 0b0110#4, .fixed 0b100#3, .var .Rn 4, .fixed 0b1111#4, .var .Rd 4,
      .fixed 0b000#3, .var .M 1, .var .Rm 4],
    priority := 1 },
  { name := "ssat", variantName := "ssat_T1", variant := .ssatT1,
    bits := [
      .fixed 0b11110#5, .dontcare 0b0#1, .fixed 0b11#2, .fixed 0b00#2, .var .shift 1,
      .fixed 0b0#1, .var .Rn 4, .fixed 0b0#1, .var .imm 3, .var .Rd 4, .var .imm 2,
      .dontcare 0b0#1, .var .satimm 5],
    priority := 2 },
  { name := "ssat", variantName := "ssat16_T1", variant := .ssat16T1,
    bits := [
      .fixed 0b11110#5, .dontcare 0b0#1, .fixed 0b11#2, .fixed 0b001#3, .fixed 0b0#1, .var .Rn 4,
      .fixed 0b0#1, .fixed 0b000#3, .var .Rd 4, .fixed 0b00#2, .dontcare 0b00#2, .var .satimm 4],
    priority := 1 },
  { name := "ssax", variantName := "ssax_T1", variant := .ssaxT1,
    bits := [
      .fixed 0b11111#5, .fixed 0b010#3, .fixed 0b1#1, .fixed 0b110#3, .var .Rn 4,
      .fixed 0b1111#4, .var .Rd 4, .fixed 0b0#1, .fixed 0b000#3, .var .Rm 4] },
  { name := "ssub", variantName := "ssub16_T1", variant := .ssub16T1,
    bits := [
      .fixed 0b11111#5, .fixed 0b010#3, .fixed 0b1#1, .fixed 0b101#3, .var .Rn 4,
      .fixed 0b1111#4, .var .Rd 4, .fixed 0b0#1, .fixed 0b000#3, .var .Rm 4] },
  { name := "ssub", variantName := "ssub8_T1", variant := .ssub8T1,
    bits := [
      .fixed 0b11111#5, .fixed 0b010#3, .fixed 0b1#1, .fixed 0b100#3, .var .Rn 4,
      .fixed 0b1111#4, .var .Rd 4, .fixed 0b0#1, .fixed 0b000#3, .var .Rm 4] },
  { name := "stc", variantName := "stc_T1", variant := .stcT1,
    bits := [
      .fixed 0b1110#4, .fixed 0b110#3, .var .P 1, .var .U 1, .var .N 1, .var .W 1, .fixed 0b0#1,
      .var .Rn 4, .var .CRd 4, .var .coproc 4, .var .imm 8],
    priority := 7 },
  { name := "stc", variantName := "stc2_T2", variant := .stc2T2,
    bits := [
      .fixed 0b1111#4, .fixed 0b110#3, .var .P 1, .var .U 1, .var .N 1, .var .W 1, .fixed 0b0#1,
      .var .Rn 4, .var .CRd 4, .var .coproc 4, .var .imm 8],
    priority := 2 },
  { name := "stm", variantName := "stm_T1", variant := .stmT1,
    bits := [.fixed 0b1100#4, .fixed 0b0#1, .var .Rn 3, .var .registerList 8] },
  { name := "stm", variantName := "stm_T2", variant := .stmT2,
    bits := [
      .fixed 0b11101#5, .fixed 0b00#2, .fixed 0b010#3, .var .W 1, .fixed 0b0#1, .var .Rn 4,
      .fixed 0b0#1, .var .M 1, .fixed 0b0#1, .var .registerList 13] },
  { name := "stmdb", variantName := "stmdb_T1", variant := .stmdbT1,
    bits := [
      .fixed 0b11101#5, .fixed 0b00#2, .fixed 0b100#3, .var .W 1, .fixed 0b0#1, .var .Rn 4,
      .fixed 0b0#1, .var .M 1, .fixed 0b0#1, .var .registerList 13],
    priority := 2 },
  { name := "str", variantName := "str_imm_T1", variant := .strImmT1,
    bits := [.fixed 0b011#3, .fixed 0b0#1, .fixed 0b0#1, .var .imm 5, .var .Rn 3, .var .Rt 3] },
  { name := "str", variantName := "str_imm_T2", variant := .strImmT2,
    bits := [.fixed 0b1001#4, .fixed 0b0#1, .var .Rt 3, .var .imm 8] },
  { name := "str", variantName := "str_imm_T3", variant := .strImmT3,
    bits := [
      .fixed 0b11111#5, .fixed 0b00#2, .fixed 0b0#1, .fixed 0b1#1, .fixed 0b10#2, .fixed 0b0#1,
      .var .Rn 4, .var .Rt 4, .var .imm 12] },
  { name := "str", variantName := "str_imm_T4", variant := .strImmT4,
    bits := [
      .fixed 0b11111#5, .fixed 0b00#2, .fixed 0b0#1, .fixed 0b0#1, .fixed 0b10#2, .fixed 0b0#1,
      .var .Rn 4, .var .Rt 4, .fixed 0b1#1, .var .P 1, .var .U 1, .var .W 1, .var .imm 8],
    priority := 3 },
  { name := "str", variantName := "str_reg_T1", variant := .strRegT1,
    bits := [.fixed 0b0101#4, .fixed 0b000#3, .var .Rm 3, .var .Rn 3, .var .Rt 3] },
  { name := "str", variantName := "str_reg_T2", variant := .strRegT2,
    bits := [
      .fixed 0b11111#5, .fixed 0b00#2, .fixed 0b0#1, .fixed 0b0#1, .fixed 0b10#2, .fixed 0b0#1,
      .var .Rn 4, .var .Rt 4, .fixed 0b0#1, .fixed 0b00000#5, .var .imm 2, .var .Rm 4] },
  { name := "strb", variantName := "strb_imm_T1", variant := .strbImmT1,
    bits := [.fixed 0b011#3, .fixed 0b1#1, .fixed 0b0#1, .var .imm 5, .var .Rn 3, .var .Rt 3] },
  { name := "strb", variantName := "strb_imm_T2", variant := .strbImmT2,
    bits := [
      .fixed 0b11111#5, .fixed 0b00#2, .fixed 0b0#1, .fixed 0b1#1, .fixed 0b00#2, .fixed 0b0#1,
      .var .Rn 4, .var .Rt 4, .var .imm 12] },
  { name := "strb", variantName := "strb_imm_T3", variant := .strbImmT3,
    bits := [
      .fixed 0b11111#5, .fixed 0b00#2, .fixed 0b0#1, .fixed 0b0#1, .fixed 0b00#2, .fixed 0b0#1,
      .var .Rn 4, .var .Rt 4, .fixed 0b1#1, .var .P 1, .var .U 1, .var .W 1, .var .imm 8],
    priority := 2 },
  { name := "strb", variantName := "strb_reg_T1", variant := .strbRegT1,
    bits := [.fixed 0b0101#4, .fixed 0b010#3, .var .Rm 3, .var .Rn 3, .var .Rt 3] },
  { name := "strb", variantName := "strb_reg_T2", variant := .strbRegT2,
    bits := [
      .fixed 0b11111#5, .fixed 0b00#2, .fixed 0b0#1, .fixed 0b0#1, .fixed 0b00#2, .fixed 0b0#1,
      .var .Rn 4, .var .Rt 4, .fixed 0b0#1, .fixed 0b00000#5, .var .imm 2, .var .Rm 4] },
  { name := "strbt", variantName := "strb_T1", variant := .strbT1,
    bits := [
      .fixed 0b11111#5, .fixed 0b00#2, .fixed 0b0#1, .fixed 0b0#1, .fixed 0b00#2, .fixed 0b0#1,
      .var .Rn 4, .var .Rt 4, .fixed 0b1#1, .fixed 0b110#3, .var .imm 8],
    priority := 1 },
  { name := "strd", variantName := "strd_imm_T1", variant := .strdImmT1,
    bits := [
      .fixed 0b11101#5, .fixed 0b00#2, .var .P 1, .var .U 1, .fixed 0b1#1, .var .W 1,
      .fixed 0b0#1, .var .Rn 4, .var .Rt 4, .var .Rtx 4, .var .imm 8],
    priority := 3 },
  { name := "strex", variantName := "strex_T1", variant := .strexT1,
    bits := [
      .fixed 0b11101#5, .fixed 0b00#2, .fixed 0b0#1, .fixed 0b0#1, .fixed 0b1#1, .fixed 0b0#1,
      .fixed 0b0#1, .var .Rn 4, .var .Rt 4, .var .Rd 4, .var .imm 8],
    priority := 2 },
  { name := "strexb", variantName := "strexb_T1", variant := .strexbT1,
    bits := [
      .fixed 0b11101#5, .fixed 0b000110#6, .fixed 0b0#1, .var .Rn 4, .var .Rt 4,
      .dontcare 0b1111#4, .fixed 0b0100#4, .var .Rd 4],
    priority := 1 },
  { name := "strexh", variantName := "strexh_T1", variant := .strexhT1,
    bits := [
      .fixed 0b11101#5, .fixed 0b000110#6, .fixed 0b0#1, .var .Rn 4, .var .Rt 4,
      .dontcare 0b1111#4, .fixed 0b0101#4, .var .Rd 4],
    priority := 1 },
  { name := "strh", variantName := "strh_imm_T1", variant := .strhImmT1,
    bits := [.fixed 0b1000#4, .fixed 0b0#1, .var .imm 5, .var .Rn 3, .var .Rt 3] },
  { name := "strh", variantName := "strh_imm_T2", variant := .strhImmT2,
    bits := [
      .fixed 0b11111#5, .fixed 0b00#2, .fixed 0b0#1, .fixed 0b1#1, .fixed 0b01#2, .fixed 0b0#1,
      .var .Rn 4, .var .Rt 4, .var .imm 12] },
  { name := "strh", variantName := "strh_imm_T3", variant := .strhImmT3,
    bits := [
      .fixed 0b11111#5, .fixed 0b00#2, .fixed 0b0#1, .fixed 0b0#1, .fixed 0b01#2, .fixed 0b0#1,
      .var .Rn 4, .var .Rt 4, .fixed 0b1#1, .var .P 1, .var .U 1, .var .W 1, .var .imm 8],
    priority := 2 },
  { name := "strh", variantName := "strh_reg_T1", variant := .strhRegT1,
    bits := [.fixed 0b0101#4, .fixed 0b001#3, .var .Rm 3, .var .Rn 3, .var .Rt 3] },
  { name := "strh", variantName := "strh_reg_T2", variant := .strhRegT2,
    bits := [
      .fixed 0b11111#5, .fixed 0b00#2, .fixed 0b0#1, .fixed 0b0#1, .fixed 0b01#2, .fixed 0b0#1,
      .var .Rn 4, .var .Rt 4, .fixed 0b0#1, .fixed 0b00000#5, .var .imm 2, .var .Rm 4] },
  { name := "strht", variantName := "strht_T1", variant := .strhtT1,
    bits := [
      .fixed 0b11111#5, .fixed 0b00#2, .fixed 0b0#1, .fixed 0b0#1, .fixed 0b01#2, .fixed 0b0#1,
      .var .Rn 4, .var .Rt 4, .fixed 0b1#1, .fixed 0b110#3, .var .imm 8],
    priority := 1 },
  { name := "strt", variantName := "strt_T1", variant := .strtT1,
    bits := [
      .fixed 0b11111#5, .fixed 0b00#2, .fixed 0b0#1, .fixed 0b0#1, .fixed 0b10#2, .fixed 0b0#1,
      .var .Rn 4, .var .Rt 4, .fixed 0b1#1, .fixed 0b110#3, .var .imm 8],
    priority := 2 },
  { name := "sub", variantName := "sub_imm_T1", variant := .subImmT1,
    bits := [
      .fixed 0b000#3, .fixed 0b11#2, .fixed 0b1#1, .fixed 0b1#1, .var .imm 3, .var .Rn 3,
      .var .Rd 3] },
  { name := "sub", variantName := "sub_imm_T2", variant := .subImmT2,
    bits := [.fixed 0b001#3, .fixed 0b11#2, .var .Rdn 3, .var .imm 8] },
  { name := "sub", variantName := "sub_imm_T3", variant := .subImmT3,
    bits := [
      .fixed 0b11110#5, .var .imm 1, .fixed 0b0#1, .fixed 0b1101#4, .var .S 1, .var .Rn 4,
      .fixed 0b0#1, .var .imm 3, .var .Rd 4, .var .imm 8],
    extend := [(.imm, "thumb_expand_imm")], priority := 9 },
  { name := "sub", variantName := "sub_imm_T4", variant := .subImmT4,
    bits := [
      .fixed 0b11110#5, .var .imm 1, .fixed 0b1#1, .fixed 0b0101#4, .fixed 0b0#1, .var .Rn 4,
      .fixed 0b0#1, .var .imm 3, .var .Rd 4, .var .imm 8],
    priority := 2 },
  { name := "sub", variantName := "sub_reg_T1", variant := .subRegT1,
    bits := [
      .fixed 0b000#3, .fixed 0b11#2, .fixed 0b0#1, .fixed 0b1#1, .var .Rm 3, .var .Rn 3,
      .var .Rd 3] },
  { name := "sub", variantName := "sub_reg_T2", variant := .subRegT2,
    bits := [
      .fixed 0b11101#5, .fixed 0b01#2, .fixed 0b1101#4, .var .S 1, .var .Rn 4, .fixed 0b0#1,
      .var .imm 3, .var .Rd 4, .var .imm 2, .var .type 2, .var .Rm 4],
    priority := 3 },
  { name := "sub", variantName := "sub_SPimm_T1", variant := .subSPimmT1,
    bits := [.fixed 0b1011#4, .fixed 0b0000#4, .fixed 0b1#1, .var .imm 7] },
  { name := "sub", variantName := "sub_SPimm_T2", variant := .subSPimmT2,
    bits := [
      .fixed 0b11110#5, .var .imm 1, .fixed 0b0#1, .fixed 0b1101#4, .var .S 1, .fixed 0b1101#4,
      .fixed 0b0#1, .var .imm 3, .var .Rd 4, .var .imm 8],
    priority := 7 },
  { name := "sub", variantName := "sub_SPimm_T3", variant := .subSPimmT3,
    bits := [
      .fixed 0b11110#5, .var .imm 1, .fixed 0b1#1, .fixed 0b0101#4, .fixed 0b0#1,
      .fixed 0b1101#4, .fixed 0b0#1, .var .imm 3, .var .Rd 4, .var .imm 8],
    priority := 1 },
  { name := "sub", variantName := "sub_SPreg_T1", variant := .subSPregT1,
    bits := [
      .fixed 0b11101#5, .fixed 0b0#1, .fixed 0b1#1, .fixed 0b1101#4, .var .S 1, .fixed 0b1101#4,
      .fixed 0b0#1, .var .imm 3, .var .Rd 4, .var .imm 2, .var .type 2, .var .Rm 4],
    priority := 2 },
  { name := "svc", variantName := "svc_T1", variant := .svcT1,
    bits := [.fixed 0b1101#4, .fixed 0b1111#4, .var .imm 8],
    priority := 1 },
  { name := "sxtab", variantName := "sxtab_T1", variant := .sxtabT1,
    bits := [
      .fixed 0b11111#5, .fixed 0b010#3, .fixed 0b0#1, .fixed 0b100#3, .var .Rn 4,
      .fixed 0b1111#4, .var .Rd 4, .fixed 0b1#1, .dontcare 0b0#1, .var .rotate 2, .var .Rm 4],
    priority := 2 },
  { name := "sxtab16", variantName := "sxtab16_T1", variant := .sxtab16T1,
    bits := [
      .fixed 0b11111#5, .fixed 0b010#3, .fixed 0b0#1, .fixed 0b010#3, .var .Rn 4,
      .fixed 0b1111#4, .var .Rd 4, .fixed 0b1#1, .dontcare 0b0#1, .var .rotate 2, .var .Rm 4],
    priority := 2 },
  { name := "sxtah", variantName := "sxtah_T1", variant := .sxtahT1,
    bits := [
      .fixed 0b11111#5, .fixed 0b010#3, .fixed 0b0#1, .fixed 0b000#3, .var .Rn 4,
      .fixed 0b1111#4, .var .Rd 4, .fixed 0b1#1, .dontcare 0b0#1, .var .rotate 2, .var .Rm 4],
    priority := 2 },
  { name := "sxtb", variantName := "sxtb_T1", variant := .sxtbT1,
    bits := [.fixed 0b1011#4, .fixed 0b0010#4, .fixed 0b01#2, .var .Rm 3, .var .Rd 3] },
  { name := "sxtb", variantName := "sxtb_T2", variant := .sxtbT2,
    bits := [
      .fixed 0b11111#5, .fixed 0b010#3, .fixed 0b0#1, .fixed 0b100#3, .fixed 0b1111#4,
      .fixed 0b1111#4, .var .Rd 4, .fixed 0b1#1, .fixed 0b0#1, .var .rotate 2, .var .Rm 4],
    priority := 1 },
  { name := "sxtb", variantName := "sxtb16_T1", variant := .sxtb16T1,
    bits := [
      .fixed 0b11111#5, .fixed 0b010#3, .fixed 0b0#1, .fixed 0b010#3, .fixed 0b1111#4,
      .fixed 0b1111#4, .var .Rd 4, .fixed 0b1#1, .fixed 0b0#1, .var .rotate 2, .var .Rm 4],
    priority := 1 },
  { name := "sxth", variantName := "sxth_T1", variant := .sxthT1,
    bits := [.fixed 0b1011#4, .fixed 0b0010#4, .fixed 0b00#2, .var .Rm 3, .var .Rd 3] },
  { name := "sxth", variantName := "sxth_T2", variant := .sxthT2,
    bits := [
      .fixed 0b11111#5, .fixed 0b010#3, .fixed 0b0#1, .fixed 0b000#3, .fixed 0b1111#4,
      .fixed 0b1111#4, .var .Rd 4, .fixed 0b1#1, .fixed 0b0#1, .var .rotate 2, .var .Rm 4],
    priority := 1 }]
