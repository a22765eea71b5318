import Thumb2Sim.Codegen.InsnSet

-- The opcodes of `instructions.xml` that begin with `a` to `k`, in their order.
def instructionsAToK : List OpcodeNode := [
  { name := "adc", variantName := "adc_imm_T1", variant := .adcImmT1,
    bits := [
      .fixed 0b11110#5, .var .imm 1, .fixed 0b0#1, .fixed 0b1010#4, .var .S 1, .var .Rn 4,
      .fixed 0b0#1, .var .imm 3, .var .Rd 4, .var .imm 8],
    extend := [(.imm, "thumb_expand_imm")] },
  { name := "adc", variantName := "adc_reg_T1", variant := .adcRegT1,
    bits := [.fixed 0b010000#6, .fixed 0b0101#4, .var .Rm 3, .var .Rdn 3] },
  { name := "adc", variantName := "adc_reg_T2", variant := .adcRegT2,
    bits := [
      .fixed 0b11101#5, .fixed 0b01#2, .fixed 0b1010#4, .var .S 1, .var .Rn 4, .fixed 0b0#1,
      .var .imm 3, .var .Rd 4, .var .imm 2, .var .type 2, .var .Rm 4] },
  { name := "add", variantName := "add_imm_T1", variant := .addImmT1,
    bits := [
      .fixed 0b000#3, .fixed 0b11#2, .fixed 0b1#1, .fixed 0b0#1, .var .imm 3, .var .Rn 3,
      .var .Rd 3] },
  { name := "add", variantName := "add_imm_T2", variant := .addImmT2,
    bits := [.fixed 0b001#3, .fixed 0b10#2, .var .Rdn 3, .var .imm 8] },
  { name := "add", variantName := "add_imm_T3", variant := .addImmT3,
    bits := [
      .fixed 0b11110#5, .var .imm 1, .fixed 0b0#1, .fixed 0b1000#4, .var .S 1, .var .Rn 4,
      .fixed 0b0#1, .var .imm 3, .var .Rd 4, .var .imm 8],
    extend := [(.imm, "thumb_expand_imm")], priority := 3 },
  { name := "add", variantName := "add_imm_T4", variant := .addImmT4,
    bits := [
      .fixed 0b11110#5, .var .imm 1, .fixed 0b1#1, .fixed 0b0000#4, .fixed 0b0#1, .var .Rn 4,
      .fixed 0b0#1, .var .imm 3, .var .Rd 4, .var .imm 8],
    priority := 2 },
  { name := "add", variantName := "add_reg_T1", variant := .addRegT1,
    bits := [
      .fixed 0b000#3, .fixed 0b11#2, .fixed 0b0#1, .fixed 0b0#1, .var .Rm 3, .var .Rn 3,
      .var .Rd 3] },
  { name := "add", variantName := "add_reg_T2", variant := .addRegT2,
    bits := [.fixed 0b010001#6, .fixed 0b00#2, .var .Rdn 1, .var .Rm 4, .var .Rdn 3],
    priority := 3 },
  { name := "add", variantName := "add_reg_T3", variant := .addRegT3,
    bits := [
      .fixed 0b11101#5, .fixed 0b01#2, .fixed 0b1000#4, .var .S 1, .var .Rn 4, .fixed 0b0#1,
      .var .imm 3, .var .Rd 4, .var .imm 2, .var .type 2, .var .Rm 4],
    priority := 3 },
  { name := "add", variantName := "add_SPi_T1", variant := .addSPiT1,
    bits := [.fixed 0b1010#4, .fixed 0b1#1, .var .Rd 3, .var .imm 8] },
  { name := "add", variantName := "add_SPi_T2", variant := .addSPiT2,
    bits := [.fixed 0b1011#4, .fixed 0b0000#4, .fixed 0b0#1, .var .imm 7] },
  { name := "add", variantName := "add_SPi_T3", variant := .addSPiT3,
    bits := [
      .fixed 0b11110#5, .var .imm 1, .fixed 0b0#1, .fixed 0b1000#4, .var .S 1, .fixed 0b1101#4,
      .fixed 0b0#1, .var .imm 3, .var .Rd 4, .var .imm 8],
    extend := [(.imm, "thumb_expand_imm")], priority := 2 },
  { name := "add", variantName := "add_SPi_T4", variant := .addSPiT4,
    bits := [
      .fixed 0b11110#5, .var .imm 1, .fixed 0b1#1, .fixed 0b0000#4, .fixed 0b0#1,
      .fixed 0b1101#4, .fixed 0b0#1, .var .imm 3, .var .Rd 4, .var .imm 8],
    priority := 1 },
  { name := "add", variantName := "add_SPr_T1", variant := .addSPrT1,
    bits := [.fixed 0b01000100#8, .var .Rdm 1, .fixed 0b1101#4, .var .Rdm 3],
    priority := 2 },
  { name := "add", variantName := "add_SPr_T2", variant := .addSPrT2,
    bits := [.fixed 0b01000100#8, .fixed 0b1#1, .var .Rm 4, .fixed 0b101#3],
    priority := 1 },
  { name := "add", variantName := "add_SPr_T3", variant := .addSPrT3,
    bits := [
      .fixed 0b11101011000#11, .var .S 1, .fixed 0b1101#4, .fixed 0b0#1, .var .imm 3, .var .Rd 4,
      .var .imm 2, .var .type 2, .var .Rm 4],
    priority := 2 },
  { name := "adr", variantName := "adr_T1", variant := .adrT1,
    bits := [.fixed 0b1010#4, .fixed 0b0#1, .var .Rd 3, .var .imm 8] },
  { name := "adr", variantName := "adr_T2", variant := .adrT2,
    bits := [
      .fixed 0b11110#5, .var .imm 1, .fixed 0b10101#5, .fixed 0b0#1, .fixed 0b1111#4,
      .fixed 0b0#1, .var .imm 3, .var .Rd 4, .var .imm 8],
    priority := 1 },
  { name := "adr", variantName := "adr_T3", variant := .adrT3,
    bits := [
      .fixed 0b11110#5, .var .imm 1, .fixed 0b10000#5, .fixed 0b0#1, .fixed 0b1111#4,
      .fixed 0b0#1, .var .imm 3, .var .Rd 4, .var .imm 8],
    priority := 1 },
  { name := "and", variantName := "and_imm_T1", variant := .andImmT1,
    bits := [
      .fixed 0b11110#5, .var .imm 1, .fixed 0b0#1, .fixed 0b0000#4, .var .S 1, .var .Rn 4,
      .fixed 0b0#1, .var .imm 3, .var .Rd 4, .var .imm 8],
    extend := [(.imm, "thumb_expand_imm")], priority := 2 },
  { name := "and", variantName := "and_reg_T1", variant := .andRegT1,
    bits := [.fixed 0b010000#6, .fixed 0b0000#4, .var .Rm 3, .var .Rdn 3] },
  { name := "and", variantName := "and_reg_T2", variant := .andRegT2,
    bits := [
      .fixed 0b11101#5, .fixed 0b01#2, .fixed 0b0000#4, .var .S 1, .var .Rn 4, .fixed 0b0#1,
      .var .imm 3, .var .Rd 4, .var .imm 2, .var .type 2, .var .Rm 4],
    priority := 2 },
  { name := "asr", variantName := "asr_imm_T1", variant := .asrImmT1,
    bits := [.fixed 0b000#3, .fixed 0b10#2, .var .imm 5, .var .Rm 3, .var .Rd 3] },
  { name := "asr", variantName := "asr_imm_T2", variant := .asrImmT2,
    bits := [
      .fixed 0b11101#5, .fixed 0b01#2, .fixed 0b0010#4, .var .S 1, .fixed 0b1111#4, .fixed 0b0#1,
      .var .imm 3, .var .Rd 4, .var .imm 2, .fixed 0b10#2, .var .Rm 4],
    priority := 2 },
  { name := "asr", variantName := "asr_reg_T1", variant := .asrRegT1,
    bits := [.fixed 0b010000#6, .fixed 0b0100#4, .var .Rm 3, .var .Rdn 3] },
  { name := "asr", variantName := "asr_reg_T2", variant := .asrRegT2,
    bits := [
      .fixed 0b11111#5, .fixed 0b010#3, .fixed 0b0#1, .fixed 0b10#2, .var .S 1, .var .Rn 4,
      .fixed 0b1111#4, .var .Rd 4, .fixed 0b0#1, .fixed 0b000#3, .var .Rm 4] },
  { name := "b", variantName := "b_T1", variant := .bT1,
    bits := [.fixed 0b1101#4, .var .cond 4, .var .imm 8],
    priority := 2 },
  { name := "b", variantName := "b_T2", variant := .bT2,
    bits := [.fixed 0b11100#5, .var .imm 11] },
  { name := "b", variantName := "b_T3", variant := .bT3,
    bits := [
      .fixed 0b11110#5, .varAt .imm 1 4, .var .cond 4, .varAt .imm 6 1, .fixed 0b10#2,
      .varAt .imm 1 2, .fixed 0b0#1, .varAt .imm 1 3, .varAt .imm 11 0],
    extend := [(.imm, "thumb_sign_extend20")], priority := 10 },
  { name := "b", variantName := "b_T4", variant := .bT4,
    bits := [
      .fixed 0b11110#5, .varAt .imm 1 4, .varAt .imm 10 1, .fixed 0b10#2, .varAt .imm 1 3,
      .fixed 0b1#1, .varAt .imm 1 2, .varAt .imm 11 0],
    extend := [(.imm, "thumb_sign_extend24_EOR")], priority := 10 },
  { name := "bfc", variantName := "bfc_T1", variant := .bfcT1,
    bits := [
      .fixed 0b11110#5, .dontcare 0b0#1, .fixed 0b11#2, .fixed 0b011#3, .fixed 0b0#1,
      .fixed 0b1111#4, .fixed 0b0#1, .var .imm 3, .var .Rd 4, .var .imm 2, .dontcare 0b0#1,
      .var .msb 5],
    priority := 1 },
  { name := "bfi", variantName := "bfi_T1", variant := .bfiT1,
    bits := [
      .fixed 0b11110#5, .dontcare 0b0#1, .fixed 0b11#2, .fixed 0b011#3, .fixed 0b0#1, .var .Rn 4,
      .fixed 0b0#1, .var .imm 3, .var .Rd 4, .var .imm 2, .dontcare 0b0#1, .var .msb 5],
    priority := 2 },
  { name := "bic", variantName := "bic_imm_T1", variant := .bicImmT1,
    bits := [
      .fixed 0b11110#5, .var .imm 1, .fixed 0b0#1, .fixed 0b0001#4, .var .S 1, .var .Rn 4,
      .fixed 0b0#1, .var .imm 3, .var .Rd 4, .var .imm 8],
    extend := [(.imm, "thumb_expand_imm")] },
  { name := "bic", variantName := "bic_reg_T1", variant := .bicRegT1,
    bits := [.fixed 0b010000#6, .fixed 0b1110#4, .var .Rm 3, .var .Rdn 3] },
  { name := "bic", variantName := "bic_reg_T2", variant := .bicRegT2,
    bits := [
      .fixed 0b11101#5, .fixed 0b01#2, .fixed 0b0001#4, .var .S 1, .var .Rn 4, .dontcare 0b0#1,
      .var .imm 3, .var .Rd 4, .var .imm 2, .var .type 2, .var .Rm 4] },
  { name := "bkpt", variantName := "bkpt_T1", variant := .bkptT1,
    bits := [.fixed 0b1011#4, .fixed 0b1110#4, .var .imm 8] },
  { name := "bl", variantName := "bl_T1", variant := .blT1,
    bits := [
      .fixed 0b11110#5, .varAt .imm 1 4, .varAt .imm 10 1, .fixed 0b11#2, .varAt .imm 1 3,
      .fixed 0b1#1, .varAt .imm 1 2, .varAt .imm 11 0],
    extend := [(.imm, "thumb_sign_extend24_EOR")], priority := 10 },
  { name := "blx", variantName := "blx_reg_T1", variant := .blxRegT1,
    bits := [.fixed 0b010001#6, .fixed 0b11#2, .fixed 0b1#1, .var .Rm 4, .dontcare 0b000#3] },
  { name := "bx", variantName := "bx_T1", variant := .bxT1,
    bits := [.fixed 0b010001#6, .fixed 0b11#2, .fixed 0b0#1, .var .Rm 4, .dontcare 0b000#3] },
  { name := "cbnz", variantName := "cbnz_T1", variant := .cbnzT1,
    bits := [
      .fixed 0b1011#4, .var .op 1, .fixed 0b0#1, .var .imm 1, .fixed 0b1#1, .var .imm 5,
      .var .Rn 3] },
  { name := "cdp", variantName := "cdp_T1", variant := .cdpT1,
    bits := [
      .fixed 0b1110#4, .fixed 0b1110#4, .var .opcA 4, .var .CRn 4, .var .CRd 4, .var .coproc 4,
      .var .opcB 3, .fixed 0b0#1, .var .CRm 4],
    priority := 7 },
  { name := "cdp", variantName := "cdp2_T2", variant := .cdp2T2,
    bits := [
      .fixed 0b1111#4, .fixed 0b1110#4, .var .opcA 4, .var .CRn 4, .var .CRd 4, .var .coproc 4,
      .var .opcB 3, .fixed 0b0#1, .var .CRm 4],
    priority := 5 },
  { name := "clrex", variantName := "clrex_T1", variant := .clrexT1,
    bits := [
      .fixed 0b11110#5, .fixed 0b0#1, .fixed 0b111#3, .fixed 0b01#2, .fixed 0b1#1,
      .dontcare 0b1111#4, .fixed 0b10#2, .dontcare 0b0#1, .fixed 0b0#1, .dontcare 0b1111#4,
      .fixed 0b0010#4, .dontcare 0b1111#4],
    priority := 5 },
  { name := "clz", variantName := "clz_T1", variant := .clzT1,
    bits := [
      .fixed 0b11111#5, .fixed 0b010#3, .fixed 0b1#1, .fixed 0b011#3, .var .Rmx 4,
      .fixed 0b1111#4, .var .Rd 4, .fixed 0b1#1, .fixed 0b000#3, .var .Rm 4] },
  { name := "cmn", variantName := "cmn_imm_T1", variant := .cmnImmT1,
    bits := [
      .fixed 0b11110#5, .var .imm 1, .fixed 0b0#1, .fixed 0b1000#4, .fixed 0b1#1, .var .Rn 4,
      .fixed 0b0#1, .var .imm 3, .fixed 0b1111#4, .var .imm 8],
    extend := [(.imm, "thumb_expand_imm")], priority := 1 },
  { name := "cmn", variantName := "cmn_reg_T1", variant := .cmnRegT1,
    bits := [.fixed 0b010000#6, .fixed 0b1011#4, .var .Rm 3, .var .Rn 3] },
  { name := "cmn", variantName := "cmn_reg_T2", variant := .cmnRegT2,
    bits := [
      .fixed 0b11101#5, .fixed 0b01#2, .fixed 0b1000#4, .fixed 0b1#1, .var .Rn 4,
      .dontcare 0b0#1, .var .imm 3, .fixed 0b1111#4, .var .imm 2, .var .type 2, .var .Rm 4],
    extend := [(.imm, "thumb_expand_imm")], priority := 1 },
  { name := "cmp", variantName := "cmp_imm_T1", variant := .cmpImmT1,
    bits := [.fixed 0b001#3, .fixed 0b01#2, .var .Rn 3, .var .imm 8] },
  { name := "cmp", variantName := "cmp_imm_T2", variant := .cmpImmT2,
    bits := [
      .fixed 0b11110#5, .var .imm 1, .fixed 0b0#1, .fixed 0b1101#4, .fixed 0b1#1, .var .Rn 4,
      .dontcare 0b0#1, .var .imm 3, .fixed 0b1111#4, .var .imm 8],
    extend := [(.imm, "thumb_expand_imm")], priority := 8 },
  { name := "cmp", variantName := "cmp_reg_T1", variant := .cmpRegT1,
    bits := [.fixed 0b010000#6, .fixed 0b1010#4, .var .Rm 3, .var .Rn 3] },
  { name := "cmp", variantName := "cmp_reg_T2", variant := .cmpRegT2,
    bits := [.fixed 0b010001#6, .fixed 0b01#2, .var .Rn 1, .var .Rm 4, .var .Rn 3] },
  { name := "cmp", variantName := "cmp_reg_T3", variant := .cmpRegT3,
    bits := [
      .fixed 0b11101#5, .fixed 0b01#2, .fixed 0b1101#4, .fixed 0b1#1, .var .Rn 4, .fixed 0b0#1,
      .var .imm 3, .fixed 0b1111#4, .var .imm 2, .var .type 2, .var .Rm 4],
    priority := 1 },
  { name := "cps", variantName := "cps_T1", variant := .cpsT1,
    bits := [
      .fixed 0b1011#4, .fixed 0b0110#4, .fixed 0b011#3, .var .imm 1, .dontcare 0b0#1,
      .dontcare 0b0#1, .var .I 1, .var .F 1] },
  { name := "dbg", variantName := "dbg_T1", variant := .dbgT1,
    bits := [
      .fixed 0b11110#5, .fixed 0b0#1, .fixed 0b111#3, .fixed 0b01#2, .fixed 0b0#1,
      .dontcare 0b1111#4, .fixed 0b10#2, .dontcare 0b0#1, .fixed 0b0#1, .dontcare 0b0#1,
      .fixed 0b000#3, .fixed 0b1111#4, .var .option 4],
    priority := 4 },
  { name := "dmb", variantName := "dmb_T1", variant := .dmbT1,
    bits := [
      .fixed 0b11110#5, .fixed 0b0#1, .fixed 0b111#3, .fixed 0b01#2, .fixed 0b1#1,
      .dontcare 0b1111#4, .fixed 0b10#2, .dontcare 0b0#1, .fixed 0b0#1, .dontcare 0b1111#4,
      .fixed 0b0101#4, .var .option 4],
    priority := 5 },
  { name := "dsb", variantName := "dsb_T1", variant := .dsbT1,
    bits := [
      .fixed 0b11110#5, .fixed 0b0#1, .fixed 0b111#3, .fixed 0b01#2, .fixed 0b1#1,
      .dontcare 0b1111#4, .fixed 0b10#2, .dontcare 0b0#1, .fixed 0b0#1, .dontcare 0b1111#4,
      .fixed 0b0100#4, .var .option 4],
    priority := 5 },
  { name := "eor", variantName := "eor_imm_T1", variant := .eorImmT1,
    bits := [
      .fixed 0b11110#5, .var .imm 1, .fixed 0b0#1, .fixed 0b0100#4, .var .S 1, .var .Rn 4,
      .fixed 0b0#1, .var .imm 3, .var .Rd 4, .var .imm 8],
    extend := [(.imm, "thumb_expand_imm")], priority := 2 },
  { name := "eor", variantName := "eor_reg_T1", variant := .eorRegT1,
    bits := [.fixed 0b010000#6, .fixed 0b0001#4, .var .Rm 3, .var .Rdn 3] },
  { name := "eor", variantName := "eor_reg_T2", variant := .eorRegT2,
    bits := [
      .fixed 0b11101#5, .fixed 0b01#2, .fixed 0b0100#4, .var .S 1, .var .Rn 4, .fixed 0b0#1,
      .var .imm 3, .var .Rd 4, .var .imm 2, .var .type 2, .var .Rm 4],
    priority := 2 },
  { name := "isb", variantName := "isb_T1", variant := .isbT1,
    bits := [
      .fixed 0b11110#5, .fixed 0b0#1, .fixed 0b111#3, .fixed 0b01#2, .fixed 0b1#1,
      .dontcare 0b1111#4, .fixed 0b10#2, .dontcare 0b0#1, .fixed 0b0#1, .dontcare 0b1111#4,
      .fixed 0b0110#4, .var .option 4],
    priority := 5 },
  { name := "it", variantName := "it_T1", variant := .itT1,
    bits := [.fixed 0b1011#4, .fixed 0b1111#4, .var .firstcond 4, .var .mask 4],
    priority := 2 }]
