import Thumb2Sim.Emulation.Callbacks
import Thumb2Sim.Emulation.Theorems.Control
import Thumb2Sim.Emulation.Theorems.DataProcessing
import Thumb2Sim.Emulation.Theorems.LoadStore

-- The registers into which a handler stores data as it is. The handlers that load PC from a list of
-- registers or branch to the content of a register are not among them, since they clear bit 0.
def destinations (variant : Variant) (a : Args) : List RegNo :=
  match variant with
  | .adcImmT1 | .adcRegT2 | .addSPiT1 | .addSPiT3 | .addSPrT3 | .addImmT1 | .addImmT3 | .addRegT1
  | .addRegT3 | .rsbImmT2 | .rsbRegT1 | .subImmT1 | .subImmT3 | .subImmT4 | .subRegT1 | .subRegT2
  | .bicImmT1 | .eorImmT1 | .ornRegT1 | .orrImmT1 | .orrRegT2 | .movImmT1 | .movImmT2 | .movImmT3
  | .movRegT1 | .movRegT2 | .movtT1 | .mvnImmT1 | .mvnRegT1 | .mvnRegT2 | .asrImmT1 | .lslImmT1
  | .lslImmT2 | .lslRegT2 | .lsrImmT1 | .lsrImmT2 | .lsrRegT2 | .rorImmT1 | .bfiT1 | .ubfxT1
  | .clzT1 | .sxtbT1 | .uxtbT1 | .uxthT1 | .mulT2 | .sdivT1 =>
    [a.uint8 .Rd]
  | .addSPrT1 =>
    [a.uint8 .Rdm]
  | .addImmT2 | .addRegT2 | .subImmT2 | .andRegT1 | .eorRegT1 | .orrRegT1 | .lslRegT1 | .lsrRegT1 =>
    [a.uint8 .Rdn]
  | .andImmT1 =>
    if a.bool .S then [] else [a.uint8 .Rd]
  | .uxtbT2 =>
    if a.uint8 .rotate = 0 then [a.uint8 .Rd] else []
  | .umullT1 =>
    [a.uint8 .RdLo, a.uint8 .RdHi]
  | .ldrImmT1 | .ldrImmT2 | .ldrImmT3 | .ldrLitT1 | .ldrLitT2 | .ldrRegT1 | .ldrRegT2 | .ldrbImmT1
  | .ldrbImmT2 | .ldrbRegT1 | .ldrbRegT2 | .ldrhImmT1 | .ldrhImmT2 =>
    [a.uint8 .Rt]
  | .ldrImmT4 | .ldrbImmT3 =>
    [a.uint8 .Rt] ++ writebackDest (a.uint8 .Rn) ((a.uint8 .imm).setWidth 32) (a.bool .W)
  | .ldrdImmT1 =>
    [a.uint8 .Rt, a.uint8 .Rtx]
  | .strImmT4 | .strbImmT3 =>
    writebackDest (a.uint8 .Rn) ((a.uint8 .imm).setWidth 32) (a.bool .W)
  | _ => []

-- Whether a handler replaces all flags by the condition code of an addition or a subtraction, be it
-- always or only outside of an IT block.
def replacesFlags (variant : Variant) (a : Args) : Option Bool :=
  match variant with
  | .adcImmT1 | .adcRegT2 | .addSPiT3 | .addSPrT3 | .addImmT3 | .addRegT3 | .rsbImmT2 | .rsbRegT1
  | .subImmT3 | .subRegT2 =>
    if a.bool .S then some true else none
  | .addImmT1 | .addImmT2 | .addRegT1 | .subImmT1 | .subImmT2 | .subImmT4 | .subRegT1 =>
    some false
  | .cmpImmT1 | .cmpImmT2 | .cmpRegT1 | .cmpRegT2 =>
    some true
  | _ => none

variable {U : Type} {g : Guard} {good : Word → Prop} {host : Callbacks U} {v : Variant} {a : Args}
  {handler : Args → Emu U Unit}

-- All handlers but two are put together from the operations on the registers and the memory. The
-- two exceptions start an IT block and call the host.
theorem Guarded.emulationCallbacks (hg : Stable g.pc) (hi : v ≠ .itT1) (hb : v ≠ .bkptT1)
    (hh : emulationCallbacks host v = some handler) (h : Allowed g.pc (destinations v a))
    (hf : ∀ b, replacesFlags v a = some b → g.AllowsFlags b) (hm : v = .msrT1 → ∀ p, g.psr p) :
    Guarded g (handler a) := by
  cases v
  case adcImmT1 => cases hh; exact .i32AdcImmT1 (fun hs => hf true <| if_pos hs) h
  case adcRegT2 => cases hh; exact .i32AdcRegT2 (fun hs => hf true <| if_pos hs) h
  case addSPiT1 => cases hh; exact .i16AddSPiT1 h
  case addSPiT2 => cases hh; exact .i16AddSPiT2
  case addSPiT3 => cases hh; exact .i32AddSPiT3 (fun hs => hf true <| if_pos hs) h
  case addSPrT1 => cases hh; exact .i16AddSPrT1 h
  case addSPrT3 => cases hh; exact .i32AddSPrT3 (fun hs => hf true <| if_pos hs) h
  case addImmT1 => cases hh; exact .i16AddImmT1 (hf false rfl) h
  case addImmT2 => cases hh; exact .i16AddImmT2 (hf false rfl) h
  case addImmT3 => cases hh; exact .i32AddImmT3 (fun hs => hf true <| if_pos hs) h
  case addRegT1 => cases hh; exact .i16AddRegT1 (hf false rfl) h
  case addRegT2 => cases hh; exact .i16AddRegT2 h
  case addRegT3 => cases hh; exact .i32AddRegT3 (fun hs => hf true <| if_pos hs) h
  case rsbImmT2 => cases hh; exact .i32RsbImmT2 (fun hs => hf true <| if_pos hs) h
  case rsbRegT1 => cases hh; exact .i32RsbRegT1 (fun hs => hf true <| if_pos hs) h
  case subSPimmT1 => cases hh; exact .i16SubSPimmT1
  case subImmT1 => cases hh; exact .i16SubImmT1 (hf false rfl) h
  case subImmT2 => cases hh; exact .i16SubImmT2 (hf false rfl) h
  case subImmT3 => cases hh; exact .i32SubImmT3 (fun hs => hf true <| if_pos hs) h
  case subImmT4 => cases hh; exact .i32SubImmT4 (hf false rfl) h
  case subRegT1 => cases hh; exact .i16SubRegT1 (hf false rfl) h
  case subRegT2 => cases hh; exact .i32SubRegT2 (fun hs => hf true <| if_pos hs) h
  case cmpImmT1 => cases hh; exact .i16CmpImmT1 (hf true rfl)
  case cmpImmT2 => cases hh; exact .i32CmpImmT2 (hf true rfl)
  case cmpRegT1 => cases hh; exact .i16CmpRegT1 (hf true rfl)
  case cmpRegT2 => cases hh; exact .i16CmpRegT2 (hf true rfl)
  case tstImmT1 => cases hh; exact .i32TstImmT1
  case tstRegT1 => cases hh; exact .i16TstRegT1
  case andImmT1 => cases hh; exact .i32AndImmT1 h
  case andRegT1 => cases hh; exact .i16AndRegT1 h
  case andRegT2 => cases hh; exact .i32AndRegT2
  case bicImmT1 => cases hh; exact .i32BicImmT1 h
  case bicRegT2 => cases hh; exact .i32BicRegT2
  case eorImmT1 => cases hh; exact .i32EorImmT1 h
  case eorRegT1 => cases hh; exact .i16EorRegT1 h
  case eorRegT2 => cases hh; exact .i32EorRegT2
  case ornRegT1 => cases hh; exact .i32OrnRegT1 h
  case orrImmT1 => cases hh; exact .i32OrrImmT1 h
  case orrRegT1 => cases hh; exact .i16OrrRegT1 h
  case orrRegT2 => cases hh; exact .i32OrrRegT2 h
  case movImmT1 => cases hh; exact .i16MovImmT1 h
  case movImmT2 => cases hh; exact .i32MovImmT2 h
  case movImmT3 => cases hh; exact .i32MovImmT3 h
  case movRegT1 => cases hh; exact .i16MovRegT1 h
  case movRegT2 => cases hh; exact .i16MovRegT2 h
  case movtT1 => cases hh; exact .i32MovtT1 h
  case mvnImmT1 => cases hh; exact .i32MvnImmT1 h
  case mvnRegT1 => cases hh; exact .i16MvnRegT1 h
  case mvnRegT2 => cases hh; exact .i32MvnRegT2 h
  case asrImmT1 => cases hh; exact .i16AsrImmT1 h
  case lslImmT1 => cases hh; exact .i16LslImmT1 h
  case lslImmT2 => cases hh; exact .i32LslImmT2 h
  case lslRegT1 => cases hh; exact .i16LslRegT1 h
  case lslRegT2 => cases hh; exact .i32LslRegT2 h
  case lsrImmT1 => cases hh; exact .i16LsrImmT1 h
  case lsrImmT2 => cases hh; exact .i32LsrImmT2 h
  case lsrRegT1 => cases hh; exact .i16LsrRegT1 h
  case lsrRegT2 => cases hh; exact .i32LsrRegT2 h
  case rorImmT1 => cases hh; exact .i32RorImmT1 h
  case bfiT1 => cases hh; exact .i32BfiT1 h
  case ubfxT1 => cases hh; exact .i32UbfxT1 h
  case clzT1 => cases hh; exact .i32ClzT1 h
  case sxtbT1 => cases hh; exact .i16SxtbT1 h
  case uxtbT1 => cases hh; exact .i16UxtbT1 h
  case uxtbT2 => cases hh; exact .i32UxtbT2 h
  case uxthT1 => cases hh; exact .i16UxthT1 h
  case mulT2 => cases hh; exact .i32MulT2 h
  case sdivT1 => cases hh; exact .i32SdivT1 h
  case umullT1 => cases hh; exact .i32UmullT1 h
  case ldrImmT1 => cases hh; exact .i16LdrImmT1 h
  case ldrImmT2 => cases hh; exact .i16LdrImmT2 h
  case ldrImmT3 => cases hh; exact .i32LdrImmT3 h
  case ldrImmT4 => cases hh; exact .i32LdrImmT4 hg h
  case ldrLitT1 => cases hh; exact .i16LdrLitT1 h
  case ldrLitT2 => cases hh; exact .i32LdrLitT2 h
  case ldrRegT1 => cases hh; exact .i16LdrRegT1 h
  case ldrRegT2 => cases hh; exact .i32LdrRegT2 h
  case ldrbImmT1 => cases hh; exact .i16LdrbImmT1 h
  case ldrbImmT2 => cases hh; exact .i32LdrbImmT2 h
  case ldrbImmT3 => cases hh; exact .i32LdrbImmT3 hg h
  case ldrbRegT1 => cases hh; exact .i16LdrbRegT1 h
  case ldrbRegT2 => cases hh; exact .i32LdrbRegT2 h
  case ldrdImmT1 => cases hh; exact .i32LdrdImmT1 hg h
  case ldrhImmT1 => cases hh; exact .i16LdrhImmT1 h
  case ldrhImmT2 => cases hh; exact .i32LdrhImmT2 h
  case strImmT1 => cases hh; exact .i16StrImmT1
  case strImmT2 => cases hh; exact .i16StrImmT2
  case strImmT3 => cases hh; exact .i32StrImmT3
  case strImmT4 => cases hh; exact .i32StrImmT4 hg h
  case strRegT1 => cases hh; exact .i16StrRegT1
  case strRegT2 => cases hh; exact .i32StrRegT2
  case strbImmT1 => cases hh; exact .i16StrbImmT1
  case strbImmT2 => cases hh; exact .i32StrbImmT2
  case strbImmT3 => cases hh; exact .i32StrbImmT3 hg h
  case strbRegT1 => cases hh; exact .i16StrbRegT1
  case strbRegT2 => cases hh; exact .i32StrbRegT2
  case strdImmT1 => cases hh; exact .i32StrdImmT1 hg
  case strhImmT1 => cases hh; exact .i16StrhImmT1
  case strhImmT2 => cases hh; exact .i32StrhImmT2
  case ldmT1 => cases hh; exact .i16LdmT1 hg
  case ldmT2 => cases hh; exact .i32LdmT2 hg
  case popT1 => cases hh; exact .i16PopT1 hg
  case popT2 => cases hh; exact .i32PopT2 hg
  case popT3 => cases hh; exact .i32PopT3 hg
  case pushT1 => cases hh; exact .i16PushT1 hg
  case pushT2 => cases hh; exact .i32PushT2 hg
  case stmT1 => cases hh; exact .i16StmT1 hg
  case stmT2 => cases hh; exact .i32StmT2 hg
  case stmdbT1 => cases hh; exact .i32StmdbT1 hg
  case bT1 => cases hh; exact .i16BT1 hg
  case bT2 => cases hh; exact .i16BT2 hg
  case bT3 => cases hh; exact .i32BT3 hg
  case bT4 => cases hh; exact .i32BT4 hg
  case blT1 => cases hh; exact .i32BlT1 hg
  case bxT1 => cases hh; exact .i16BxT1 hg
  case cbnzT1 => cases hh; exact .i16CbnzT1 hg
  case tbbT1 => cases hh; exact .i32TbbT1 hg
  case msrT1 => cases hh; exact .i32MsrT1 (hm rfl)
  case nopT1 => cases hh; exact .pure
  case nopT2 => cases hh; exact .pure
  case itT1   => exact absurd rfl hi
  case bkptT1 => exact absurd rfl hb
  all_goals cases hh
  all_goals exact .pure

theorem Plain.emulationCallbacks (hg : Stable good) (hi : v ≠ .itT1) (hb : v ≠ .bkptT1)
    (hh : emulationCallbacks host v = some handler) (h : Allowed good (destinations v a)) :
    Plain good (handler a) :=
  Guarded.plain <| .emulationCallbacks hg hi hb hh h (fun _ _ _ _ _ _ _ _ => trivial)
    fun _ _ => trivial
