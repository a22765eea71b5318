import Thumb2Sim.Emulation.DataProcessing
import Thumb2Sim.Emulation.Theorems.Plain

open Program

namespace Guarded

variable {U : Type} {g : Guard} {Rd Rn Rm Rmx Rdn Rdm RdLo RdHi : RegNo} {S : Bool}
  {overflow : SignedOverflow}

section

variable {l : List RegNo} {op : Word → Word → Word} {operand : Emu U Word} {type imm : Byte}

theorem arithmetic {setCondCode : Word → Word → Emu U Unit} (h : Allowed g.pc [Rd])
    (hs : ∀ x y, Guarded g (setCondCode x y)) (ho : Guarded g operand) :
    Guarded g (Emu.arithmetic setCondCode op Rd Rn operand) :=
  bind getReg fun _ => bind ho fun _ => bind (hs _ _) fun _ =>
    bind getReg fun _ => bind ho fun _ => setReg h (by simp)

variable {setCondCode : Word → Emu U Unit}

theorem logical (h : Allowed g.pc [Rd]) (hs : ∀ x, Guarded g (setCondCode x))
    (ho : Guarded g operand) : Guarded g (Emu.logical setCondCode op Rd Rn operand) :=
  bind getReg fun _ => bind ho fun _ => bind (setReg h (by simp)) fun _ =>
    bind getReg fun _ => hs _

theorem move (h : Allowed g.pc [Rd]) (hs : ∀ x, Guarded g (setCondCode x))
    (ho : Guarded g operand) : Guarded g (Emu.move setCondCode Rd operand) :=
  bind ho fun _ => bind (setReg h (by simp)) fun _ => bind getReg fun _ => hs _

theorem shiftReg : Guarded (U := U) g (Emu.shiftReg Rm type imm) :=
  bind getReg fun _ => checked

theorem logicalShifted (hs : ∀ x, Guarded g (setCondCode x)) :
    Guarded g (if Rd ≠ regPc then do
      let bsOut ← Emu.shiftReg Rm type imm
      Emu.logical setCondCode op Rd Rn (Pure.pure bsOut.value) else Pure.pure ()) :=
  Composite.ite (fun hr => bind shiftReg fun _ => logical (.of_ne hr) hs pure) fun _ => pure

end

-- Addition and subtraction.

theorem i32AdcImmT1 (hf : S → g.AllowsFlags true) (h : Allowed g.pc [Rd]) :
    Guarded (U := U) g (Emulation.i32AdcImmT1 Rd Rn imm S) :=
  bind getPsr fun _ =>
    bind (Composite.when fun hs => bind getReg fun _ => setAddCondCode (hf hs)) fun _ =>
    bind getReg fun _ => setReg h (by simp)

theorem i32AdcRegT2 (hf : S → g.AllowsFlags true) (h : Allowed g.pc [Rd]) :
    Guarded (U := U) g (Emulation.i32AdcRegT2 Rd Rn Rm imm type S) :=
  bind shiftReg fun _ => bind getPsr fun _ =>
    bind (Composite.when fun hs => bind getReg fun _ => setAddCondCode (hf hs)) fun _ =>
    bind getReg fun _ => setReg h (by simp)

theorem i16AddSPiT1 (h : Allowed g.pc [Rd]) : Guarded (U := U) g (Emulation.i16AddSPiT1 Rd imm) :=
  bind getReg fun _ => setReg h (by simp)

theorem i16AddSPiT2 : Guarded (U := U) g (Emulation.i16AddSPiT2 imm) :=
  bind getReg fun _ => setReg_ne (by decide)

theorem i32AddSPiT3 (hf : S → g.AllowsFlags true) (h : Allowed g.pc [Rd]) :
    Guarded (U := U) g (Emulation.i32AddSPiT3 Rd imm S) :=
  arithmetic h (fun _ _ => whenAdd hf) pure

theorem i16AddSPrT1 (h : Allowed g.pc [Rdm]) : Guarded (U := U) g (Emulation.i16AddSPrT1 Rdm) :=
  bind getReg fun _ => bind getReg fun _ => setReg h (by simp)

theorem i32AddSPrT3 (hf : S → g.AllowsFlags true) (h : Allowed g.pc [Rd]) :
    Guarded (U := U) g (Emulation.i32AddSPrT3 Rd Rm imm type S) :=
  bind shiftReg fun _ => arithmetic h (fun _ _ => whenAdd hf) pure

theorem i16AddImmT1 (hf : g.AllowsFlags false) (h : Allowed g.pc [Rd]) :
    Guarded (U := U) g (Emulation.i16AddImmT1 Rd Rn imm) :=
  arithmetic h (fun _ _ => setAddCondCode hf) pure

theorem i16AddImmT2 (hf : g.AllowsFlags false) (h : Allowed g.pc [Rdn]) :
    Guarded (U := U) g (Emulation.i16AddImmT2 Rdn imm) :=
  arithmetic h (fun _ _ => setAddCondCode hf) pure

theorem i32AddImmT3 (hf : S → g.AllowsFlags true) (h : Allowed g.pc [Rd]) :
    Guarded (U := U) g (Emulation.i32AddImmT3 Rd Rn imm S) :=
  arithmetic h (fun _ _ => whenAdd hf) pure

theorem i16AddRegT1 (hf : g.AllowsFlags false) (h : Allowed g.pc [Rd]) :
    Guarded (U := U) g (Emulation.i16AddRegT1 Rd Rn Rm) :=
  arithmetic h (fun _ _ => setAddCondCode hf) getReg

theorem i16AddRegT2 (h : Allowed g.pc [Rdn]) : Guarded (U := U) g (Emulation.i16AddRegT2 Rdn Rm) :=
  bind getReg fun _ => bind getReg fun _ => setReg h (by simp)

theorem i32AddRegT3 (hf : S → g.AllowsFlags true) (h : Allowed g.pc [Rd]) :
    Guarded (U := U) g (Emulation.i32AddRegT3 Rd Rn Rm imm type S) :=
  bind shiftReg fun _ => arithmetic h (fun _ _ => whenAdd hf) pure

theorem i32RsbImmT2 (hf : S → g.AllowsFlags true) (h : Allowed g.pc [Rd]) :
    Guarded (U := U) g (Emulation.i32RsbImmT2 overflow Rd Rn imm S) :=
  arithmetic h (fun _ _ => whenSub hf) pure

theorem i32RsbRegT1 (hf : S → g.AllowsFlags true) (h : Allowed g.pc [Rd]) :
    Guarded (U := U) g (Emulation.i32RsbRegT1 overflow Rd Rn Rm imm type S) :=
  bind shiftReg fun _ => arithmetic h (fun _ _ => whenSub hf) pure

theorem i16SubSPimmT1 : Guarded (U := U) g (Emulation.i16SubSPimmT1 imm) :=
  bind getReg fun _ => setReg_ne (by decide)

theorem i16SubImmT1 (hf : g.AllowsFlags false) (h : Allowed g.pc [Rd]) :
    Guarded (U := U) g (Emulation.i16SubImmT1 overflow Rd Rn imm) :=
  arithmetic h (fun _ _ => setSubCondCode hf) pure

theorem i16SubImmT2 (hf : g.AllowsFlags false) (h : Allowed g.pc [Rdn]) :
    Guarded (U := U) g (Emulation.i16SubImmT2 overflow Rdn imm) :=
  arithmetic h (fun _ _ => setSubCondCode hf) pure

theorem i32SubImmT3 (hf : S → g.AllowsFlags true) (h : Allowed g.pc [Rd]) :
    Guarded (U := U) g (Emulation.i32SubImmT3 overflow Rd Rn imm S) :=
  arithmetic h (fun _ _ => whenSub hf) pure

theorem i32SubImmT4 (hf : g.AllowsFlags false) (h : Allowed g.pc [Rd]) :
    Guarded (U := U) g (Emulation.i32SubImmT4 overflow Rd Rn imm) :=
  arithmetic h (fun _ _ => setSubCondCode hf) pure

theorem i16SubRegT1 (hf : g.AllowsFlags false) (h : Allowed g.pc [Rd]) :
    Guarded (U := U) g (Emulation.i16SubRegT1 overflow Rd Rn Rm) :=
  arithmetic h (fun _ _ => setSubCondCode hf) getReg

theorem i32SubRegT2 (hf : S → g.AllowsFlags true) (h : Allowed g.pc [Rd]) :
    Guarded (U := U) g (Emulation.i32SubRegT2 overflow Rd Rn Rm imm type S) :=
  bind shiftReg fun _ => arithmetic h (fun _ _ => whenSub hf) pure

-- Comparisons and tests.

theorem i16CmpImmT1 (hf : g.AllowsFlags true) :
    Guarded (U := U) g (Emulation.i16CmpImmT1 overflow Rn imm) :=
  bind getReg fun _ => setSubCondCode hf

theorem i32CmpImmT2 (hf : g.AllowsFlags true) :
    Guarded (U := U) g (Emulation.i32CmpImmT2 overflow Rn imm) :=
  bind getReg fun _ => setSubCondCode hf

theorem i16CmpRegT1 (hf : g.AllowsFlags true) :
    Guarded (U := U) g (Emulation.i16CmpRegT1 overflow Rn Rm) :=
  bind getReg fun _ => bind getReg fun _ => setSubCondCode hf

theorem i16CmpRegT2 (hf : g.AllowsFlags true) :
    Guarded (U := U) g (Emulation.i16CmpRegT2 overflow Rn Rm) :=
  bind getReg fun _ => bind getReg fun _ => setSubCondCode hf

theorem i32TstImmT1 : Guarded (U := U) g (Emulation.i32TstImmT1 Rn imm) :=
  bind getReg fun _ => setMovCondCode

theorem i16TstRegT1 : Guarded (U := U) g (Emulation.i16TstRegT1 Rn Rm) :=
  bind getReg fun _ => bind getReg fun _ => setMovCondCode

-- Bitwise operations.

theorem i32AndImmT1 (h : Allowed g.pc (if S then [] else [Rd])) :
    Guarded (U := U) g (Emulation.i32AndImmT1 Rd Rn imm S) := by
  refine Composite.ite (fun _ => bind getReg fun _ => setMovCondCode) fun hn => ?_
  refine logical ?_ (fun _ => when setMovCondCode) pure
  cases S
  case false => exact h
  case true  => exact .of_ne fun hr => hn ⟨hr, rfl⟩

theorem i16AndRegT1 (h : Allowed g.pc [Rdn]) : Guarded (U := U) g (Emulation.i16AndRegT1 Rdn Rm) :=
  logical h (fun _ => setMovCondCode) getReg

theorem i32AndRegT2 : Guarded (U := U) g (Emulation.i32AndRegT2 Rd Rn Rm imm type S) :=
  logicalShifted fun _ => when setMovCondCode

theorem i32BicImmT1 (h : Allowed g.pc [Rd]) :
    Guarded (U := U) g (Emulation.i32BicImmT1 Rd Rn imm S) :=
  logical h (fun _ => when setMovCondCode) pure

theorem i32BicRegT2 : Guarded (U := U) g (Emulation.i32BicRegT2 Rd Rn Rm imm type S) :=
  logicalShifted fun _ => when setMovCondCode

theorem i32EorImmT1 (h : Allowed g.pc [Rd]) :
    Guarded (U := U) g (Emulation.i32EorImmT1 Rd Rn imm S) :=
  logical h (fun _ => when setMovCondCode) pure

theorem i16EorRegT1 (h : Allowed g.pc [Rdn]) : Guarded (U := U) g (Emulation.i16EorRegT1 Rdn Rm) :=
  logical h (fun _ => setMovCondCode) getReg

theorem i32EorRegT2 : Guarded (U := U) g (Emulation.i32EorRegT2 Rd Rn Rm imm type S) :=
  logicalShifted fun _ => when setMovCondCode

theorem i32OrnRegT1 (h : Allowed g.pc [Rd]) :
    Guarded (U := U) g (Emulation.i32OrnRegT1 Rd Rn Rm imm type S) :=
  bind shiftReg fun _ => logical h (fun _ => when setMovCondCode) pure

theorem i32OrrImmT1 (h : Allowed g.pc [Rd]) :
    Guarded (U := U) g (Emulation.i32OrrImmT1 Rd Rn imm S) :=
  logical h (fun _ => when setMovCondCode) pure

theorem i16OrrRegT1 (h : Allowed g.pc [Rdn]) : Guarded (U := U) g (Emulation.i16OrrRegT1 Rdn Rm) :=
  logical h (fun _ => setMovCondCode) getReg

theorem i32OrrRegT2 (h : Allowed g.pc [Rd]) :
    Guarded (U := U) g (Emulation.i32OrrRegT2 Rd Rn Rm imm type S) :=
  bind shiftReg fun _ =>
    ite (logical h (fun _ => when setLslCondCode) pure) (move h (fun _ => when setLslCondCode) pure)

-- Moves.

theorem i16MovImmT1 (h : Allowed g.pc [Rd]) : Guarded (U := U) g (Emulation.i16MovImmT1 Rd imm) :=
  when <| bind (setReg h (by simp)) fun _ => setMovCondCode

theorem i32MovImmT2 (h : Allowed g.pc [Rd]) :
    Guarded (U := U) g (Emulation.i32MovImmT2 Rd imm S) :=
  bind (setReg h (by simp)) fun _ => when setMovCondCode

theorem i32MovImmT3 (h : Allowed g.pc [Rd]) : Guarded (U := U) g (Emulation.i32MovImmT3 Rd imm) :=
  setReg h (by simp)

theorem i16MovRegT1 (h : Allowed g.pc [Rd]) : Guarded (U := U) g (Emulation.i16MovRegT1 Rd Rm) :=
  bind getReg fun _ => bind (setReg h (by simp)) fun _ =>
    when <| bind getReg fun _ => setReg h (by simp)

theorem i16MovRegT2 (h : Allowed g.pc [Rd]) : Guarded (U := U) g (Emulation.i16MovRegT2 Rd Rm) :=
  bind getReg fun _ => setReg h (by simp)

theorem i32MovtT1 (h : Allowed g.pc [Rd]) : Guarded (U := U) g (Emulation.i32MovtT1 Rd imm) :=
  bind getReg fun _ => bind (setReg h (by simp)) fun _ =>
    bind getReg fun _ => setReg h (by simp)

theorem i32MvnImmT1 (h : Allowed g.pc [Rd]) :
    Guarded (U := U) g (Emulation.i32MvnImmT1 Rd imm S) :=
  bind (setReg h (by simp)) fun _ => when setMovCondCode

theorem i16MvnRegT1 (h : Allowed g.pc [Rd]) : Guarded (U := U) g (Emulation.i16MvnRegT1 Rd Rm) :=
  move h (fun _ => setMovCondCode) (bind getReg fun _ => pure)

theorem i32MvnRegT2 (h : Allowed g.pc [Rd]) :
    Guarded (U := U) g (Emulation.i32MvnRegT2 Rd Rm imm type S) :=
  bind shiftReg fun _ => move h (fun _ => when setMovCondCode) pure

-- Shifts.

theorem i16AsrImmT1 (h : Allowed g.pc [Rd]) :
    Guarded (U := U) g (Emulation.i16AsrImmT1 Rd Rm imm) :=
  bind getReg fun _ => bind checked fun _ => bind getReg fun _ => bind checked fun _ =>
    bind (setReg h (by simp)) fun _ => bind getReg fun _ => setLslCondCode

theorem i16LslImmT1 (h : Allowed g.pc [Rd]) :
    Guarded (U := U) g (Emulation.i16LslImmT1 Rd Rm imm) :=
  bind getReg fun _ => bind checked fun _ => bind getReg fun _ => bind checked fun _ =>
    bind (setReg h (by simp)) fun _ => bind getReg fun _ => setLslCondCode

theorem i32LslImmT2 (h : Allowed g.pc [Rd]) :
    Guarded (U := U) g (Emulation.i32LslImmT2 Rd Rm imm S) :=
  bind shiftReg fun _ => move h (fun _ => when setLslCondCode) pure

theorem i16LslRegT1 (h : Allowed g.pc [Rdn]) : Guarded (U := U) g (Emulation.i16LslRegT1 Rdn Rm) :=
  bind getReg fun _ => bind shiftReg fun _ => move h (fun _ => setLslCondCode) pure

theorem i32LslRegT2 (h : Allowed g.pc [Rd]) :
    Guarded (U := U) g (Emulation.i32LslRegT2 Rd Rn Rm S) :=
  bind getReg fun _ => bind shiftReg fun _ => move h (fun _ => when setLslCondCode) pure

theorem i16LsrImmT1 (h : Allowed g.pc [Rd]) :
    Guarded (U := U) g (Emulation.i16LsrImmT1 Rd Rm imm) :=
  bind getReg fun _ => bind checked fun _ => bind getReg fun _ => bind checked fun _ =>
    bind (setReg h (by simp)) fun _ => bind getReg fun _ => setLslCondCode

theorem i32LsrImmT2 (h : Allowed g.pc [Rd]) :
    Guarded (U := U) g (Emulation.i32LsrImmT2 Rd Rm imm S) :=
  bind getReg fun _ => bind checked fun _ => bind getReg fun _ => bind checked fun _ =>
    bind (setReg h (by simp)) fun _ => when <| bind getReg fun _ => setLslCondCode

theorem i16LsrRegT1 (h : Allowed g.pc [Rdn]) : Guarded (U := U) g (Emulation.i16LsrRegT1 Rdn Rm) :=
  bind getReg fun _ => bind getReg fun _ => bind checked fun _ => bind checked fun _ =>
    bind (setReg h (by simp)) fun _ => bind getReg fun _ => setLslCondCode

theorem i32LsrRegT2 (h : Allowed g.pc [Rd]) :
    Guarded (U := U) g (Emulation.i32LsrRegT2 Rd Rn Rm S) :=
  bind getReg fun _ => bind getReg fun _ => bind checked fun _ => bind checked fun _ =>
    bind (setReg h (by simp)) fun _ => when <| bind getReg fun _ => setLslCondCode

theorem i32RorImmT1 (h : Allowed g.pc [Rd]) :
    Guarded (U := U) g (Emulation.i32RorImmT1 Rd Rm imm S) :=
  bind shiftReg fun _ => move h (fun _ => when setLslCondCode) pure

-- Bit fields and extensions.

theorem i32BfiT1 (h : Allowed g.pc [Rd]) : Guarded (U := U) g (Emulation.i32BfiT1 Rd Rn imm msb) :=
  bind checked fun _ => bind checked fun _ => bind getReg fun _ =>
    bind (setReg h (by simp)) fun _ => bind getReg fun _ => bind checked fun _ =>
    bind getReg fun _ => setReg h (by simp)

theorem i32UbfxT1 (h : Allowed g.pc [Rd]) :
    Guarded (U := U) g (Emulation.i32UbfxT1 Rd Rn imm width) :=
  bind getReg fun _ => bind checked fun _ => bind checked fun _ => setReg h (by simp)

theorem i32ClzT1 (h : Allowed g.pc [Rd]) : Guarded (U := U) g (Emulation.i32ClzT1 Rd Rm Rmx) :=
  bind getReg fun _ => setReg h (by simp)

theorem i16SxtbT1 (h : Allowed g.pc [Rd]) : Guarded (U := U) g (Emulation.i16SxtbT1 Rd Rm) :=
  bind getReg fun _ => setReg h (by simp)

theorem i16UxtbT1 (h : Allowed g.pc [Rd]) : Guarded (U := U) g (Emulation.i16UxtbT1 Rd Rm) :=
  bind getReg fun _ => setReg h (by simp)

theorem i32UxtbT2 (h : Allowed g.pc (if rotate = 0 then [Rd] else [])) :
    Guarded (U := U) g (Emulation.i32UxtbT2 Rd Rm rotate) :=
  Composite.ite
    (fun hr => bind getReg fun _ => bind checked fun _ => setReg h <| by rw [if_pos hr]; simp)
    fun _ => pure

theorem i16UxthT1 (h : Allowed g.pc [Rd]) : Guarded (U := U) g (Emulation.i16UxthT1 Rd Rm) :=
  bind getReg fun _ => setReg h (by simp)

-- Multiplication and division.

theorem i32MulT2 (h : Allowed g.pc [Rd]) : Guarded (U := U) g (Emulation.i32MulT2 Rd Rn Rm) :=
  bind getReg fun _ => bind getReg fun _ => setReg h (by simp)

theorem i32SdivT1 (h : Allowed g.pc [Rd]) : Guarded (U := U) g (Emulation.i32SdivT1 Rd Rn Rm) :=
  bind getReg fun _ => ite (setReg h (by simp)) <|
    bind getReg fun _ => bind getReg fun _ => bind checked fun _ => setReg h (by simp)

theorem i32UmullT1 (h : Allowed g.pc [RdLo, RdHi]) :
    Guarded (U := U) g (Emulation.i32UmullT1 Rn Rm RdLo RdHi) :=
  bind getReg fun _ => bind getReg fun _ => bind (setReg h (by simp)) fun _ =>
    setReg h (by simp)

end Guarded
