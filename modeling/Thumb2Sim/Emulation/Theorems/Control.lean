import Thumb2Sim.Emulation.Control
import Thumb2Sim.Emulation.Theorems.Plain

open Program

-- A branch moves PC by an even number of bytes.
theorem relativeBranchTarget_eq {pc imm v : Word} {bits : Byte}
    (h : relativeBranchTarget pc imm bits = .ok v) : ∃ x, v = pc + 2 * x := by
  simp only [relativeBranchTarget, bind, Except.bind] at h
  split at h
  case h_1 => cases h
  case h_2 c _ =>
    split at h
    case isTrue =>
      split at h
      case h_1 => cases h
      case h_2 d _ =>
        cases h
        exact ⟨2 - (d - imm), by bv_omega⟩
    case isFalse =>
      cases h
      exact ⟨imm + 2, by bv_omega⟩

namespace Guarded

variable {U : Type} {g : Guard} {Rm Rn : RegNo}

theorem branch {target : Word → Except Undefined Word} (hg : Stable g.pc)
    (ht : ∀ pc v, target pc = .ok v → ∃ x, v = pc + 2 * x) :
    Guarded (U := U) g (Emu.branch target) := by
  refine Composite.bind (.prim <| .getReg regPc) fun pc hpc => ?_
  refine Composite.bind (.prim <| .checked _) fun v hv => ?_
  have ⟨x, hx⟩ := ht pc v hv
  exact bind (setReg_good <| hx ▸ hg.add pc x (hpc rfl)) fun _ => setAdvancePc

theorem branchBy (hg : Stable g.pc) {imm : Word} : Guarded (U := U) g (Emu.branchBy imm) := by
  refine branch hg fun pc v hv => ⟨imm + 2, ?_⟩
  cases hv
  bv_omega

theorem i16BT1 {imm cond : Byte} (hg : Stable g.pc) :
    Guarded (U := U) g (Emulation.i16BT1 imm cond) :=
  bind getPsr fun _ => when <| branch hg fun _ _ => relativeBranchTarget_eq

theorem i16BT2 (hg : Stable g.pc) : Guarded (U := U) g (Emulation.i16BT2 imm) :=
  branch hg fun _ _ => relativeBranchTarget_eq

theorem i32BT3 {imm : Word} {cond : Byte} (hg : Stable g.pc) :
    Guarded (U := U) g (Emulation.i32BT3 imm cond) :=
  bind getPsr fun _ => when <| branchBy hg

theorem i32BT4 (hg : Stable g.pc) : Guarded (U := U) g (Emulation.i32BT4 imm) :=
  branchBy hg

theorem i32BlT1 (hg : Stable g.pc) : Guarded (U := U) g (Emulation.i32BlT1 imm) :=
  bind getReg fun _ => bind (setReg_ne (by decide)) fun _ => branchBy hg

theorem i16BxT1 (hg : Stable g.pc) : Guarded (U := U) g (Emulation.i16BxT1 Rm) :=
  bind getReg fun v => bind (setReg_good <| hg.clear v) fun _ => setAdvancePc

theorem i16CbnzT1 (hg : Stable g.pc) : Guarded (U := U) g (Emulation.i16CbnzT1 Rn imm op) :=
  bind getReg fun _ => when <| branch hg fun _ _ => relativeBranchTarget_eq

theorem i32TbbT1 (hg : Stable g.pc) : Guarded (U := U) g (Emulation.i32TbbT1 Rn Rm H) := by
  refine bind setAdvancePc fun _ => ?_
  refine Composite.bind (.prim <| .getReg regPc) fun pc hpc => ?_
  refine bind (setReg_good <| hg.add_four <| hpc rfl) fun _ => when ?_
  refine bind getReg fun _ => bind getReg fun _ => bind read16 fun entry => ?_
  refine Composite.bind (.prim <| .getReg regPc) fun pc hpc => ?_
  exact setReg_good <| hg.add pc _ (hpc rfl)

theorem i32MsrT1 (hm : ∀ p, g.psr p) :
    Guarded (U := U) g (Emulation.i32MsrT1 Rn mask SYSm) :=
  when <| bind (when <| bind getPsr fun _ => bind getReg fun _ => setPsr (hm _)) fun _ =>
    when <| bind getPsr fun _ => bind getReg fun _ => setPsr (hm _)

end Guarded
