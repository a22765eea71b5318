import Thumb2Sim.Emulation.LoadStore
import Thumb2Sim.Emulation.Theorems.Plain

open Program

-- The base register of an indexed access whose writeback may change it by an odd number.
def writebackDest (Rn : RegNo) (imm : Word) (W : Bool) : List RegNo :=
  if W = true ∧ imm.toNat % 2 = 1 then [Rn] else []

theorem writebackDest_mul_four {Rn : RegNo} {imm : Word} {W : Bool} :
    writebackDest Rn (4 * imm) W = [] := by
  refine if_neg fun ⟨_, h⟩ => ?_
  simp only [BitVec.toNat_mul, BitVec.reduceToNat] at h
  omega

theorem offset_eq_two_mul {imm : Word} {up : Bool} (h : imm.toNat % 2 = 0) :
    ∃ x, Emu.offset up imm = 2 * x := by
  have hi : imm = (2 : Word) * (imm >>> 1) := by
    apply BitVec.eq_of_toNat_eq
    simp only [BitVec.toNat_mul, BitVec.toNat_ushiftRight, BitVec.reduceToNat,
      Nat.shiftRight_eq_div_pow]
    have := imm.isLt
    omega
  cases up
  case true  => exact ⟨_, (BitVec.one_mul imm).trans hi⟩
  case false =>
    refine ⟨-(imm >>> 1), ?_⟩
    rw [BitVec.mul_neg, ← hi]
    exact (BitVec.neg_eq_neg_one_mul imm).symm

namespace Guarded

variable {U : Type} {g : Guard} {Rt Rtx Rn Rm : RegNo}

section

variable {address imm addr : Word} {registers : BitVec 16} {P up W inc : Bool} {l : List Nat}

theorem ldr (h : Allowed g.pc [Rt]) : Guarded (U := U) g (Emu.ldr Rt address) :=
  bind read32 fun _ => setReg h (by simp)

theorem ldrb (h : Allowed g.pc [Rt]) : Guarded (U := U) g (Emu.ldrb Rt address) :=
  bind read8 fun _ => setReg h (by simp)

theorem ldrh (h : Allowed g.pc [Rt]) : Guarded (U := U) g (Emu.ldrh Rt address) :=
  bind read16 fun _ => setReg h (by simp)

theorem str : Guarded (U := U) g (Emu.str Rt address) :=
  bind getReg fun _ => write32

theorem strb : Guarded (U := U) g (Emu.strb Rt address) :=
  bind getReg fun _ => write8

theorem strh : Guarded (U := U) g (Emu.strh Rt address) :=
  bind getReg fun _ => write16

theorem indexed : Guarded (U := U) g (Emu.indexed Rn imm P up) :=
  bind getReg fun _ => pure

theorem literal : Guarded (U := U) g (Emu.literal imm) :=
  bind getReg fun _ => pure

theorem writeback (hg : Stable g.pc) (h : Allowed g.pc (writebackDest Rn imm W)) :
    Guarded (U := U) g (Emu.writeback Rn imm up W) := by
  refine Composite.when fun hw => ?_
  by_cases hi : imm.toNat % 2 = 1
  case pos =>
    rw [writebackDest, if_pos ⟨hw, hi⟩] at h
    exact bind getReg fun _ => setReg h (by simp)
  case neg =>
    have ⟨x, hx⟩ : ∃ x, Emu.offset up imm = 2 * x := offset_eq_two_mul (by omega)
    refine Composite.bind (.prim <| .getReg Rn) fun v hv => ?_
    exact .prim <| .setReg fun hr => hx ▸ hg.add v x (hv hr)

-- The address stays as good as it was if it came from PC.
theorem storeRegistersLoop {r : RegNo} (hg : Stable g.pc) (ha : r = regPc → g.pc addr) :
    Composite (GuardedPrim (U := U) g) (Emu.storeRegistersLoop registers inc l addr)
      fun addr => r = regPc → g.pc addr := by
  induction l generalizing addr
  case nil => exact .pure ha
  case cons regNo l hi =>
    unfold Emu.storeRegistersLoop
    refine Composite.ite (fun _ => ?_) fun _ => hi ha
    refine Composite.bind getReg fun _ _ => ?_
    refine Composite.bind write32 fun _ _ => hi ?_
    cases inc
    case true  => exact fun hr => hg.add_four (ha hr)
    case false => exact fun hr => hg.sub_four (ha hr)

theorem storeRegisters (hg : Stable g.pc) :
    Guarded (U := U) g (Emu.storeRegisters Rn registers inc W) :=
  Composite.bind (.prim <| .getReg Rn) fun _ ha =>
    Composite.bind (storeRegistersLoop hg ha) fun _ ha =>
    Composite.when fun _ => .prim <| .setReg ha

theorem loadRegistersLoop {r : RegNo} (hg : Stable g.pc) (hl : ∀ i ∈ l, i < 16)
    (ha : r = regPc → g.pc addr) :
    Composite (GuardedPrim (U := U) g) (Emu.loadRegistersLoop registers l addr)
      fun addr => r = regPc → g.pc addr := by
  induction l generalizing addr
  case nil => exact .pure ha
  case cons i l hi =>
    rw [List.forall_mem_cons] at hl
    have rest := hi hl.right fun hr => hg.add_four (ha hr)
    unfold Emu.loadRegistersLoop
    refine Composite.ite (fun _ => ?_) fun _ => hi hl.right ha
    refine Composite.ite (fun hn => ?_) fun _ => ?_
    · have hr : BitVec.ofNat 8 i ≠ regPc := by
        intro h
        have := congrArg BitVec.toNat h
        simp [regPc] at this hn
        omega
      exact Composite.bind read32 fun _ _ =>
        Composite.bind (setReg_ne hr) fun _ _ => rest
    · exact Composite.bind setAdvancePc fun _ _ =>
        Composite.bind read32 fun v _ =>
        Composite.bind (setReg_good (hg.clear v)) fun _ _ => rest

theorem loadRegisters (hg : Stable g.pc) :
    Guarded (U := U) g (Emu.loadRegisters Rn registers W) :=
  Composite.bind (.prim <| .getReg Rn) fun _ ha =>
    Composite.bind (loadRegistersLoop hg (by simp) ha) fun _ ha =>
    Composite.when fun _ => .prim <| .setReg ha

theorem withPc : Guarded (U := U) g (Emulation.withPc registers P) :=
  ite (bind setAdvancePc fun _ => pure) pure

end

-- Loads.

theorem i16LdrImmT1 (h : Allowed g.pc [Rt]) :
    Guarded (U := U) g (Emulation.i16LdrImmT1 Rt Rn imm) :=
  bind getReg fun _ => ldr h

theorem i16LdrImmT2 (h : Allowed g.pc [Rt]) : Guarded (U := U) g (Emulation.i16LdrImmT2 Rt imm) :=
  bind getReg fun _ => ldr h

theorem i32LdrImmT3 (h : Allowed g.pc [Rt]) :
    Guarded (U := U) g (Emulation.i32LdrImmT3 Rt Rn imm) :=
  bind getReg fun _ => ldr h

theorem i32LdrImmT4 (hg : Stable g.pc)
    (h : Allowed g.pc ([Rt] ++ writebackDest Rn (imm.setWidth 32) W)) :
    Guarded (U := U) g (Emulation.i32LdrImmT4 Rt Rn imm P up W) :=
  bind indexed fun _ => bind (ldr h.left) fun _ => writeback hg h.right

theorem i16LdrLitT1 (h : Allowed g.pc [Rt]) : Guarded (U := U) g (Emulation.i16LdrLitT1 Rt imm) :=
  bind literal fun _ => bind (ldr h) fun _ => setAdvancePc

theorem i32LdrLitT2 (h : Allowed g.pc [Rt]) :
    Guarded (U := U) g (Emulation.i32LdrLitT2 Rt imm up) :=
  bind literal fun _ => bind (ldr h) fun _ => setAdvancePc

theorem i16LdrRegT1 (h : Allowed g.pc [Rt]) :
    Guarded (U := U) g (Emulation.i16LdrRegT1 Rt Rn Rm) :=
  bind getReg fun _ => bind getReg fun _ => ldr h

theorem i32LdrRegT2 (h : Allowed g.pc [Rt]) :
    Guarded (U := U) g (Emulation.i32LdrRegT2 Rt Rn Rm imm) :=
  bind getReg fun _ => bind getReg fun _ => bind checked fun _ => ldr h

theorem i16LdrbImmT1 (h : Allowed g.pc [Rt]) :
    Guarded (U := U) g (Emulation.i16LdrbImmT1 Rt Rn imm) :=
  bind getReg fun _ => ldrb h

theorem i32LdrbImmT2 (h : Allowed g.pc [Rt]) :
    Guarded (U := U) g (Emulation.i32LdrbImmT2 Rt Rn imm) :=
  bind getReg fun _ => ldrb h

theorem i32LdrbImmT3 (hg : Stable g.pc)
    (h : Allowed g.pc ([Rt] ++ writebackDest Rn (imm.setWidth 32) W)) :
    Guarded (U := U) g (Emulation.i32LdrbImmT3 Rt Rn imm P up W) :=
  bind indexed fun _ => bind (ldrb h.left) fun _ => writeback hg h.right

theorem i16LdrbRegT1 (h : Allowed g.pc [Rt]) :
    Guarded (U := U) g (Emulation.i16LdrbRegT1 Rt Rn Rm) :=
  bind getReg fun _ => bind getReg fun _ => ldrb h

theorem i32LdrbRegT2 (h : Allowed g.pc [Rt]) :
    Guarded (U := U) g (Emulation.i32LdrbRegT2 Rt Rn Rm imm) :=
  bind getReg fun _ => bind getReg fun _ => bind read8 fun _ =>
    ite (bind checked fun _ => setReg h (by simp)) (setReg h (by simp))

theorem i32LdrdImmT1 (hg : Stable g.pc) (h : Allowed g.pc [Rt, Rtx]) :
    Guarded (U := U) g (Emulation.i32LdrdImmT1 Rt Rn Rtx imm P up W) :=
  bind indexed fun _ => bind (ldr <| h.subset <| by simp) fun _ =>
    bind (ldr <| h.subset <| by simp) fun _ => writeback hg (writebackDest_mul_four ▸ .nil)

theorem i16LdrhImmT1 (h : Allowed g.pc [Rt]) :
    Guarded (U := U) g (Emulation.i16LdrhImmT1 Rt Rn imm) :=
  bind getReg fun _ => ldrh h

theorem i32LdrhImmT2 (h : Allowed g.pc [Rt]) :
    Guarded (U := U) g (Emulation.i32LdrhImmT2 Rt Rn imm) :=
  bind getReg fun _ => ldrh h

-- Stores.

theorem i16StrImmT1 : Guarded (U := U) g (Emulation.i16StrImmT1 Rt Rn imm) :=
  bind getReg fun _ => str

theorem i16StrImmT2 : Guarded (U := U) g (Emulation.i16StrImmT2 Rt imm) :=
  bind getReg fun _ => str

theorem i32StrImmT3 : Guarded (U := U) g (Emulation.i32StrImmT3 Rt Rn imm) :=
  bind getReg fun _ => str

theorem i32StrImmT4 (hg : Stable g.pc) (h : Allowed g.pc (writebackDest Rn (imm.setWidth 32) W)) :
    Guarded (U := U) g (Emulation.i32StrImmT4 Rt Rn imm P up W) :=
  bind indexed fun _ => bind str fun _ => writeback hg h

theorem i16StrRegT1 : Guarded (U := U) g (Emulation.i16StrRegT1 Rt Rn Rm) :=
  bind getReg fun _ => bind getReg fun _ => str

theorem i32StrRegT2 : Guarded (U := U) g (Emulation.i32StrRegT2 Rt Rn Rm imm) :=
  bind getReg fun _ => bind getReg fun _ => bind checked fun _ => str

theorem i16StrbImmT1 : Guarded (U := U) g (Emulation.i16StrbImmT1 Rt Rn imm) :=
  bind getReg fun _ => strb

theorem i32StrbImmT2 : Guarded (U := U) g (Emulation.i32StrbImmT2 Rt Rn imm) :=
  bind getReg fun _ => strb

theorem i32StrbImmT3 (hg : Stable g.pc) (h : Allowed g.pc (writebackDest Rn (imm.setWidth 32) W)) :
    Guarded (U := U) g (Emulation.i32StrbImmT3 Rt Rn imm P up W) :=
  bind indexed fun _ => bind strb fun _ => writeback hg h

theorem i16StrbRegT1 : Guarded (U := U) g (Emulation.i16StrbRegT1 Rt Rn Rm) :=
  bind getReg fun _ => bind getReg fun _ => strb

theorem i32StrbRegT2 : Guarded (U := U) g (Emulation.i32StrbRegT2 Rt Rn Rm imm) :=
  bind getReg fun _ => bind getReg fun _ => strb

theorem i32StrdImmT1 (hg : Stable g.pc) :
    Guarded (U := U) g (Emulation.i32StrdImmT1 Rt Rn Rtx imm P up W) :=
  bind indexed fun _ => bind str fun _ => bind str fun _ =>
    writeback hg (writebackDest_mul_four ▸ .nil)

theorem i16StrhImmT1 : Guarded (U := U) g (Emulation.i16StrhImmT1 Rt Rn imm) :=
  bind getReg fun _ => strh

theorem i32StrhImmT2 : Guarded (U := U) g (Emulation.i32StrhImmT2 Rt Rn imm) :=
  bind getReg fun _ => strh

-- Lists of registers.

theorem i16LdmT1 (hg : Stable g.pc) : Guarded (U := U) g (Emulation.i16LdmT1 Rn registerList) :=
  bind checked fun _ => loadRegisters hg

theorem i32LdmT2 (hg : Stable g.pc) :
    Guarded (U := U) g (Emulation.i32LdmT2 Rn registerList P M W) :=
  bind withPc fun _ => loadRegisters hg

theorem i16PopT1 (hg : Stable g.pc) : Guarded (U := U) g (Emulation.i16PopT1 registerList P) :=
  bind withPc fun _ => loadRegisters hg

theorem i32PopT2 (hg : Stable g.pc) : Guarded (U := U) g (Emulation.i32PopT2 registerList P M) :=
  bind withPc fun _ => loadRegisters hg

theorem i32PopT3 (hg : Stable g.pc) : Guarded (U := U) g (Emulation.i32PopT3 Rt) :=
  bind checked fun _ => bind (loadRegisters hg) fun _ => setAdvancePc

theorem i16PushT1 (hg : Stable g.pc) : Guarded (U := U) g (Emulation.i16PushT1 registerList M) :=
  storeRegisters hg

theorem i32PushT2 (hg : Stable g.pc) : Guarded (U := U) g (Emulation.i32PushT2 registerList M) :=
  storeRegisters hg

theorem i16StmT1 (hg : Stable g.pc) : Guarded (U := U) g (Emulation.i16StmT1 Rn registerList) :=
  storeRegisters hg

theorem i32StmT2 (hg : Stable g.pc) :
    Guarded (U := U) g (Emulation.i32StmT2 Rn registerList M W) :=
  storeRegisters hg

theorem i32StmdbT1 (hg : Stable g.pc) :
    Guarded (U := U) g (Emulation.i32StmdbT1 Rn registerList M W) :=
  storeRegisters hg

end Guarded
