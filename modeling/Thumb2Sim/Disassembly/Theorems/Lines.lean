import Thumb2Sim.Disassembly.Callbacks
import Thumb2Sim.Disassembly.Theorems.Prints

open Program Output

namespace Disassembly

variable {size : Nat} {aOpcode : String} {aFlags : BitVec 16} {m p : Disas String Unit}
  {m' p' : Disas (Buffer size) Unit} {v : Variant} {a : Args}

theorem setflags_force {S : Bool} :
    (opcodeWide ||| if S then opcodeSetflags else 0) &&& opcodeForceCondition = 0 := by
  revert S
  decide

theorem setflags_force' {S : Bool} :
    (if S then opcodeSetflags else 0) &&& opcodeForceCondition = 0 := by
  revert S
  decide

-- The programs print an opcode and its operands. Only conditional branches print a condition of
-- their own.
def PrintsInsn (conditional : Prop) (m : Disas String Unit) (m' : Disas (Buffer size) Unit) :
    Prop :=
  ∃ aOpcode aFlags p p', aOpcode.length ≤ 6 ∧
    (conditional ∨ aFlags &&& opcodeForceCondition = 0) ∧
    m = (printOpcode aOpcode aFlags >>= fun _ => p) ∧
    m' = (printOpcode aOpcode aFlags >>= fun _ => p') ∧ Prints 110 p p'

namespace PrintsInsn

variable {conditional : Prop} {n : Nat}

theorem opcode (h : Prints n p p') (hn : n ≤ 110 := by decide)
    (ho : aOpcode.length ≤ 6 := by decide)
    (hf : aFlags &&& opcodeForceCondition = 0 := by
      first | rfl | exact setflags_force | exact setflags_force') :
    PrintsInsn conditional (printOpcode aOpcode aFlags >>= fun _ => p)
      (printOpcode aOpcode aFlags >>= fun _ => p') :=
  ⟨aOpcode, aFlags, p, p', ho, .inr hf, rfl, rfl, h.mono hn⟩

theorem branch (h : Prints n p p') (hc : conditional) (hn : n ≤ 110 := by decide)
    (ho : aOpcode.length ≤ 6 := by decide) :
    PrintsInsn conditional (printOpcode aOpcode aFlags >>= fun _ => p)
      (printOpcode aOpcode aFlags >>= fun _ => p') :=
  ⟨aOpcode, aFlags, p, p', ho, .inl hc, rfl, rfl, h.mono hn⟩

theorem noOperands (ho : aOpcode.length ≤ 6 := by decide)
    (hf : aFlags &&& opcodeForceCondition = 0 := by rfl) :
    PrintsInsn conditional (printOpcode aOpcode aFlags)
      (printOpcode aOpcode aFlags : Disas (Buffer size) Unit) :=
  ⟨aOpcode, aFlags, pure (), pure (), ho, .inr hf, (bind_pure _).symm, (bind_pure _).symm, .pure⟩

theorem ite {c : Prop} [Decidable c] (h : PrintsInsn conditional m m')
    (h' : PrintsInsn conditional p p') :
    PrintsInsn conditional (if c then m else p) (if c then m' else p') := by
  split
  case isTrue  => exact h
  case isFalse => exact h'

end PrintsInsn

section

variable {n : Nat} {f : Word → Disas String Unit} {f' : Word → Disas (Buffer size) Unit}

theorem prints_checked {x : Except Undefined Word} {y : Word} (hx : x = .ok y)
    (h : Prints n (f y) (f' y)) : Prints n (checked x >>= f) (checked x >>= f') := by
  rw [hx]
  exact h

theorem prints_getPc (h : ∀ pc, Prints n (f pc) (f' pc)) :
    Prints n (getPc >>= f) (getPc >>= f') := by
  intro pc
  have ⟨t, ht, hw⟩ := h pc pc
  refine ⟨t, ht, fun s c => ⟨fun b => ?_, fun b hb => ?_⟩⟩
  case refine_1 => exact (hw s c).whole b
  case refine_2 => exact (hw s c).bounded b hb

end

theorem prints_printTarget {target : Word → Except Undefined Word}
    (h : ∀ pc, ∃ x, target pc = .ok x) :
    Prints 40 (printTarget target) (printTarget target : Disas (Buffer size) Unit) :=
  prints_getPc fun pc =>
    have ⟨_, hx⟩ := h pc
    prints_checked hx <| prints_short (by decide)

theorem relativeBranchTarget_ok {pc imm : Word} {bits : Byte}
    (h : bits.toNat ≠ 0 ∧ bits.toNat < 32) : ∃ x, relativeBranchTarget pc imm bits = .ok x := by
  have hn : (bits.toNat : Int) - 1 = (bits.toNat - 1 : Nat) := by omega
  rw [relativeBranchTarget, hn, CInt.shl_of_lt (by omega), CInt.shl_of_lt h.right]
  simp only [bind, Except.bind, pure, Except.pure]
  split <;> exact ⟨_, rfl⟩

theorem prints_printBase {Rn : RegNo} {writeback : Bool} :
    Prints 40 (printBase Rn writeback) (printBase Rn writeback : Disas (Buffer size) Unit) := by
  cases writeback <;> exact prints_short (by decide)

theorem prints_printStoreImm {Rt Rn : RegNo} {imm : Byte} {P U W : Bool} :
    Prints 40 (printStoreImm Rt Rn imm P U W)
      (printStoreImm Rt Rn imm P U W : Disas (Buffer size) Unit) := by
  cases U <;> cases W <;> exact .ite (prints_short <| by decide) (prints_short <| by decide)

theorem itMnemonic_length {firstcond mask : Byte} : (itMnemonic firstcond mask).length ≤ 6 := by
  have h {l : List Nat} {f : Nat → String} (hf : ∀ i, (f i).length = 1) (s : String) :
      (l.foldl (fun opcode i => opcode ++ f i) s).length = s.length + l.length := by
    induction l generalizing s
    case nil          => rfl
    case cons i l hi =>
      rw [List.foldl_cons, hi, String.length_append, hf, List.length_cons]
      omega
  have hl : "it".length = 2 := by decide
  unfold itMnemonic
  rw [h (fun i => by split <;> rfl), List.length_range, hl]
  omega

theorem printsInsn_callbacks {h : Args → Disas String Unit} {h' : Args → Disas (Buffer size) Unit}
    (hh : disassemblyCallbacks v = some h) (hh' : disassemblyCallbacks v = some h')
    (hr : v = .ldmT1 → (a.uint8 .Rn).toNat < 32) :
    (h a = pure () ∧ h' a = pure ()) ∨ PrintsInsn (v = .bT1 ∨ v = .bT3) (h a) (h' a) := by
  cases v
  case adcImmT1 | addSPiT1 | addSPiT3 | addSPiT4 | addImmT1 | addImmT3 | addImmT4 | adrT1
    | asrImmT1 | bicImmT1 | lsrImmT1 | orrImmT1 | rsbImmT2 | sbcImmT1 | subImmT1 | subImmT3
    | subImmT4 =>
    cases hh; cases hh'
    exact .inr <| .opcode prints_printRri
  case adcRegT1 | addSPrT1 | addSPrT2 | addRegT2 | andRegT1 | asrRegT1 | bicRegT1 | clzT1
    | cmnRegT1 | cmpRegT1 | cmpRegT2 | eorRegT1 | lslRegT1 | lsrRegT1 | movRegT1 | movRegT2
    | mulT1 | mvnRegT1 | orrRegT1 | rev16T1 | revT1 | revT2 | revshT1 | rorRegT1 | rsbImmT1
    | sbcRegT1 | sxtb16T1 | sxtbT1 | sxthT1 | tstRegT1 | uxtbT1 | uxthT1 =>
    cases hh; cases hh'
    exact .inr <| .opcode prints_printRr
  case adcRegT2 | addRegT3 | andRegT2 | bicRegT2 | rsbRegT1 | sbcRegT2 | subRegT2 =>
    cases hh; cases hh'
    exact .inr <| .opcode prints_printRrrs
  case addSPiT2 | addImmT2 | cmnImmT1 | cmpImmT1 | cmpImmT2 | movImmT1 | movImmT2 | movImmT3
    | movtT1 | mvnImmT1 | subSPimmT1 | subImmT2 | tstImmT1 =>
    cases hh; cases hh'
    exact .inr <| .opcode prints_printRi
  case addRegT1 | asrRegT2 | lslRegT2 | lsrRegT2 | mulT2 | sdivT1 | subRegT1 | udivT1 =>
    cases hh; cases hh'
    exact .inr <| .opcode prints_printRrr
  case asrImmT2 | cmnRegT2 | cmpRegT3 | lslImmT2 | lsrImmT2 | mvnRegT2 =>
    cases hh; cases hh'
    exact .inr <| .opcode prints_printRrs
  case blxRegT1 | bxT1 =>
    cases hh; cases hh'
    exact .inr <| .opcode prints_printR
  case ldrImmT1 | ldrImmT2 | ldrLitT1 | ldrLitT2 | ldrbImmT1 | ldrhImmT1 | strImmT1 | strImmT2
    | strbImmT1 | strhImmT1 | strhImmT2 =>
    cases hh; cases hh'
    exact .inr <| .opcode prints_printRIro
  case ldrImmT3 | ldrbImmT2 | ldrhImmT2 | ldrshImmT1 | strImmT3 | strbImmT2 =>
    cases hh; cases hh'
    exact .inr <| .opcode prints_printRIrO
  case ldrRegT1 | ldrbRegT1 | ldrhRegT1 | ldrsbRegT1 | ldrshRegT1 | strRegT1 | strbRegT1
    | strhRegT1 =>
    cases hh; cases hh'
    exact .inr <| .opcode prints_printRIrr
  case ldrRegT2 =>
    cases hh; cases hh'
    exact .inr <| .opcode prints_printRIrrs
  case mlaT1 | smullT1 | umlalT1 | umullT1 =>
    cases hh; cases hh'
    exact .inr <| .opcode prints_printRrrr
  case popT1 | pushT1 | pushT2 =>
    cases hh; cases hh'
    exact .inr <| .opcode prints_printReglist
  case popT3 =>
    cases hh; cases hh'
    exact .inr <| .opcode prints_printRIri
  case strImmT4 | strbImmT3 =>
    cases hh; cases hh'
    exact .inr <| .opcode prints_printStoreImm
  case strdImmT1 =>
    cases hh; cases hh'
    exact .inr <| .opcode prints_printRrIrO
  case ubfxT1 =>
    cases hh; cases hh'
    exact .inr <| .opcode prints_printRrii
  case nopT1 | nopT2 | sevT1 | sevT2 | yieldT1 | yieldT2 =>
    cases hh; cases hh'
    exact .inr .noOperands
  case bT1 =>
    cases hh; cases hh'
    exact .inr <| .branch (prints_printTarget fun _ => relativeBranchTarget_ok (by decide)) <|
      .inl rfl
  case bT3 =>
    cases hh; cases hh'
    exact .inr <| .branch (prints_printTarget fun _ => ⟨_, rfl⟩) (.inr rfl)
  case bT2 =>
    cases hh; cases hh'
    exact .inr <| .opcode (prints_printTarget fun _ => relativeBranchTarget_ok (by decide))
  case bT4 | blT1 =>
    cases hh; cases hh'
    exact .inr <| .opcode (prints_printTarget fun _ => ⟨_, rfl⟩)
  case udfT1 | svcT1 | strRegT2 =>
    cases hh; cases hh'
    exact .inr <| .opcode (prints_short <| Nat.le_refl _)
  case bkptT1 =>
    cases hh; cases hh'
    exact .inr <| .opcode (prints_short (n := 40) <| by decide)
  case itT1 =>
    cases hh; cases hh'
    exact .inr <| .opcode (prints_short <| Nat.le_refl _) (by decide) itMnemonic_length
  case cbnzT1 =>
    cases hh; cases hh'
    refine .inr <| .opcode (n := 40) (prints_getPc fun pc => ?_) (by decide) (by split <;> decide)
    have ⟨_, hx⟩ : ∃ x, relativeBranchTarget pc ((a.uint8 .imm).setWidth 32) 7 = .ok x :=
      relativeBranchTarget_ok (by decide)
    exact prints_checked hx <| prints_short (by decide)
  case cpsT1 =>
    cases hh; cases hh'
    exact .inr <| .opcode (.bind (.when <| prints_short <| Nat.le_refl _) <|
      .bind (.when <| prints_short <| Nat.le_refl _) <| .when <| prints_short <| Nat.le_refl _)
      (by decide) (by split <;> decide)
  case andImmT1 | eorImmT1 =>
    cases hh; cases hh'
    exact .inr <| .ite (.opcode prints_printRi) (.opcode prints_printRri)
  case eorRegT2 =>
    cases hh; cases hh'
    exact .inr <| .ite (.opcode prints_printRr) (.opcode prints_printRrrs)
  case lslImmT1 =>
    cases hh; cases hh'
    exact .inr <| .ite (.opcode prints_printRri) (.opcode prints_printRr)
  case orrRegT2 =>
    cases hh; cases hh'
    exact .inr <| .ite (.opcode prints_printRrrs) (.opcode prints_printRrs)
  case tbbT1 =>
    cases hh; cases hh'
    exact .inr <| .ite (.opcode prints_printIrrs) (.opcode prints_printIrr)
  case uxtbT2 | uxthT2 =>
    cases hh; cases hh'
    exact .inr <| .ite (.opcode prints_printRr) (.opcode prints_printRrs)
  case ldrbRegT2 | strbRegT2 =>
    cases hh; cases hh'
    exact .inr <| .opcode <| .ite prints_printRIrr prints_printRIrrs
  case ldrdImmT1 =>
    cases hh; cases hh'
    exact .inr <| .opcode <| .ite prints_printRrIrO prints_printRrIri
  case rorImmT1 =>
    cases hh; cases hh'
    exact .inr <| .opcode <| .bind prints_printRr <| prints_short <| Nat.le_refl _
  case pushT3 =>
    cases hh; cases hh'
    exact .inr <| .opcode <| .bind prints_printRIro <| prints_short <| Nat.le_refl _
  case ldrImmT4 | ldrbImmT3 =>
    cases hh; cases hh'
    exact .inr <| .opcode <| .ite
      (.bind prints_printRIrO <| .when <| prints_short <| Nat.le_refl _)
      (prints_printRIri.mono <| Nat.le_add_right ..)
  case ldmT2 | ldmdbT1 | stmT1 | stmT2 | stmdbT1 =>
    cases hh; cases hh'
    exact .inr <| .opcode <| .bind prints_printBase prints_printReglist
  case popT2 =>
    cases hh; cases hh'
    exact .inr <| .opcode <| .bind prints_printR <|
      .bind (prints_short <| Nat.le_refl _) prints_printReglist
  case ldmT1 =>
    cases hh; cases hh'
    refine .inr <| .opcode (n := 107) <| prints_checked (CInt.shl_of_lt <| hr rfl) <|
      .bind (?_ : Prints 40 _ _) prints_printReglist
    split <;> exact prints_short (by decide)
  all_goals
    cases hh
    all_goals
      cases hh'
      exact .inl ⟨rfl, rfl⟩

end Disassembly
