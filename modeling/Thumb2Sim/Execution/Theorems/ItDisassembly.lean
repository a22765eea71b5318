import Thumb2Sim.Execution.Theorems.BranchDisassembly

open Program Output Disassembly

-- The letters of the further instructions of an IT block, behind the one of the first instruction.
def itLetters (firstcond mask : Byte) : String :=
  String.ofList <| (List.range (itLength mask - 1)).map fun i =>
    if itBit firstcond mask (i + 2) = firstcond.getLsbD 0 then 't' else 'e'

-- The same context outside of IT blocks.
def EmuCtx.outsideItBlock {U : Type} (ctx : EmuCtx U) : EmuCtx U :=
  { ctx with cpu.itState := 0 }

variable {U : Type} {host : Callbacks U} {ctx : EmuCtx U} {firstcond mask : Byte} {a : Args}
  {w : Word} {k n : Nat}

theorem foldl_append_letter {p : Nat → Prop} [DecidablePred p] {l : List Nat} {s : String} :
    l.foldl (fun opcode i => opcode ++ if p i then "t" else "e") s =
      s ++ String.ofList (l.map fun i => if p i then 't' else 'e') := by
  induction l generalizing s
  case nil          => exact String.append_empty.symm
  case cons i l hi =>
    have hs : (if p i then "t" else "e") = String.ofList [if p i then 't' else 'e'] := by
      split <;> rfl
    rw [List.foldl_cons, hi, hs, String.append_assoc, ← String.ofList_append]
    rfl

theorem itMnemonic_eq (hm : mask ≤ 15) : itMnemonic firstcond mask =
    "it" ++ itLetters firstcond mask := by
  have hl : 3 - ((List.range 3).takeWhile fun i => mask &&& 1 <<< i == 0).length =
      itLength mask - 1 := by
    obtain ⟨m, rfl⟩ := exists_setWidth hm
    revert m
    decide
  have hb (i : Nat) : mask >>> (3 - i) &&& 1 = firstcond &&& 1 ↔
      itBit firstcond mask (i + 2) = firstcond.getLsbD 0 := by
    have hi : itBit firstcond mask (i + 2) = (mask >>> (3 - i)).getLsbD 0 := by
      rw [itBit, if_neg (by omega), BitVec.getLsbD_ushiftRight]
      exact congrArg _ (by omega)
    have h₁ (x : Byte) : x &&& 1 = (BitVec.ofBool <| x.getLsbD 0).setWidth 8 :=
      BitVec.and_one_eq_setWidth_ofBool_getLsbD
    have hd : ∀ b c : Bool,
        (BitVec.ofBool b).setWidth 8 = (BitVec.ofBool c).setWidth 8 ↔ b = c := by
      decide
    rw [hi, h₁, h₁, hd]
  rw [itMnemonic, hl, foldl_append_letter, itLetters]
  simp only [hb]

-- What is printed for `it_T1`.
theorem disassembly_itT1 (hx : Executes ctx .itT1 a) (h₀ : ctx.cpu.itState = 0) :
    ∃ w, ctx.disassembly = .ok (w, "it" ++ itLetters (a.uint8 .firstcond) (a.uint8 .mask) ++
      " " ++ ccString (a.uint8 .firstcond)) := by
  have ⟨_, hm⟩ := hx.itOperands_le
  obtain ⟨_, w, o, hw, ho, hv, ha⟩ := hx
  refine ⟨w, ?_⟩
  have ht : (disassemblyCallbacks o.variant : Option (Args → Disas String Unit)) =
      some fun a => i16ItT1 (a.uint8 .firstcond) (a.uint8 .mask) := by
    rw [hv]
    rfl
  have hp : Writes ctx.pc ctx.cpu.itState ctx.cpu.itCond _
      (i16ItT1 (a.uint8 .firstcond) (a.uint8 .mask))
      (i16ItT1 (a.uint8 .firstcond) (a.uint8 .mask) : Disas (Buffer 128) Unit) :=
    writes_printOpcode.bind .print
  have hs : flagsSuffix 0 0 ++ (condSuffix 0 ctx.cpu.itCond 0 ++ widthSuffix 0) = "" := rfl
  rw [h₀, hs, String.append_empty, itMnemonic_eq hm] at hp
  rw [String.append_assoc]
  exact disassembly_of_writes hw ho ha ht <| h₀ ▸ hp

namespace Disassembly.InsnText

-- Inside of an IT block, the condition is printed behind the name of the opcode and the letter for
-- the flags, which is missing if they are set outside of IT blocks only.
def textInside (cond : String) (t : InsnText) : String :=
  t.aOpcode ++ (if t.aFlags &&& opcodeSetflags ≠ 0 then "s" else "") ++ cond ++
    widthSuffix t.aFlags ++ t.operands

def textOutside (t : InsnText) : String :=
  t.aOpcode ++ (if t.aFlags &&& opcodeSetflags ≠ 0 ∨ t.aFlags &&& opcodeSetflagsIfUncond ≠ 0 then
    "s" else "") ++ widthSuffix t.aFlags ++ t.operands

variable {i : InsnText} {itState itCond : Byte} {cond : String}

theorem text_eq_textInside (hf : i.aFlags &&& opcodeForceCondition = 0)
    (hc : itSuffix itState itCond = cond) (hn : itState &&& 0x03 ≠ itNone) :
    i.text itState itCond = i.textInside cond := by
  have hs : flagsSuffix itState i.aFlags = if i.aFlags &&& opcodeSetflags ≠ 0 then "s" else "" := by
    simp only [flagsSuffix, hn, false_and, or_false]
  rw [text, textInside, hs, condSuffix, if_pos hf, hc]
  simp only [String.append_assoc]

theorem text_eq_textOutside (hf : i.aFlags &&& opcodeForceCondition = 0) :
    i.text 0 itCond = i.textOutside := by
  have hs : flagsSuffix 0 i.aFlags = if i.aFlags &&& opcodeSetflags ≠ 0 ∨
      i.aFlags &&& opcodeSetflagsIfUncond ≠ 0 then "s" else "" := by
    have h₀ : (0 : Byte) &&& 0x03 = itNone := rfl
    simp only [flagsSuffix, h₀, true_and]
  have hc : condSuffix 0 itCond i.aFlags = "" := if_pos hf
  rw [text, textOutside, hs, hc, String.empty_append]
  simp only [String.append_assoc]

end Disassembly.InsnText

-- What is printed for the word in an IT block with the condition `cond` for it, and what is printed
-- outside of it. The handlers print nothing in both places, or the name of their opcode and the
-- operands in both. Only conditional branches have a condition of their own.
inductive PrintedInBlock (U : Type) (w pc : Word) (cond : String) : String → String → Prop
  | nothing (h : ∀ o, decode w = some o →
      (o.callHandler w (some disassemblyCallbacks) : Disas String Unit) = pure ()) :
    PrintedInBlock U w pc cond "" ""
  | insn {o : Opcode} {i : InsnText} (ho : decode w = some o)
      (hv : ¬(o.variant = .bT1 ∨ o.variant = .bT3))
      (hi : i.IsTextOf pc (o.callHandler w (some disassemblyCallbacks))) :
    PrintedInBlock U w pc cond (i.textInside cond) i.textOutside
  | branch {o : Opcode} {a : Args} {cond' : Byte} {width : BranchWidth} {target : Word}
      (ho : decode w = some o) (ha : o.args w = .ok a)
      (hs : (PrintedBranch.bCond cond' width).Shows o.variant a)
      (hd : (PrintedBranch.bCond cond' width).Describes U w pc target) :
    PrintedInBlock U w pc cond ((PrintedBranch.bCond cond' width).text "" target)
      ((PrintedBranch.bCond cond' width).text "" target)

theorem PrintedBranch.Shows.eq_bCond {i : PrintedBranch} {v : Variant} (h : i.Shows v a)
    (hv : v = .bT1 ∨ v = .bT3) : ∃ cond width, i = .bCond cond width := by
  cases i
  case bCond cond width => exact ⟨cond, width, rfl⟩
  case b width => cases width <;> cases h <;> exact absurd hv (by decide)
  case bl      => cases h; exact absurd hv (by decide)
  case cbz | cbnz => cases h.left; exact absurd hv (by decide)

-- The texts of the next instruction.
theorem exists_printedInBlock (hw : ctx.insnWord = .ok w) {cond : String}
    (hc : itSuffix ctx.cpu.itState ctx.cpu.itCond = cond) (hn : ctx.cpu.itState &&& 0x03 ≠ itNone) :
    ∃ t t', ctx.disassembly = .ok (w, t) ∧ ctx.outsideItBlock.disassembly = .ok (w, t') ∧
      PrintedInBlock U w ctx.pc cond t t' := by
  have hw' : ctx.outsideItBlock.insnWord = .ok w := hw
  obtain ⟨hp, hd⟩ | ⟨o, t, ho, hf, hp, hd⟩ := disassembles_cases 128 w ctx.pc
  case inl =>
    exact ⟨"", "", disassembly_of_disassembles hw <| hd _ _,
      disassembly_of_disassembles hw' <| hd _ _, .nothing hp⟩
  case inr =>
    by_cases hv : o.variant = .bT1 ∨ o.variant = .bT3
    case pos =>
      have hb : BranchInsn.isBranch o.variant := by
        obtain h | h := hv <;> rw [h] <;> rfl
      have ⟨a, ha, _⟩ := o.args_cases w
      obtain ⟨i, target, hs, _, hi⟩ := exists_describes U ho ha hb ctx.pc
      obtain ⟨cond', width, rfl⟩ := hs.eq_bCond hv
      exact ⟨_, _, hi.text ctx hw rfl, hi.text ctx.outsideItBlock hw' rfl, .branch ho ha hs hi⟩
    case neg =>
      have hf := hf.aFlags.resolve_left hv
      refine ⟨t.textInside cond, t.textOutside, ?_, ?_, .insn ho hv hp⟩
      case refine_1 =>
        rw [← t.text_eq_textInside hf hc hn]
        exact disassembly_of_disassembles hw <| hd _ _
      case refine_2 =>
        have ht : t.text 0 ctx.cpu.itCond = t.textOutside := t.text_eq_textOutside hf
        rw [← ht]
        exact disassembly_of_disassembles hw' <| hd 0 _

-- In an IT block, the letters of `it`, the conditions that are printed behind the opcodes, and the
-- emulation of the instructions agree.
theorem Run.itBlock_disassembly {r : Nat → EmuCtx U} (hr : Run (cpuSingleStep host) r n)
    (hp : host.Preserve fun ctx => (ctx.cpu.itCond, ctx.cpu.itState)) (h₀ : (r 0).cpu.itState = 0)
    (hx : Executes (r 0) .itT1 a) (hb : IsItBlock (a.uint8 .firstcond) (a.uint8 .mask))
    (hn : ∀ k < n, 1 ≤ k → ∀ a, ¬Executes (r k) .itT1 a) :
    (∃ w, (r 0).disassembly = .ok (w, "it" ++ itLetters (a.uint8 .firstcond) (a.uint8 .mask) ++
      " " ++ ccString (a.uint8 .firstcond))) ∧
    ∀ k ≤ n, 1 ≤ k → k ≤ itLength (a.uint8 .mask) →
      ∃ c : ItCond, c.number = itNumber (a.uint8 .firstcond) (a.uint8 .mask) k ∧
        ((r k).handlers host = some (emulationCallbacks host) ↔ c.Holds (flags (r k).cpu.psr)) ∧
        ∀ w, (r k).insnWord = .ok w → ∃ t t', (r k).disassembly = .ok (w, t) ∧
          (r k).outsideItBlock.disassembly = .ok (w, t') ∧
          PrintedInBlock U w (r k).pc (ccString c.number) t t' := by
  refine ⟨disassembly_itT1 hx h₀, fun k hk h₁ hl => ?_⟩
  have ⟨hf, hm⟩ := hx.itOperands_le
  have ⟨hc, hs⟩ := hr.itState hp h₀ hx hn k hk h₁
  have ⟨c, hcn⟩ := hb.exists_cond h₁ hl
  -- The slot tells if the instruction is executed under the condition of the block or its inverse.
  let then' := decide <|
    itBit (a.uint8 .firstcond) (a.uint8 .mask) k = (a.uint8 .firstcond).getLsbD 0
  have hslot : (r k).cpu.itState &&& 3 = if then' then itThen else itElse := by
    rw [hs, itT1State_slot hm h₁ hl]
    simp only [then', decide_eq_true_eq]
  have hnum : c.number = if then' then (r k).cpu.itCond else (r k).cpu.itCond ^^^ 1 := by
    rw [hcn, itNumber_eq hf, hc]
    simp only [then', decide_eq_true_eq]
  refine ⟨c, hcn, handlers_eq_some_iff.trans <| shouldExec_iff then' hslot hnum, fun w hw => ?_⟩
  have hsuffix : itSuffix (r k).cpu.itState (r k).cpu.itCond = ccString c.number := by
    rw [itSuffix, hslot, hnum]
    cases then' <;> rfl
  refine exists_printedInBlock hw hsuffix fun h => ?_
  rw [hslot] at h
  cases ht' : then' <;> rw [ht'] at h <;> exact absurd h (by decide)

theorem itBlock_disassembly_iteProgram :
    let r := trace (cpuSingleStep noHost) iteProgram
    (∃ w, (r 0).disassembly = .ok (w, "it" ++ itLetters 0 12 ++ " " ++ ccString 0)) ∧
    ∀ k ≤ 4, 1 ≤ k → k ≤ itLength 12 → ∃ c : ItCond, c.number = itNumber 0 12 k ∧
      ((r k).handlers noHost = some (emulationCallbacks noHost) ↔ c.Holds (flags (r k).cpu.psr)) ∧
      ∀ w, (r k).insnWord = .ok w → ∃ t t', (r k).disassembly = .ok (w, t) ∧
        (r k).outsideItBlock.disassembly = .ok (w, t') ∧
        PrintedInBlock Unit w (r k).pc (ccString c.number) t t' := by
  intro r
  have hr : Run (cpuSingleStep noHost) r 4 := run_trace <| by decide +kernel
  have h₀ : (r 0).cpu.itState = 0 := rfl
  have hx : Executes (r 0) .itT1 iteArgs :=
    ⟨shouldExec_of_itState h₀, 0xbf0c2001, itOpcode, by decide +kernel, by decide +kernel, rfl, rfl⟩
  have hb : IsItBlock (iteArgs.uint8 .firstcond) (iteArgs.uint8 .mask) := by decide
  have hv : ∀ k < 4, 1 ≤ k → (r k).nextInsn.all fun p => p.1 ≠ .itT1 := by decide +kernel
  have hn : ∀ k < 4, 1 ≤ k → ∀ a, ¬Executes (r k) .itT1 a :=
    fun k hk h₁ a hx => of_decide_eq_true (hx.of_nextInsn <| hv k hk h₁) rfl
  have h := Run.itBlock_disassembly hr (noHost_preserve _) h₀ hx hb hn
  exact h
