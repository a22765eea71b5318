import Thumb2Sim.Emulation.Theorems.Branches
import Thumb2Sim.Execution.Theorems.Debug
import Thumb2Sim.Execution.Theorems.ItBlock

open Program Output Disassembly Emu

-- The encodings of a branch with 16 and with 32 bits.
inductive BranchWidth
  | narrow
  | wide

namespace BranchWidth

def text : BranchWidth → String
  | narrow => ".n"
  | wide   => ".w"

def length : BranchWidth → Nat
  | narrow => 2
  | wide   => 4

end BranchWidth

-- A branch as it is printed.
inductive PrintedBranch
  | b (width : BranchWidth)
  | bCond (cond : Byte) (width : BranchWidth)
  | bl
  | cbz (Rn : Fin 16)
  | cbnz (Rn : Fin 16)

namespace PrintedBranch

def length : PrintedBranch → Nat
  | b width | bCond _ width => width.length
  | bl                      => 4
  | cbz _ | cbnz _          => 2

-- Only `b` with a condition of its own does not show the one of an IT block.
def text (itSuffix : String) (target : Word) : PrintedBranch → String
  | b width          => "b" ++ itSuffix ++ width.text ++ " 0x" ++ hex target
  | bCond cond width => "b" ++ ccString cond ++ width.text ++ " 0x" ++ hex target
  | bl               => "bl" ++ itSuffix ++ " 0x" ++ hex target
  | cbz Rn           => "cbz" ++ itSuffix ++ " " ++ regString (regNo Rn) ++ ", 0x" ++ hex target
  | cbnz Rn          => "cbnz" ++ itSuffix ++ " " ++ regString (regNo Rn) ++ ", 0x" ++ hex target

-- The instruction with these arguments is the one that is meant.
def Shows (v : Variant) (a : Args) : PrintedBranch → Prop
  | b .narrow          => v = .bT2
  | b .wide            => v = .bT4
  | bCond cond .narrow => v = .bT1 ∧ a.uint8 .cond = cond
  | bCond cond .wide   => v = .bT3 ∧ a.uint8 .cond = cond
  | bl                 => v = .blT1
  | cbz Rn             => v = .cbnzT1 ∧ a.bool .op = false ∧ a.uint8 .Rn = regNo Rn
  | cbnz Rn            => v = .cbnzT1 ∧ a.bool .op = true ∧ a.uint8 .Rn = regNo Rn

-- What the text says about whether the branch is taken.
def Taken (cpu : Cpu) : PrintedBranch → Prop
  | b _ | bl     => True
  | bCond cond _ => condSatisfied cpu.psr cond
  | cbz Rn       => cpu.reg Rn = 0
  | cbnz Rn      => cpu.reg Rn ≠ 0

instance (cpu : Cpu) : DecidablePred (Taken cpu)
  | b _       => .isTrue trivial
  | bl        => .isTrue trivial
  | bCond _ _ => inferInstanceAs <| Decidable (_ = true)
  | cbz _     => inferInstanceAs <| Decidable (_ = _)
  | cbnz _    => inferInstanceAs <| Decidable (_ ≠ _)

-- The branch goes where the text says, if it is executed and taken.
def Goes {U : Type} (host : Callbacks U) (ctx : EmuCtx U) (target : Word) (i : PrintedBranch) :
    Prop :=
  ∃ ctx', cpuSingleStep host ctx = .ok ctx' ∧
    ctx'.pc = if emulatorShouldExecNextInsn ctx.cpu ∧ i.Taken ctx.cpu then target else
      ctx.pc + BitVec.ofNat 32 i.length

-- In every context with the word `w` at the address `pc`, the branch is printed so and goes there.
structure Describes (U : Type) (w pc target : Word) (i : PrintedBranch) : Prop where
  text : ∀ ctx : EmuCtx U, ctx.insnWord = .ok w → ctx.pc = pc →
    ctx.disassembly = .ok (w, i.text (itSuffix ctx.cpu.itState ctx.cpu.itCond) target)
  goes : ∀ (host : Callbacks U) (ctx : EmuCtx U), ctx.insnWord = .ok w → ctx.pc = pc →
    i.Goes host ctx target

end PrintedBranch

theorem arguments_branch {o : Opcode} (ho : o ∈ opcodes) (hb : BranchInsn.isBranch o.variant) :
    ∀ x ∈ o.arguments, (x.var = .cond ∨ x.var = .Rn) →
      x.extension = .plain ∧ x.reach.toNat < 16 := by
  have hm : o ∈ opcodes.filter (BranchInsn.isBranch ·.variant) := List.mem_filter.mpr ⟨ho, hb⟩
  rw [BranchInsn.opcodes_filter_isBranch] at hm
  revert o
  decide +kernel

variable {U : Type} {host : Callbacks U} {ctx : EmuCtx U} {w : Word} {o : Opcode} {a : Args}
  {i : PrintedBranch} {target : Word}

section

variable {size : Nat} {pc x : Word} {itState itCond cond : Byte} {aFlags width : BitVec 16}
  {aOpcode operands : String} {p : Disas String Unit} {p' : Disas (Buffer size) Unit}

theorem writes_target {f : Word → Except Undefined Word} {g : Word → String} (hx : f pc = .ok x) :
    Writes pc itState itCond (g x)
      (getPc >>= fun pc => checked (f pc) >>= fun target => printDisassembly (g target))
      (getPc >>= fun pc => checked (f pc) >>= fun target => printDisassembly (g target) :
        Disas (Buffer size) Unit) where
  whole   := fun b => by
    change (checked (f pc) >>= fun target => printDisassembly (g target)) _ = _
    rw [hx]
    rfl
  bounded := fun b _ => by
    change (checked (f pc) >>= fun target => printDisassembly (g target)) _ = _
    rw [hx]
    rfl

theorem writes_printTarget {f : Word → Except Undefined Word} (hx : f pc = .ok x) :
    Writes pc itState itCond (" 0x" ++ hex x) (printTarget f)
      (printTarget f : Disas (Buffer size) Unit) :=
  writes_target (g := fun target => s!" 0x{hex target}") hx

theorem flagsSuffix_eq_empty (h : aFlags &&& opcodeSetflags = 0)
    (h' : aFlags &&& opcodeSetflagsIfUncond = 0) : flagsSuffix itState aFlags = "" :=
  if_neg fun hs => hs.elim (· h) (·.right h')

theorem isconditional_bits (hw : width ∈ [opcodeWide, opcodeNarrow]) (hc : cond.toNat < 16) :
    (width ||| opcodeIsconditional cond) &&& opcodeSetflags = 0 ∧
      (width ||| opcodeIsconditional cond) &&& opcodeSetflagsIfUncond = 0 ∧
      (width ||| opcodeIsconditional cond) &&& opcodeForceCondition ≠ 0 ∧
      (((width ||| opcodeIsconditional cond) &&& 0xf00) >>> 8).setWidth 8 = cond ∧
      (width ||| opcodeIsconditional cond) &&& opcodeWide = width &&& opcodeWide ∧
      (width ||| opcodeIsconditional cond) &&& opcodeNarrow = width &&& opcodeNarrow := by
  obtain ⟨y, rfl⟩ := exists_setWidth (show cond ≤ 15 from Nat.le_of_lt_succ hc)
  clear hc
  simp only [List.mem_cons, List.not_mem_nil, or_false] at hw
  obtain rfl | rfl := hw <;> revert y <;> decide

-- The condition that is printed is the one of the branch.
theorem writes_isconditional (hw : width ∈ [opcodeWide, opcodeNarrow]) (hc : cond.toNat < 16)
    (h : Writes pc itState itCond operands p p') :
    Writes pc itState itCond (aOpcode ++ ccString cond ++ widthSuffix width ++ operands)
      (printOpcode aOpcode (width ||| opcodeIsconditional cond) >>= fun _ => p)
      (printOpcode aOpcode (width ||| opcodeIsconditional cond) >>= fun _ => p') := by
  have ⟨hs, hu, hf, hn, hw', hn'⟩ := isconditional_bits hw hc
  have hp : Writes pc itState itCond _
      (printOpcode aOpcode (width ||| opcodeIsconditional cond) >>= fun _ => p) _ :=
    writes_printOpcode.bind h
  rw [flagsSuffix_eq_empty hs hu, condSuffix, if_neg hf, hn, String.empty_append, widthSuffix,
    hw', hn', ← String.append_assoc] at hp
  exact hp

theorem unconditional_bits (hf : aFlags ∈ [0, opcodeWide, opcodeNarrow]) :
    aFlags &&& opcodeSetflags = 0 ∧ aFlags &&& opcodeSetflagsIfUncond = 0 ∧
      aFlags &&& opcodeForceCondition = 0 := by
  simp only [List.mem_cons, List.not_mem_nil, or_false] at hf
  obtain rfl | rfl | rfl := hf <;> decide

-- The condition that is printed is the one of the IT block.
theorem writes_unconditional (hf : aFlags ∈ [0, opcodeWide, opcodeNarrow])
    (h : Writes pc itState itCond operands p p') :
    Writes pc itState itCond
      (aOpcode ++ itSuffix itState itCond ++ widthSuffix aFlags ++ operands)
      (printOpcode aOpcode aFlags >>= fun _ => p)
      (printOpcode aOpcode aFlags >>= fun _ => p') := by
  have ⟨hs, hu, hc⟩ := unconditional_bits hf
  have hp : Writes pc itState itCond _ (printOpcode aOpcode aFlags >>= fun _ => p) _ :=
    writes_printOpcode.bind h
  rw [flagsSuffix_eq_empty hs hu, condSuffix, if_pos hc, String.empty_append,
    ← String.append_assoc] at hp
  exact hp

end

theorem branch_of_ok {f : Word → Except Undefined Word} {s : InsnEmuCtx U}
    (h : f s.emuCtx.pc = .ok target) :
    branch f s = .ok ((), { s.setReg 15 target with advancePc := false }) := by
  change (checked (f s.emuCtx.pc) >>= fun target => setReg regPc target >>= fun _ =>
    setAdvancePc false) s = _
  rw [h]
  rfl

-- The handler of a branch sets PC to the target that is printed, or does nothing.
theorem goes_of_handler {handler : Args → Emu U Unit} {s : InsnEmuCtx U} (hl : i.length = o.length)
    (hw : ctx.insnWord = .ok w) (ho : decode w = some o) (ha : o.args w = .ok a)
    (hh : emulationCallbacks host o.variant = some handler)
    (ht : i.Taken ctx.cpu →
      handler a ctx.insnCtx = .ok ((), { s.setReg 15 target with advancePc := false }))
    (hn : ¬i.Taken ctx.cpu → handler a ctx.insnCtx = .ok ((), ctx.insnCtx)) :
    i.Goes host ctx target := by
  unfold PrintedBranch.Goes
  rw [hl]
  by_cases hx : emulatorShouldExecNextInsn ctx.cpu
  case pos =>
    by_cases hi : i.Taken ctx.cpu
    case pos =>
      refine ⟨_, cpuSingleStep_of_handler hx hw ho ha hh <| ht hi, ?_⟩
      rw [if_pos ⟨hx, hi⟩]
      rfl
    case neg =>
      refine ⟨_, cpuSingleStep_of_handler hx hw ho ha hh <| hn hi, ?_⟩
      rw [if_neg (hi ·.right)]
      rfl
  case neg =>
    have hl : insnLength w = o.length := by simp [insnLength, ho]
    refine ⟨ctx.insnCtx.finish o.length, ?_, ?_⟩
    case refine_1 =>
      refine cpuSingleStep_ok_iff.mpr ⟨w, ctx.insnCtx, hw, by rw [hl], ?_⟩
      rw [handlers_of_not_exec hx]
      exact decodeInsn_ok_iff ho |>.mpr ⟨rfl, hl⟩
    case refine_2 =>
      rw [if_neg (hx ·.left)]
      rfl

theorem branch_length (ho : o ∈ opcodes) (hb : BranchInsn.isBranch o.variant) :
    o.length = if o.variant ∈ [.bT1, .bT2, .cbnzT1] then 2 else 4 := by
  have hm : o ∈ opcodes.filter (BranchInsn.isBranch ·.variant) := List.mem_filter.mpr ⟨ho, hb⟩
  rw [BranchInsn.opcodes_filter_isBranch] at hm
  revert o
  decide +kernel

-- What is printed and where the branch goes, from its two handlers.
theorem describes_of_handlers {v : Variant} {pc : Word} {t : Byte → Byte → String}
    {h : Args → Disas String Unit} {m : Disas DisasBuffer Unit}
    {handler : Callbacks U → Args → Emu U Unit} (f : EmuCtx U → InsnEmuCtx U)
    (ho : decode w = some o) (ha : o.args w = .ok a) (hv : o.variant = v)
    (hl : i.length = o.length) (hh : disassemblyCallbacks v = some h)
    (he : ∀ host, emulationCallbacks host v = some (handler host))
    (hp : ∀ itState itCond, Writes pc itState itCond (t itState itCond) (h a) m)
    (ht : ∀ itState itCond, t itState itCond = i.text (itSuffix itState itCond) target)
    (hg : ∀ host (ctx : EmuCtx U), ctx.pc = pc → i.Taken ctx.cpu →
      handler host a ctx.insnCtx = .ok ((), { (f ctx).setReg 15 target with advancePc := false }))
    (hn : ∀ host (ctx : EmuCtx U), ¬i.Taken ctx.cpu →
      handler host a ctx.insnCtx = .ok ((), ctx.insnCtx)) :
    i.Describes U w pc target := by
  subst hv
  constructor
  case text =>
    intro ctx hw hc
    subst hc
    exact ht _ _ ▸ disassembly_of_writes hw ho ha hh (hp _ _)
  case goes =>
    intro host ctx hw hc
    exact goes_of_handler hl hw ho ha (he host) (hg host ctx hc) (hn host ctx)

-- The decoded branches one by one.
theorem exists_describes (U : Type) (ho : decode w = some o) (ha : o.args w = .ok a)
    (hb : BranchInsn.isBranch o.variant) (pc : Word) : ∃ (i : PrintedBranch) (target : Word),
      i.Shows o.variant a ∧ i.length = o.length ∧ i.Describes U w pc target := by
  have hm := (Pattern.firstMatch_some ho).left
  have hr := arguments_branch hm hb
  have hcond : (a.uint8 .cond).toNat < 16 := uint8_lt ha fun x hx hv => hr x hx (.inl hv)
  have hRn : (a.uint8 .Rn).toNat < 16 := uint8_lt ha fun x hx hv => hr x hx (.inr hv)
  have hl := branch_length hm hb
  have hpsr (ctx : EmuCtx U) : getPsr ctx.insnCtx = .ok (ctx.cpu.psr, ctx.insnCtx) := rfl
  have hv : o.variant ∈ [.bT1, .bT2, .bT3, .bT4, .blT1, .cbnzT1] := of_decide_eq_true hb
  simp only [List.mem_cons, List.not_mem_nil, or_false] at hv
  obtain hv | hv | hv | hv | hv | hv := hv <;> rw [hv] at hl ⊢
  case inl =>
    -- `b_T1`
    obtain ⟨target, ht⟩ : ∃ x, relativeBranchTarget pc ((a.uint8 .imm).setWidth 32) 8 = .ok x :=
      relativeBranchTarget_ok (by decide)
    refine ⟨.bCond (a.uint8 .cond) .narrow, target, ⟨rfl, rfl⟩, hl.symm,
      describes_of_handlers EmuCtx.insnCtx ho ha hv hl.symm rfl (fun _ => rfl)
      (fun _ _ => writes_isconditional (by decide) hcond <| writes_printTarget ht)
      (fun _ _ => (String.append_assoc ..).symm) (fun _ ctx hc h => ?_) fun _ ctx h => ?_⟩
    case refine_1 =>
      subst hc
      rw [Emulation.i16BT1, bind_of_ok (hpsr ctx), show condSatisfied _ _ = true from h]
      exact branch_of_ok ht
    case refine_2 =>
      rw [Emulation.i16BT1, bind_of_ok (hpsr ctx), Bool.eq_false_iff.mpr h]
      rfl
  case inr.inl =>
    -- `b_T2`
    obtain ⟨target, ht⟩ : ∃ x, relativeBranchTarget pc ((a.uint16 .imm).setWidth 32) 11 = .ok x :=
      relativeBranchTarget_ok (by decide)
    exact ⟨.b .narrow, target, rfl, hl.symm,
      describes_of_handlers EmuCtx.insnCtx ho ha hv hl.symm rfl (fun _ => rfl)
      (fun _ _ => writes_unconditional (by decide) <| writes_printTarget ht)
      (fun _ _ => (String.append_assoc ..).symm) (fun _ _ hc _ => branch_of_ok (hc ▸ ht))
      fun _ _ h => absurd trivial h⟩
  case inr.inr.inl =>
    -- `b_T3`
    refine ⟨.bCond (a.uint8 .cond) .wide, pc + 2 * a.int32 .imm + 4, ⟨rfl, rfl⟩, hl.symm,
      describes_of_handlers EmuCtx.insnCtx ho ha hv hl.symm rfl (fun _ => rfl)
      (fun _ _ => writes_isconditional (by decide) hcond <| writes_printTarget rfl)
      (fun _ _ => (String.append_assoc ..).symm) (fun _ ctx hc h => ?_) fun _ ctx h => ?_⟩
    case refine_1 =>
      subst hc
      rw [Emulation.i32BT3, bind_of_ok (hpsr ctx), show condSatisfied _ _ = true from h]
      exact branch_of_ok rfl
    case refine_2 =>
      rw [Emulation.i32BT3, bind_of_ok (hpsr ctx), Bool.eq_false_iff.mpr h]
      rfl
  case inr.inr.inr.inl =>
    -- `b_T4`
    refine ⟨.b .wide, pc + 2 * a.int32 .imm + 4, rfl, hl.symm,
      describes_of_handlers EmuCtx.insnCtx ho ha hv hl.symm rfl (fun _ => rfl)
      (fun _ _ => writes_unconditional (by decide) <| writes_printTarget rfl)
      (fun _ _ => (String.append_assoc ..).symm) (fun _ _ hc _ => ?_) fun _ _ h => absurd trivial h⟩
    subst hc
    exact branch_of_ok rfl
  case inr.inr.inr.inr.inl =>
    -- `bl_T1`
    refine ⟨.bl, pc + 2 * a.int32 .imm + 4, rfl, hl.symm,
      describes_of_handlers (fun ctx => ctx.insnCtx.setReg 14 (ctx.pc + 4 ||| 1)) ho ha hv hl.symm
      rfl (fun _ => rfl) (fun _ _ => writes_unconditional (by decide) <| writes_printTarget rfl)
      (fun _ _ => ?_) (fun _ _ hc _ => ?_) fun _ _ h => absurd trivial h⟩
    case refine_1 =>
      simp only [PrintedBranch.text, String.append_assoc]
      rfl
    case refine_2 =>
      subst hc
      rfl
  case inr.inr.inr.inr.inr =>
    -- `cbnz_T1`
    let Rn : Fin 16 := ⟨_, hRn⟩
    have hreg : a.uint8 .Rn = regNo Rn :=
      BitVec.eq_of_toNat_eq (regNo_toNat Rn).symm
    obtain ⟨target, ht⟩ : ∃ x, relativeBranchTarget pc ((a.uint8 .imm).setWidth 32) 7 = .ok x :=
      relativeBranchTarget_ok (by decide)
    have hn (ctx : EmuCtx U) : getReg (regNo Rn) ctx.insnCtx = .ok (ctx.cpu.reg Rn, ctx.insnCtx) :=
      getReg_eq
    have hw (s c : Byte) : Writes pc s c _ (i16CbnzT1 (a.uint8 .Rn) (a.uint8 .imm) (a.bool .op))
        (i16CbnzT1 (a.uint8 .Rn) (a.uint8 .imm) (a.bool .op) : Disas DisasBuffer Unit) :=
      writes_unconditional (by decide) <| writes_target ht
    cases hop : a.bool .op
    case false =>
      refine ⟨.cbz Rn, target, ⟨rfl, hop, hreg⟩, hl.symm,
        describes_of_handlers EmuCtx.insnCtx ho ha hv hl.symm rfl (fun _ => rfl) hw
        (fun _ _ => ?_) (fun _ ctx hc h => ?_) fun _ ctx h => ?_⟩
      case refine_1 =>
        rw [hop, hreg]
        simp only [PrintedBranch.text, String.append_assoc]
        rfl
      case refine_2 =>
        subst hc
        rw [hop, hreg, Emulation.i16CbnzT1, bind_of_ok (hn ctx), beq_iff_eq.mpr h]
        exact branch_of_ok ht
      case refine_3 =>
        rw [hop, hreg, Emulation.i16CbnzT1, bind_of_ok (hn ctx), beq_eq_false_iff_ne.mpr h]
        rfl
    case true =>
      refine ⟨.cbnz Rn, target, ⟨rfl, hop, hreg⟩, hl.symm,
        describes_of_handlers EmuCtx.insnCtx ho ha hv hl.symm rfl (fun _ => rfl) hw
        (fun _ _ => ?_) (fun _ ctx hc h => ?_) fun _ ctx h => ?_⟩
      case refine_1 =>
        rw [hop, hreg]
        simp only [PrintedBranch.text, String.append_assoc]
        rfl
      case refine_2 =>
        subst hc
        rw [hop, hreg, Emulation.i16CbnzT1, bind_of_ok (hn ctx), beq_eq_false_iff_ne.mpr h]
        exact branch_of_ok ht
      case refine_3 =>
        rw [hop, hreg, Emulation.i16CbnzT1, bind_of_ok (hn ctx), beq_iff_eq.mpr <| not_not.mp h]
        rfl

-- The text of a branch says where the emulation goes on.
theorem branch_disassembly (hw : ctx.insnWord = .ok w) (ho : decode w = some o)
    (hb : BranchInsn.isBranch o.variant) :
    ∃ a, o.args w = .ok a ∧ ∃ (i : PrintedBranch) (target : Word),
      i.Shows o.variant a ∧ i.length = o.length ∧
      ctx.disassembly = .ok (w, i.text (itSuffix ctx.cpu.itState ctx.cpu.itCond) target) ∧
      i.Goes host ctx target := by
  have ⟨a, ha, _⟩ := o.args_cases w
  have ⟨i, target, hs, hl, hi⟩ := exists_describes U ho ha hb ctx.pc
  exact ⟨a, ha, i, target, hs, hl, hi.text ctx hw rfl, hi.goes host ctx hw rfl⟩

-- The program `cbz r0, 6`.
theorem branch_disassembly_cbz :
    let ctx := smallMachine [0x08, 0xb1, 0x00, 0xbf]
    ∃ a, (BranchInsn.opcode (.cbnzT1 false ⟨0, by decide⟩ 0)).args 0xb108bf00 = .ok a ∧
      ∃ (i : PrintedBranch) (target : Word), i.Shows .cbnzT1 a ∧ i.length = 2 ∧
        ctx.disassembly =
          .ok (0xb108bf00, i.text (itSuffix ctx.cpu.itState ctx.cpu.itCond) target) ∧
        i.Goes noHost ctx target :=
  branch_disassembly (o := BranchInsn.opcode (.cbnzT1 false ⟨0, by decide⟩ 0)) (by decide +kernel)
    (by decide +kernel) (by decide)
