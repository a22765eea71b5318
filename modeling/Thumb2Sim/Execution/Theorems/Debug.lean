import Thumb2Sim.Disassembly.Theorems.Words
import Thumb2Sim.Execution.Debug
import Thumb2Sim.Execution.Theorems.Step

open Program Output Disassembly

-- What is printed in front of the emulation of an instruction, where the text of the instruction
-- is taken from a buffer without a limit.
namespace EmuCtx

variable {U : Type} (ctx : EmuCtx U)

def disassembly : Except Undefined (Word × String) := do
  let insnWord ← ctx.insnWord
  let (_, disasCtx) ← decodeInsn insnWord (some disassemblyCallbacks) (ctx.disasCtx "")
  return (insnWord, disasCtx.disasBuffer)

def debugText (insnWord : Word) (t : String) : String :=
  if t = "" then ctx.disasWarning insnWord ++ ctx.debugLine "" else ctx.debugLine t

def output (d : Debugging) : String :=
  match ctx.disassembly with
  | .ok (insnWord, t) => if d.printDisassembly then ctx.debugText insnWord t else ""
  | .error _          => ""

end EmuCtx

variable {U : Type} {host : Callbacks U} {d : Debugging} {ctx ctx' : EmuCtx U} {w : Word}
  {t : String}

theorem disassembly_of_disassembles {size : Nat} (hw : ctx.insnWord = .ok w)
    (h : Disassembles size w ctx.pc ctx.cpu.itState ctx.cpu.itCond t) :
    ctx.disassembly = .ok (w, t) := by
  have hd : decodeInsn w (some disassemblyCallbacks) (ctx.disasCtx "") =
      .ok (insnLength w, ctx.disasCtx t) :=
    String.empty_append (s := t) ▸ h.whole ""
  unfold EmuCtx.disassembly
  rw [hw]
  change decodeInsn w _ _ >>= _ = _
  rw [hd]
  rfl

-- The text that the handler of an instruction prints.
theorem disassembly_of_writes {size : Nat} {o : Opcode} {a : Args} {h : Args → Disas String Unit}
    {m : Disas (Buffer size) Unit} (hw : ctx.insnWord = .ok w) (ho : decode w = some o)
    (ha : o.args w = .ok a) (hh : disassemblyCallbacks o.variant = some h)
    (hp : Writes ctx.pc ctx.cpu.itState ctx.cpu.itCond t (h a) m) :
    ctx.disassembly = .ok (w, t) := by
  have hd := decodeInsn_ok_iff ho |>.mpr
    ⟨(congrFun (Opcode.callHandler_of_args hh ha) _).trans <| hp.whole "", rfl⟩
  rw [EmuCtx.disassembly, hw]
  change decodeInsn w _ (ctx.disasCtx "") >>= _ = _
  rw [EmuCtx.disasCtx, hd, String.empty_append]
  rfl

theorem decodeAgain_eq {n : Nat} {disasCtx : DisasCtx DisasBuffer}
    (h : decodeInsn w (some disassemblyCallbacks) disasCtx = .ok (n, disasCtx)) :
    decodeAgain d w disasCtx = .ok disasCtx := by
  unfold decodeAgain
  split
  case isTrue  => rfl
  case isFalse => rw [h]; rfl

-- The array of 128 characters is large enough for all instructions.
theorem cpuDebugInsn_eq (h : Disassembles 128 w ctx.pc ctx.cpu.itState ctx.cpu.itCond t) :
    cpuDebugInsn d ctx w = .ok (ctx.debugText w t) := by
  let buffer : DisasBuffer := Buffer.empty (by decide)
  have hb : buffer.text.length + t.length < 128 := by
    have hl := h.length_le
    change "".length + t.length < 128
    rw [String.length_empty]
    omega
  have hd : decodeInsn w (some disassemblyCallbacks) (ctx.disasCtx buffer) =
      .ok (insnLength w, ctx.disasCtx <| print buffer t) :=
    h.bounded buffer hb
  have ht : (print buffer t).text = t := by
    rw [Buffer.print_text hb]
    exact String.empty_append
  unfold cpuDebugInsn EmuCtx.debugText
  rw [hd]
  change (if (print buffer t).text = "" then _ else pure (ctx.debugLine (print buffer t).text)) = _
  by_cases h₀ : t = ""
  case neg =>
    rw [ht, if_neg h₀, if_neg h₀]
    rfl
  case pos =>
    subst h₀
    rw [Buffer.print_empty] at hd ht ⊢
    rw [if_pos ht, if_pos rfl]
    rw [decodeAgain_eq hd]
    rfl

-- With the output, a step does the same as without.
theorem cpuSingleStepPrint_eq : cpuSingleStepPrint host d ctx =
    (cpuSingleStep host ctx).map fun ctx' => (ctx', ctx.output d) := by
  cases hw : ctx.insnWord
  case error e =>
    rw [cpuSingleStep_eq, cpuSingleStepPrint, hw]
    rfl
  case ok w =>
    obtain ⟨t, ht⟩ := exists_disassembles 128 w ctx.pc ctx.cpu.itState ctx.cpu.itCond
    have ho : debugOutput d ctx w = .ok (ctx.output d) := by
      simp only [debugOutput, EmuCtx.output, disassembly_of_disassembles hw ht]
      split
      case isTrue  => exact cpuDebugInsn_eq ht
      case isFalse => rfl
    rw [cpuSingleStep_eq, cpuSingleStepPrint, hw]
    change debugOutput d ctx w >>= _ = _
    rw [ho]
    change decodeInsn w (ctx.handlers host) ctx.insnCtx >>= _ = Except.map _ (Except.map _ _)
    cases decodeInsn w (ctx.handlers host) ctx.insnCtx <;> rfl

section

variable {endEmulationCallback : Option (EmuCtx U → EmuCtx U × Bool)} {fuel : Nat} {output : String}

-- The rounds of the loop in front of the last one, with the contexts in which the host is asked if
-- the emulation is to end.
structure Rounds (host : Callbacks U) (endEmulationCallback : Option (EmuCtx U → EmuCtx U × Bool))
    (r : Nat → EmuCtx U) (n : Nat) : Prop where
  goesOn : ∀ k < n, (pollEnd endEmulationCallback (r k)).2 = false
  step   : ∀ k < n, cpuSingleStep host (pollEnd endEmulationCallback (r k)).1 = .ok (r (k + 1))

def roundsOutput (d : Debugging) (endEmulationCallback : Option (EmuCtx U → EmuCtx U × Bool))
    (r : Nat → EmuCtx U) (n : Nat) : String :=
  String.join <| (List.range n).map fun k => (pollEnd endEmulationCallback (r k)).1.output d

theorem roundsOutput_succ {r : Nat → EmuCtx U} {n : Nat} :
    roundsOutput d endEmulationCallback r (n + 1) =
      (pollEnd endEmulationCallback (r 0)).1.output d ++
        roundsOutput d endEmulationCallback (fun k => r (k + 1)) n := by
  unfold roundsOutput
  rw [List.range_succ_eq_map, List.map_cons, String.join_cons, List.map_map]
  rfl

-- One round of the loop.
theorem cpuRun_succ : cpuRun host d endEmulationCallback (fuel + 1) ctx =
    if (pollEnd endEmulationCallback ctx).2 then
      .ok (some ((pollEnd endEmulationCallback ctx).1, ""))
    else
      cpuSingleStep host (pollEnd endEmulationCallback ctx).1 >>= fun ctx' =>
        (cpuRun host d endEmulationCallback fuel ctx').map <| Option.map fun p =>
          (p.1, (pollEnd endEmulationCallback ctx).1.output d ++ p.2) := by
  rw [cpuRun]
  split
  case isTrue  => rfl
  case isFalse =>
    rw [cpuSingleStepPrint_eq]
    cases cpuSingleStep host (pollEnd endEmulationCallback ctx).1
    case error  => rfl
    case ok ctx' =>
      change cpuRun host d endEmulationCallback fuel ctx' >>= _ = Except.map _ _
      cases cpuRun host d endEmulationCallback fuel ctx' <;> rfl

-- The loop ends in the first round in which the host wants it to.
theorem cpuRun_ok_iff : cpuRun host d endEmulationCallback fuel ctx = .ok (some (ctx', output)) ↔
    ∃ n < fuel, ∃ r : Nat → EmuCtx U, r 0 = ctx ∧ Rounds host endEmulationCallback r n ∧
      pollEnd endEmulationCallback (r n) = (ctx', true) ∧
      output = roundsOutput d endEmulationCallback r n := by
  induction fuel generalizing ctx output
  case zero =>
    constructor
    case mp  => exact fun h => nomatch h
    case mpr => exact fun ⟨_, hn, _⟩ => nomatch hn
  case succ fuel hi =>
    rw [cpuRun_succ]
    split
    case isTrue he =>
      constructor
      case mp =>
        intro h
        cases h
        exact ⟨0, Nat.succ_pos _, fun _ => ctx, rfl, ⟨by simp, by simp⟩, Prod.ext rfl he, rfl⟩
      case mpr =>
        rintro ⟨n, hn, r, rfl, hr, hp, rfl⟩
        cases n
        case zero   => rw [hp]; rfl
        case succ n => exact nomatch (hr.goesOn 0 <| Nat.succ_pos n).symm.trans he
    case isFalse he =>
      rw [Except.bind_ok_iff]
      constructor
      case mp =>
        rintro ⟨ctx₁, hs, h⟩
        obtain ⟨p, hp, hc⟩ := Except.map_ok_iff.mp h
        obtain ⟨q, rfl, hq⟩ := Option.map_eq_some_iff.mp hc
        cases hq
        obtain ⟨n, hn, r, rfl, hr, he', ho⟩ := hi.mp hp
        refine ⟨n + 1, Nat.succ_lt_succ hn, fun k => k.casesOn ctx r, rfl, ⟨?_, ?_⟩, he', ?_⟩
        case refine_1 =>
          intro k hk
          cases k
          case zero   => exact Bool.eq_false_iff.mpr he
          case succ k => exact hr.goesOn k <| Nat.lt_of_succ_lt_succ hk
        case refine_2 =>
          intro k hk
          cases k
          case zero   => exact hs
          case succ k => exact hr.step k <| Nat.lt_of_succ_lt_succ hk
        case refine_3 => rw [roundsOutput_succ, ho]; rfl
      case mpr =>
        rintro ⟨n, hn, r, rfl, hr, hp, rfl⟩
        cases n
        case zero   => rw [hp] at he; exact absurd rfl he
        case succ n =>
          refine ⟨r 1, hr.step 0 <| Nat.succ_pos n, Except.map_ok_iff.mpr ⟨_, hi.mpr
            ⟨n, Nat.lt_of_succ_lt_succ hn, fun k => r (k + 1), rfl, ⟨?_, ?_⟩, hp, rfl⟩, ?_⟩⟩
          case refine_1 => exact fun k hk => hr.goesOn (k + 1) <| Nat.succ_lt_succ hk
          case refine_2 => exact fun k hk => hr.step (k + 1) <| Nat.succ_lt_succ hk
          case refine_3 => rw [roundsOutput_succ]; rfl

-- What is printed has no effect on the emulation.
theorem cpuRun_map_fst {d' : Debugging} :
    (cpuRun host d' endEmulationCallback fuel ctx).map (Option.map Prod.fst) =
      (cpuRun host d endEmulationCallback fuel ctx).map (Option.map Prod.fst) := by
  induction fuel generalizing ctx
  case zero => rfl
  case succ fuel hi =>
    rw [cpuRun_succ, cpuRun_succ]
    split
    case isTrue  => rfl
    case isFalse =>
      cases cpuSingleStep host (pollEnd endEmulationCallback ctx).1
      case error  => rfl
      case ok ctx' =>
        have hm (s : String) (x : Except Undefined (Option (EmuCtx U × String))) :
            (x.map <| Option.map fun p => (p.1, s ++ p.2)).map (Option.map Prod.fst) =
              x.map (Option.map Prod.fst) := by
          obtain e | ⟨⟨⟩ | p⟩ := x <;> rfl
        exact (hm _ _).trans <| hi.trans (hm _ _).symm

-- The loop emulates single steps until the host wants to end, whatever is printed. With the output
-- it prints the whole text of every instruction, in spite of the limited buffer.
theorem cpuRun_output (host : Callbacks U) (d : Debugging)
    (endEmulationCallback : Option (EmuCtx U → EmuCtx U × Bool)) (fuel : Nat) (ctx : EmuCtx U) :
    (∀ d', (cpuRun host d' endEmulationCallback fuel ctx).map (Option.map Prod.fst) =
      (cpuRun host d endEmulationCallback fuel ctx).map (Option.map Prod.fst)) ∧
    ∀ ctx' output, cpuRun host d endEmulationCallback fuel ctx = .ok (some (ctx', output)) ↔
      ∃ n < fuel, ∃ r : Nat → EmuCtx U, r 0 = ctx ∧ Rounds host endEmulationCallback r n ∧
        pollEnd endEmulationCallback (r n) = (ctx', true) ∧
        output = roundsOutput d endEmulationCallback r n :=
  ⟨fun _ => cpuRun_map_fst, fun _ _ => cpuRun_ok_iff⟩

end
