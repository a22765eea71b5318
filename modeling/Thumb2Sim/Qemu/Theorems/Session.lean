import Thumb2Sim.Qemu.Theorems.Transport

open Ascii DebuggingProtocol

-- What the server answers to a command.
inductive Answer
  | sent (s : Sent)
  | error

namespace Answer

def tx : Answer → List Byte
  | sent s => s.bytes
  | error  => txError

-- What the client gets.
def message : Answer → DebuggingProtocolResponse
  | sent s => s.frame.received
  | error  => stray <| ofChar '-'

theorem tokenizer_append (a : Answer) (more : List Byte) :
    tokenizer (a.tx ++ more) = (a.message :: (tokenizer more).1, (tokenizer more).2) := by
  cases a
  case sent s => rw [tx, s.bytes_eq, Frame.tokenizer_append, message]
  case error  => exact tokenizer_of_some <| token_cons_of_ne <| by decide

-- Answers one behind the other, in any chunks.

theorem tokenizer_flatMap (answers : List Answer) :
    tokenizer (answers.flatMap tx) = (answers.map message, []) := by
  induction answers
  case nil               => exact tokenizer_of_none rfl
  case cons a answers hi => rw [List.flatMap_cons, tokenizer_append, hi, List.map_cons]

theorem foldl_put_flatMap {answers : List Answer} {chunks : List (List Byte)}
    (h : chunks.flatten = answers.flatMap tx) :
    chunks.foldl RXBuffer.put RXBuffer.init = { buffer := [], msgs := answers.map message } := by
  have hp : _ = tokenizer ([] ++ chunks.flatten) :=
    RXBuffer.foldl_put_of_tokenizer chunks .init (tokenizer_of_none rfl).symm
  rw [List.nil_append, h, tokenizer_flatMap] at hp
  obtain ⟨hm, hb⟩ := Prod.mk.inj hp
  rw [← hm, ← hb]

end Answer

namespace ServerAction

-- The request of a single step.
def isStep : ServerAction → Bool
  | command msg => msg = ofString "vCont;s:1;c"
  | reject      => false

-- The number of steps that the actions ask for.
def steps (as : List ServerAction) : Nat :=
  as.countP isStep

-- The actions in front of the end of the process.
def served (as : List ServerAction) : List ServerAction :=
  as.takeWhile fun a => !a.exits

end ServerAction

section

variable {U : Type} {host : Callbacks U} {md5 : Md5} {ctx ctx' : EmuCtx U}
  {tx msg output : List Byte} {success : Bool}

theorem exists_answer_of_isDigit {data : List Byte} (h : ∀ b ∈ data, Hex.IsDigit b) :
    ∃ a : Answer, txFrame data = a.tx :=
  ⟨.sent ⟨.server, data, fun hh => absurd (h _ hh) (by decide)⟩, rfl⟩

theorem exists_answer_hexstr (bytes : List Byte) :
    ∃ a : Answer, txFrame (memoryToHexstr bytes) = a.tx :=
  exists_answer_of_isDigit fun _ hb => Hex.isDigit_of_mem_ofBytes <| memoryToHexstr_eq bytes ▸ hb

theorem gdbDumpRegisterSet_answer (cpu : Cpu) :
    ∃ a : Answer, (gdbDumpRegisterSet cpu).1 = a.tx := by
  rw [ARMDebuggingProtocol.gdbDumpRegisterSet_eq]
  refine exists_answer_of_isDigit fun b hb => ?_
  obtain ⟨_, -, hw⟩ := List.mem_flatMap.mp hb
  exact ARMDebuggingProtocol.isDigit_of_mem_wordText hw

theorem gdbDumpMemory_answer {startAddress length : Word}
    (h : gdbDumpMemory ctx startAddress length = .ok (tx, success)) :
    ∃ a : Answer, tx = a.tx := by
  unfold gdbDumpMemory at h
  split at h
  case h_2 => cases h; exact ⟨.error, rfl⟩
  case h_1 =>
    obtain ⟨bytes, -, h⟩ := Except.bind_ok_iff.mp h
    split at h <;> cases h
    exact exists_answer_hexstr bytes

theorem gdbHashMemory_answer {startAddress length : Word}
    (h : gdbHashMemory ctx startAddress length md5 = .ok (tx, success)) :
    ∃ a : Answer, tx = a.tx := by
  unfold gdbHashMemory at h
  split at h
  case h_2 => cases h; exact ⟨.error, rfl⟩
  case h_1 =>
    obtain ⟨bytes, -, h⟩ := Except.bind_ok_iff.mp h
    cases h
    exact exists_answer_hexstr _

-- A command is answered by one frame or by an error. The machine takes a step if this has been
-- asked for, and nothing else changes it.
theorem gdbHandleCommand_answer
    (h : gdbHandleCommand host md5 msg ctx = .ok (.reply tx success, ctx')) :
    (∃ a : Answer, tx = a.tx) ∧
      iterate (cpuSingleStep host) (if msg = ofString "vCont;s:1;c" then 1 else 0) ctx =
        .ok ctx' := by
  have he : ∃ a : Answer, txError = a.tx := ⟨.error, rfl⟩
  unfold gdbHandleCommand at h
  split_ifs at h with hg hm hs hk hq
  case pos =>
    cases h
    rw [if_neg (hg ▸ by decide)]
    exact ⟨gdbDumpRegisterSet_answer _, rfl⟩
  case pos =>
    rw [if_neg fun hv => by rw [hv] at hm; cases hm]
    split at h
    case h_2 => cases h; exact ⟨he, rfl⟩
    case h_1 =>
      obtain ⟨⟨_, _⟩, hd, h⟩ := Except.bind_ok_iff.mp h
      cases h
      exact ⟨gdbDumpMemory_answer hd, rfl⟩
  case pos =>
    obtain ⟨_, hc, h⟩ := Except.bind_ok_iff.mp h
    cases h
    rw [if_pos hs, iterate, hc]
    exact ⟨⟨.sent ⟨.server, [], List.not_mem_nil⟩, rfl⟩, rfl⟩
  case pos => cases h
  case pos =>
    rw [if_neg hs]
    split at h
    case h_2 => cases h; exact ⟨he, rfl⟩
    case h_1 =>
      obtain ⟨⟨_, _⟩, hd, h⟩ := Except.bind_ok_iff.mp h
      cases h
      exact ⟨gdbHashMemory_answer hd, rfl⟩
  case neg => cases h; rw [if_neg hs]; exact ⟨he, rfl⟩

theorem ServerAction.perform_answer {a : ServerAction}
    (h : a.perform host md5 ctx = .ok (.reply tx success, ctx')) :
    (∃ x : Answer, tx = x.tx) ∧ iterate (cpuSingleStep host) (steps [a]) ctx = .ok ctx' := by
  cases a
  case reject      => cases h; exact ⟨⟨.error, rfl⟩, rfl⟩
  case command msg =>
    have hs : steps [command msg] = if msg = ofString "vCont;s:1;c" then 1 else 0 := by
      simp [steps, isStep, List.countP_cons]
    rw [hs]
    exact gdbHandleCommand_answer h

-- Behind a kill request, nothing is answered.
theorem ServerAction.perform_exit {a : ServerAction}
    (h : a.perform host md5 ctx = .ok (.exit, ctx')) : a.exits ∧ ctx' = ctx := by
  cases a
  case reject      => cases h
  case command msg =>
    have hk : msg.head? = some (ofChar 'k') := by
      by_contra hk
      exact gdbHandleCommand_ne_exit hk h
    cases (gdbHandleCommand_kill hk).symm.trans h
    exact ⟨decide_eq_true hk, rfl⟩

theorem ServerAction.not_exits_of_reply {a : ServerAction}
    (h : a.perform host md5 ctx = .ok (.reply tx success, ctx')) : a.exits = false := by
  cases a
  case reject      => rfl
  case command msg =>
    refine decide_eq_false fun hk => ?_
    cases (gdbHandleCommand_kill hk).symm.trans h

-- The answers to the actions, one after the other. The machine has taken the steps that have been
-- asked for by then.
theorem ServerAction.performAll_answers {as : List ServerAction}
    (h : performAll host md5 as ctx = .ok (output, ctx')) :
    ∃ answers : List Answer, output = answers.flatMap Answer.tx ∧
      answers.length = (served as).length ∧
      iterate (cpuSingleStep host) (steps <| served as) ctx = .ok ctx' ∧
      ∀ (k : Nat) (hk : k < answers.length), ∃ a ctx₁ ctx₂ success, as[k]? = some a ∧
        iterate (cpuSingleStep host) (steps <| as.take k) ctx = .ok ctx₁ ∧
        a.perform host md5 ctx₁ = .ok (.reply answers[k].tx success, ctx₂) := by
  induction as generalizing ctx output
  case nil =>
    cases h
    exact ⟨[], rfl, rfl, rfl, fun _ hk => absurd hk <| Nat.not_lt_zero _⟩
  case cons a as hi =>
    obtain ⟨outcome, ctx₁, hp, h⟩ := Program.bind_ok_iff.mp h
    cases outcome
    case exit =>
      cases h
      obtain ⟨he, rfl⟩ := perform_exit hp
      have hs : served (a :: as) = [] := by simp [served, he]
      exact ⟨[], rfl, by rw [hs]; rfl, by rw [hs]; rfl, fun _ hk => absurd hk <| Nat.not_lt_zero _⟩
    case reply tx success =>
      obtain ⟨rest, ctx₂, hr, h⟩ := Program.bind_ok_iff.mp h
      cases h
      have ⟨⟨x, hx⟩, hn⟩ := perform_answer hp
      have ⟨answers, ho, hl, hc, hk⟩ := hi hr
      have hs : served (a :: as) = a :: served as := by
        simp [served, not_exits_of_reply hp]
      have hst : ∀ l : List ServerAction, steps (a :: l) = steps [a] + steps l := by
        intro l
        rw [← List.singleton_append, steps, steps, steps, List.countP_append]
      refine ⟨x :: answers, ?_, ?_, ?_, ?_⟩
      case refine_1 => rw [hx, ho, List.flatMap_cons]
      case refine_2 => rw [hs, List.length_cons, List.length_cons, hl]
      case refine_3 => rw [hs, hst, iterate_add, hn]; exact hc
      case refine_4 =>
        intro k hlt
        cases k
        case zero   => exact ⟨a, ctx, ctx₁, success, rfl, rfl, hx ▸ hp⟩
        case succ k =>
          have ⟨b, ctx₃, ctx₄, success', hb, hm, hw⟩ := hk k <| Nat.lt_of_succ_lt_succ hlt
          refine ⟨b, ctx₃, ctx₄, success', hb, ?_, hw⟩
          rw [List.take_succ_cons, hst, iterate_add, hn]
          exact hm

end

-- Whatever the server reads, the client gets one message for every message that is answered, in
-- their order and in whatever chunks the answers are received, and no other byte. The answer number
-- `k` is the one of the machine behind the steps that have been asked for before, and the machine
-- does nothing else.
theorem handleConnection_session {U : Type} {host : Callbacks U} {md5 : Md5} {rs : List Read}
    {ctx ctx' : EmuCtx U} {output : List Byte}
    (h : handleConnection host md5 rs ctx = .ok (output, ctx')) :
    ∃ answers : List Answer,
      (∀ chunks : List (List Byte), chunks.flatten = output →
        chunks.foldl RXBuffer.put RXBuffer.init =
          { buffer := [], msgs := answers.map Answer.message }) ∧
      answers.length = (ServerAction.served <| actions rs).length ∧
      iterate (cpuSingleStep host) (ServerAction.steps <| ServerAction.served <| actions rs) ctx =
        .ok ctx' ∧
      ∀ (k : Nat) (hk : k < answers.length), ∃ a ctx₁ ctx₂ success, (actions rs)[k]? = some a ∧
        iterate (cpuSingleStep host) (ServerAction.steps <| (actions rs).take k) ctx = .ok ctx₁ ∧
        a.perform host md5 ctx₁ = .ok (.reply answers[k].tx success, ctx₂) := by
  rw [handleConnection_eq] at h
  have ⟨answers, ho, hl, hs, hk⟩ := ServerAction.performAll_answers h
  exact ⟨answers, fun chunks hc => Answer.foldl_put_flatMap <| hc.trans ho, hl, hs, hk⟩

-- Two steps at a branch to itself with something unknown in between, and then the end.
theorem handleConnection_session_steps :
    let ctx := smallMachine [0xfe, 0xe7]
    let rs : List Read := [⟨[], stepCommand.frame, by decide⟩, ⟨[], ofString "+$?#", by decide⟩,
      ⟨[], stepCommand.frame, by decide⟩, ⟨[], frame (ofString "k"), by decide⟩]
    ∃ output ctx', handleConnection noHost Md5.digest rs ctx = .ok (output, ctx') ∧
      ∃ answers : List Answer,
        (∀ chunks : List (List Byte), chunks.flatten = output →
          chunks.foldl RXBuffer.put RXBuffer.init =
            { buffer := [], msgs := answers.map Answer.message }) ∧
        answers.length = (ServerAction.served <| actions rs).length ∧
        iterate (cpuSingleStep noHost)
          (ServerAction.steps <| ServerAction.served <| actions rs) ctx = .ok ctx' ∧
        ∀ (k : Nat) (hk : k < answers.length), ∃ a ctx₁ ctx₂ success,
          (actions rs)[k]? = some a ∧
          iterate (cpuSingleStep noHost) (ServerAction.steps <| (actions rs).take k) ctx = .ok ctx₁ ∧
          a.perform noHost Md5.digest ctx₁ = .ok (.reply answers[k].tx success, ctx₂) := by
  intro ctx rs
  have ho : (handleConnection noHost Md5.digest rs ctx).isOk := by decide +kernel
  cases h : handleConnection noHost Md5.digest rs ctx
  case error => rw [h] at ho; cases ho
  case ok p  => exact ⟨p.1, p.2, rfl, handleConnection_session h⟩
