import Thumb2Sim.Qemu.DebuggingProtocol

open Ascii DebuggingProtocol

-- A command that `send_cmd` can encode and that has no hash.
structure Command where
  text   : List Byte
  ascii  : ∀ b ∈ text, b < 0x80
  noHash : ofChar '#' ∉ text

namespace Command

variable (c : Command)

def frame : List Byte :=
  DebuggingProtocol.frame c.text

-- The frame without the checksum.
def header : List Byte :=
  ofString "+$" ++ c.text ++ [ofChar '#']

-- The server exits.
def isKill : Prop :=
  c.text.head? = some (ofChar 'k')

instance : Decidable c.isKill :=
  inferInstanceAs <| Decidable (_ = _)

def checksumText : List Byte :=
  Hex.padded 2 (checksum c.text)

end Command

-- What the server does with the content of its buffer.
inductive ServerAction
  | command (msg : List Byte)
  | reject
deriving DecidableEq

namespace ServerAction

def exits : ServerAction → Bool
  | command msg => msg.head? = some (ofChar 'k')
  | reject      => false

section

variable {U : Type} (host : Callbacks U) (md5 : Md5)

def perform : ServerAction → Program (EmuCtx U) Undefined Outcome
  | command msg => gdbHandleCommand host md5 msg
  | reject      => pure <| .reply txError false

-- Nothing is done once the process has ended.
def performAll : List ServerAction → Program (EmuCtx U) Undefined (List Byte)
  | []      => pure []
  | a :: as => do
    match ← a.perform host md5 with
    | .reply tx _ => return tx ++ (← performAll as)
    | .exit       => return []

end

end ServerAction

namespace Read

variable (r : Read)

def action : ServerAction :=
  (rxMessage r.rxData).elim .reject .command

def exits : Bool :=
  r.chunk ≠ [] ∧ r.action.exits

end Read

-- What the server does with the chunks that it reads, up to the end of the process.
def actions : List Read → List ServerAction
  | []      => []
  | r :: rs =>
    if r.chunk = [] then actions rs else r.action :: if r.exits then [] else actions rs

-- The bytes that the server has read. It reads none once the process has ended.
def received : List Read → List Byte
  | []      => []
  | r :: rs => r.chunk ++ if r.exits then [] else received rs

-- The commands whose frames are complete within the given bytes.
def completed : List Command → List Byte → List Command
  | [],      _     => []
  | c :: cs, bytes =>
    if c.frame <+: bytes then c :: completed cs (bytes.drop c.frame.length) else []

-- At any time, the server has executed the commands of all frames that it has received, and it has
-- done nothing else.
def ExecutesEachOnce (cs : List Command) (rs : List Read) : Prop :=
  ∀ n, actions (rs.take n) =
    (completed cs <| received <| rs.take n).map fun c => .command c.text

-- Every read returns exactly one frame, and the server can see its end. What is read together with
-- a kill request does not matter unless it is a whole frame.
def OneFrameReads : List Command → List Read → Prop
  | _,       []      => True
  | [],      r :: rs => r.chunk = [] ∧ OneFrameReads [] rs
  | c :: cs, r :: rs =>
    if r.chunk = [] then
      OneFrameReads (c :: cs) rs
    else
      0 ∉ c.text ∧ c.frame <+: r.chunk ∧
      if c.isKill then
        completed cs (r.chunk.drop c.frame.length) = []
      else
        r.chunk = c.frame ∧ OneFrameReads cs rs

section

variable {U : Type} {host : Callbacks U} {md5 : Md5} {msg : List Byte} {ctx : EmuCtx U}

-- The process ends exactly with a kill request.

theorem gdbHandleCommand_kill (h : msg.head? = some (ofChar 'k')) :
    gdbHandleCommand host md5 msg ctx = .ok (.exit, ctx) := by
  have hg : msg ≠ ofString "g" := fun hm => absurd (hm ▸ h) (by decide)
  have hv : msg ≠ ofString "vCont;s:1;c" := fun hm => absurd (hm ▸ h) (by decide)
  have hm : msg.head? ≠ some (ofChar 'm') := fun hm => absurd (hm.symm.trans h) (by decide)
  simp only [gdbHandleCommand, if_neg hg, if_neg hm, if_neg hv, if_pos h]
  rfl

theorem gdbHandleCommand_ne_exit (h : msg.head? ≠ some (ofChar 'k')) {ctx' : EmuCtx U} :
    gdbHandleCommand host md5 msg ctx ≠ .ok (.exit, ctx') := by
  have hp : ∀ {tx success} {ctx₁ : EmuCtx U}, (Pure.pure (Outcome.reply tx success, ctx₁) :
      Except Undefined _) ≠ .ok (.exit, ctx') := by
    intro _ _ _ h
    cases h
  have hb : ∀ {α} {x : Except Undefined α} {f : α → Except Undefined (Outcome × EmuCtx U)},
      (∀ a, f a ≠ .ok (.exit, ctx')) → (x >>= f) ≠ .ok (.exit, ctx') := by
    intro _ x f hf
    cases x
    case error => exact fun h => by cases h
    case ok a  => exact hf a
  unfold gdbHandleCommand
  split_ifs
  case pos => exact hp
  case pos => split; exact hb fun _ => hp; exact hp
  case pos => exact hb fun _ => hp
  case pos => split; exact hb fun _ => hp; exact hp
  case neg => exact hp

theorem handleConnection_eq (rs : List Read) :
    handleConnection host md5 rs = ServerAction.performAll host md5 (actions rs) := by
  induction rs
  case nil => rfl
  case cons r rs hi =>
    have ha : interpretRxdata host md5 r.rxData = r.action.perform host md5 := by
      unfold interpretRxdata Read.action
      cases rxMessage r.rxData <;> rfl
    unfold handleConnection actions
    by_cases hc : r.chunk = []
    case pos => rw [if_pos hc, if_pos hc, hi]
    case neg =>
      rw [if_neg hc, if_neg hc, ServerAction.performAll, ha, hi]
      cases he : r.exits
      case false => rfl
      case true  =>
        have he' : r.action.exits := (of_decide_eq_true he).right
        cases hr : r.action
        case reject      => rw [hr] at he'; cases he'
        case command msg =>
          rw [hr] at he'
          funext ctx
          have hk : (ServerAction.command msg).perform host md5 ctx = .ok (.exit, ctx) :=
            gdbHandleCommand_kill <| of_decide_eq_true he'
          rw [Program.bind_of_ok hk, Program.bind_of_ok hk]

end

-- The buffer and the messages in it.

section

variable {buffer msg : List Byte} {c : Command} {r : Read}

theorem Read.chunk_prefix (r : Read) : r.chunk <+: r.rxData := by
  refine List.IsPrefix.trans ?_ <| List.prefix_append ..
  rw [List.take_append, List.take_of_length_le r.length_le]
  exact List.prefix_append ..

theorem rxMessage_eq_some_iff : rxMessage buffer = some msg ↔
    0 ∉ msg ∧ ofChar '#' ∉ msg ∧ ofString "+$" ++ msg ++ [ofChar '#'] <+: buffer := by
  have hs : ofChar '#' ∉ ofString "+$" := by decide
  have h₀ : 0 ∉ ofString "+$" := by decide
  simp only [rxMessage]
  constructor
  case mp =>
    intro h
    split at h
    case isFalse => cases h
    case isTrue ht =>
      obtain ⟨⟨u, hu⟩, hm⟩ := ht
      have hp := CString.takeWhile_ne_prefix <| List.contains_iff_mem.mp hm
      have hw : ∀ b ∈ ofString "+$", decide (b ≠ ofChar '#') := by decide
      have ht : (CString.terminated buffer).takeWhile (· ≠ ofChar '#') = ofString "+$" ++ msg := by
        rw [← hu, List.takeWhile_append_of_pos hw] at h ⊢
        cases h
        rfl
      rw [ht] at hp
      refine ⟨fun hz => ?_, fun hh => ?_, hp.trans CString.terminated_prefix⟩
      case refine_1 =>
        refine CString.zero_notMem_terminated <| hp.subset <| List.mem_append_left _ ?_
        exact List.mem_append_right _ hz
      case refine_2 =>
        have hw := List.mem_takeWhile_imp <| ht ▸ List.mem_append_right (ofString "+$") hh
        exact of_decide_eq_true hw rfl
  case mpr =>
    intro ⟨hz, hh, u, hu⟩
    have ht : CString.terminated buffer =
        ofString "+$" ++ msg ++ [ofChar '#'] ++ CString.terminated u := by
      rw [← hu, CString.terminated_append]
      simp only [List.mem_append, not_or]
      exact ⟨⟨h₀, hz⟩, by decide⟩
    have hp : ofString "+$" ++ msg ++ [ofChar '#'] <+: CString.terminated buffer :=
      ht ▸ List.prefix_append ..
    have hn : ofChar '#' ∉ ofString "+$" ++ msg := by
      rw [List.mem_append, not_or]
      exact ⟨hs, hh⟩
    have hs' : ofString "+$" <+: ofString "+$" ++ msg ++ [ofChar '#'] := by simp
    have hm : ofChar '#' ∈ CString.terminated buffer := hp.subset <| by simp
    rw [if_pos ⟨hs'.trans hp, List.contains_iff_mem.mpr hm⟩, CString.takeWhile_ne_of_prefix hn hp]
    rfl

theorem Read.action_eq_command_iff : r.action = .command c.text ↔
    0 ∉ c.text ∧ c.header <+: r.rxData := by
  have ha : r.action = .command c.text ↔ rxMessage r.rxData = some c.text := by
    unfold action
    cases rxMessage r.rxData <;> simp
  rw [ha, rxMessage_eq_some_iff]
  exact and_congr_right fun _ => and_iff_right c.noHash

theorem Command.frame_eq (c : Command) : c.frame = c.header ++ c.checksumText := by
  simp [frame, DebuggingProtocol.frame, header, checksumText, ofString]

theorem Command.header_prefix (c : Command) : c.header <+: c.frame :=
  c.frame_eq ▸ List.prefix_append ..

theorem Command.frame_ne_nil (c : Command) : c.frame ≠ [] := by
  simp [frame, DebuggingProtocol.frame, ofString]

-- A buffer that begins with the rest of a frame does not begin with the frame.
theorem not_header_prefix_of_rest {d e : List Byte} (hd : d ≠ []) (he : e ≠ [])
    (h : c.frame = d ++ e) (hb : e <+: buffer) : ¬c.header <+: buffer := by
  intro hh
  have hd' : ∃ b ∈ e, ¬Hex.IsDigit b := by
    obtain ⟨u, hu⟩ := hh
    obtain ⟨v, hv⟩ := hb
    cases e
    case nil      => exact absurd rfl he
    case cons b e =>
      have hp : b = ofChar '+' := by
        have hc := congrArg List.head? <| hv.trans hu.symm
        simpa [Command.header, ofString] using hc
      exact ⟨b, List.mem_cons_self, hp ▸ by decide⟩
  obtain ⟨b, hm, hx⟩ := hd'
  have hk : b ∉ c.checksumText := fun hk => hx <| Hex.isDigit_of_mem_padded hk
  rw [Command.frame_eq] at h
  obtain ⟨f, -, hc⟩ | ⟨f, hf, hc⟩ := List.append_eq_append_iff.mp h
  case inl => exact hk <| hc ▸ List.mem_append_right _ hm
  case inr =>
    -- The hash would be at two places.
    have hf' : f ≠ [] := by
      rintro rfl
      exact hk <| List.nil_append c.checksumText ▸ hc ▸ hm
    have hn : ofChar '#' ∉ ofString "+$" ++ c.text := by
      rw [List.mem_append, not_or]
      exact ⟨by decide, c.noHash⟩
    obtain ⟨g, x, rfl⟩ := List.eq_nil_or_concat f |>.resolve_left hf'
    rw [List.concat_eq_append] at hf hc
    obtain ⟨hg, hx⟩ : ofString "+$" ++ c.text = d ++ g ∧ [ofChar '#'] = [x] := by
      refine List.append_inj' ?_ rfl
      rw [List.append_assoc d, ← hf]
      rfl
    cases hx
    have hp : g ++ [ofChar '#'] <+: buffer := by
      refine List.IsPrefix.trans ?_ hb
      rw [hc]
      exact List.prefix_append ..
    have hg' : ofChar '#' ∉ g := fun h => hn <| hg ▸ List.mem_append_right _ h
    have ht := (CString.takeWhile_ne_of_prefix hn hh).symm.trans <|
      CString.takeWhile_ne_of_prefix hg' hp
    rw [hg] at ht
    exact hd <| List.append_left_eq_self.mp ht

end

-- Complete frames.

section

variable {c : Command} {cs : List Command} {d : List Byte}

theorem completed_nil : completed cs [] = [] := by
  cases cs
  case nil       => rfl
  case cons c cs => exact if_neg fun h => c.frame_ne_nil <| List.prefix_nil.mp h

theorem completed_frame_append :
    completed (c :: cs) (c.frame ++ d) = c :: completed cs d := by
  rw [completed, if_pos <| List.prefix_append .., List.drop_left]

end

section

variable {c : Command} {cs : List Command} {r : Read} {rs : List Read} {d : List Byte}

-- The first read.

theorem actions_cons_of_nil (h : r.chunk = []) : actions (r :: rs) = actions rs :=
  if_pos h

theorem received_cons_of_nil (h : r.chunk = []) : received (r :: rs) = received rs := by
  simp [received, Read.exits, h]

theorem actions_cons (h : r.chunk ≠ []) :
    actions (r :: rs) = r.action :: if r.exits then [] else actions rs :=
  if_neg h

theorem received_singleton : received [r] = r.chunk := by
  simp [received]

theorem received_cons_of_not_exits (h : r.exits = false) :
    received (r :: rs) = r.chunk ++ received rs := by
  rw [received, h, if_neg Bool.false_ne_true]

theorem Read.exits_iff (h : r.chunk ≠ []) (ha : r.action = .command c.text) :
    r.exits ↔ c.isKill := by
  simp [exits, h, ha, ServerAction.exits, Command.isKill]

-- The server has done what it had to do whenever it has got further bytes behind `d`.
def ExecutesBehind (d : List Byte) (cs : List Command) (rs : List Read) : Prop :=
  ∀ n, actions (rs.take n) =
    (completed cs <| d ++ received (rs.take n)).map fun c => .command c.text

theorem ExecutesBehind.skip_iff (h : r.chunk = []) :
    ExecutesBehind d cs (r :: rs) ↔ ExecutesBehind d cs rs := by
  constructor
  case mp =>
    intro hr n
    simpa only [List.take_succ_cons, actions_cons_of_nil h, received_cons_of_nil h] using hr (n + 1)
  case mpr =>
    intro hr n
    cases n
    case zero   => exact hr 0
    case succ n =>
      simpa only [List.take_succ_cons, actions_cons_of_nil h, received_cons_of_nil h] using hr n

-- The first read with a frame and what is behind it.

theorem ExecutesBehind.first (hr : r.chunk ≠ []) (hp : ExecutesBehind [] (c :: cs) (r :: rs)) :
    r.action = .command c.text ∧ ∃ d, c.frame ++ d = r.chunk ∧ completed cs d = [] := by
  have h₁ : [r.action] = (completed (c :: cs) r.chunk).map fun c => .command c.text := by
    simpa [actions_cons hr, received_singleton, actions] using hp 1
  by_cases hf : c.frame <+: r.chunk
  case neg => simp [completed, hf] at h₁
  case pos =>
    obtain ⟨d, hc⟩ := hf
    rw [← hc, completed_frame_append, List.map_cons] at h₁
    have ⟨ha, hd⟩ := List.cons.inj h₁
    exact ⟨ha, d, hc, List.map_eq_nil_iff.mp hd.symm⟩

theorem executesBehind_of_kill (hr : r.chunk ≠ []) (ha : r.action = .command c.text)
    (hk : c.isKill) (hc : c.frame ++ d = r.chunk) (hd : completed cs d = []) :
    ExecutesBehind [] (c :: cs) (r :: rs) := by
  intro n
  cases n
  case zero   => simp [actions, received, completed_nil]
  case succ n =>
    have he : r.exits = true := (Read.exits_iff hr ha).mpr hk
    rw [List.take_succ_cons, actions_cons hr, ha, received, he, if_pos rfl, if_pos rfl,
      List.append_nil, List.nil_append, ← hc, completed_frame_append, hd]
    rfl

theorem executesBehind_cons_iff (hr : r.chunk ≠ []) (ha : r.action = .command c.text)
    (hk : ¬c.isKill) (hc : c.frame ++ d = r.chunk) :
    ExecutesBehind [] (c :: cs) (r :: rs) ↔ ExecutesBehind d cs rs := by
  have he : r.exits = false := Bool.eq_false_iff.mpr <| (Read.exits_iff hr ha).not.mpr hk
  have hs (n : Nat) : (actions (r :: rs.take n) =
      (completed (c :: cs) <| received (r :: rs.take n)).map fun c => .command c.text) ↔
      actions (rs.take n) =
        (completed cs <| d ++ received (rs.take n)).map fun c => .command c.text := by
    rw [actions_cons hr, ha, he, if_neg Bool.false_ne_true, received_cons_of_not_exits he, ← hc,
      List.append_assoc, completed_frame_append, List.map_cons, List.cons_inj_right]
  constructor
  case mp  => exact fun h n => (hs n).mp <| h (n + 1)
  case mpr =>
    intro h n
    cases n
    case zero   => simp [actions, received, completed_nil]
    case succ n => exact (hs n).mpr <| h n

-- The next chunk holds the rest of the frame of the next command, but not the frame itself.
theorem ExecutesBehind.false (hd : d ≠ []) (hc : completed (c :: cs) d = [])
    (h : d ++ rs.flatMap Read.chunk = (c :: cs).flatMap Command.frame)
    (hr : ExecutesBehind d (c :: cs) rs) : False := by
  have hn : ¬c.frame <+: d := fun hp => by simp [completed, hp] at hc
  induction rs
  case nil =>
    rw [List.flatMap_nil, List.append_nil] at h
    exact hn <| h ▸ List.prefix_append ..
  case cons r rs hi =>
    by_cases hr₀ : r.chunk = []
    case pos =>
      rw [List.flatMap_cons, hr₀, List.nil_append] at h
      exact hi h <| skip_iff hr₀ |>.mp hr
    case neg =>
      have h₁ : [r.action] =
          (completed (c :: cs) (d ++ r.chunk)).map fun c => .command c.text := by
        simpa [actions_cons hr₀, received_singleton, actions] using hr 1
      by_cases hp : c.frame <+: d ++ r.chunk
      case neg => simp [completed, hp] at h₁
      case pos =>
        have ha : r.action = .command c.text := by
          rw [completed, if_pos hp, List.map_cons] at h₁
          exact (List.cons.inj h₁).left
        have ⟨e, he⟩ := List.prefix_or_prefix_of_prefix hp (List.prefix_append ..) |>.resolve_left hn
        have he₀ : e ≠ [] := by
          rintro rfl
          rw [List.append_nil] at he
          exact hn <| he ▸ List.prefix_refl d
        have hb : e <+: r.rxData := by
          rw [← he, List.prefix_append_right_inj] at hp
          exact hp.trans r.chunk_prefix
        exact not_header_prefix_of_rest hd he₀ he.symm hb (Read.action_eq_command_iff.mp ha).right

end

theorem executesEachOnce_iff {cs : List Command} {rs : List Read}
    (h : rs.flatMap Read.chunk = cs.flatMap Command.frame) :
    ExecutesEachOnce cs rs ↔ OneFrameReads cs rs := by
  induction rs generalizing cs
  case nil =>
    refine iff_of_true (fun n => ?_) (by cases cs <;> trivial)
    simp [actions, received, completed_nil]
  case cons r rs hi =>
    rw [List.flatMap_cons] at h
    by_cases hr : r.chunk = []
    case pos =>
      rw [hr, List.nil_append] at h
      have hs : OneFrameReads cs (r :: rs) ↔ OneFrameReads cs rs := by
        cases cs <;> simp [OneFrameReads, hr]
      exact (ExecutesBehind.skip_iff (d := []) hr).trans <| (hi h).trans hs.symm
    case neg =>
      cases cs
      case nil => exact absurd (List.append_eq_nil_iff.mp h).left hr
      case cons c cs =>
        rw [List.flatMap_cons] at h
        simp only [OneFrameReads, if_neg hr]
        constructor
        case mp =>
          intro hp
          obtain ⟨ha, d, hc, hd⟩ := ExecutesBehind.first hr hp
          refine ⟨(Read.action_eq_command_iff.mp ha).left, ⟨d, hc⟩, ?_⟩
          rw [← hc, List.drop_left]
          split
          case isTrue     => exact hd
          case isFalse hk =>
            have ht := (executesBehind_cons_iff hr ha hk hc).mp hp
            rw [← hc, List.append_assoc, List.append_cancel_left_eq] at h
            by_cases hd₀ : d = []
            case pos =>
              subst hd₀
              exact ⟨List.append_nil _, hi h |>.mp ht⟩
            case neg =>
              cases cs
              case nil        => exact absurd (List.append_eq_nil_iff.mp h).left hd₀
              case cons c' cs => exact (ht.false hd₀ hd h).elim
        case mpr =>
          intro ⟨hz, ⟨d, hc⟩, hk⟩
          have hp : c.header <+: r.rxData :=
            c.header_prefix.trans <| List.IsPrefix.trans ⟨d, hc⟩ r.chunk_prefix
          have ha : r.action = .command c.text := Read.action_eq_command_iff.mpr ⟨hz, hp⟩
          split at hk
          case isTrue hk' =>
            rw [← hc, List.drop_left] at hk
            exact executesBehind_of_kill hr ha hk' hc hk
          case isFalse hk' =>
            rw [hk.left, List.append_cancel_left_eq] at h
            have hc : c.frame ++ [] = r.chunk := (List.append_nil _).trans hk.left.symm
            exact (executesBehind_cons_iff hr ha hk' hc).mpr <| (hi h).mpr hk.right

theorem handleConnection_once_iff {U : Type} (host : Callbacks U) (md5 : Md5) {cs : List Command}
    {rs : List Read} (h : rs.flatMap Read.chunk = cs.flatMap Command.frame) :
    handleConnection host md5 rs = ServerAction.performAll host md5 (actions rs) ∧
      (ExecutesEachOnce cs rs ↔ OneFrameReads cs rs) :=
  ⟨handleConnection_eq rs, executesEachOnce_iff h⟩

-- The request of a single step.
def stepCommand : Command where
  text   := ofString "vCont;s:1;c"
  ascii  := by decide
  noHash := by decide

-- Two reads, where the buffer still holds the first frame at the second one.
theorem handleConnection_once_iff_steps :
    let rs : List Read := [⟨[], stepCommand.frame, by decide⟩,
      ⟨stepCommand.frame, stepCommand.frame, by decide⟩]
    handleConnection noHost (fun _ => Vector.replicate 16 0) rs =
        ServerAction.performAll (U := Unit) noHost (fun _ => Vector.replicate 16 0) (actions rs) ∧
      (ExecutesEachOnce [stepCommand, stepCommand] rs ↔
        OneFrameReads [stepCommand, stepCommand] rs) :=
  handleConnection_once_iff noHost _ rfl

-- Of two frames in one read, only the first one is noticed.
theorem not_forall_executesEachOnce :
    ¬∀ (cs : List Command) (rs : List Read), rs.flatMap Read.chunk = cs.flatMap Command.frame →
      ExecutesEachOnce cs rs := by
  intro h
  have hs := h [stepCommand, stepCommand]
    [⟨[], stepCommand.frame ++ stepCommand.frame, by decide⟩] (by decide) 1
  exact absurd hs (by decide)
