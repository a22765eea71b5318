import Thumb2Sim.Decoder.Opcodes.Priority0
import Thumb2Sim.Decoder.Opcodes.Priority1
import Thumb2Sim.Decoder.Opcodes.Priority2
import Thumb2Sim.Decoder.Opcodes.Priority3

def opcodes : List Opcode :=
  opcodesPriority0 ++ opcodesPriority1 ++ opcodesPriority2 ++ opcodesPriority3

-- The branch of `decode_insn` that is taken.
def decode (opcode : Word) : Option Opcode :=
  Pattern.firstMatch Opcode.pattern opcodes opcode

def insnLength (opcode : Word) : Nat :=
  (decode opcode).elim 0 Opcode.length

section

variable {σ : Type}

-- The arguments are only computed if there is a handler.
def Opcode.callHandler (o : Opcode) (opcode : Word) (handler : Option (DecodingHandler σ)) :
    Program σ Undefined Unit :=
  match handler.bind (· o.variant) with
  | some h => do h (← Program.checked <| o.args opcode)
  | none   => pure ()

def decodeInsn (opcode : Word) (handler : Option (DecodingHandler σ)) :
    Program σ Undefined Nat :=
  match decode opcode with
  | some o => do
    o.callHandler opcode handler
    return o.length
  | none => return 0

variable {w : Word} {handler : Option (DecodingHandler σ)} {s s' : σ} {n : Nat}

theorem Opcode.callHandler_of_args {o : Opcode} {a : Args} {table : DecodingHandler σ}
    {h : Args → Program σ Undefined Unit} (ht : table o.variant = some h) (ha : o.args w = .ok a) :
    o.callHandler w (some table) = h a := by
  simp only [callHandler, Option.bind_some, ht, ha]
  rfl

theorem decodeInsn_of_none (h : decode w = none) : decodeInsn w handler s = .ok (0, s) := by
  simp only [decodeInsn, h]
  rfl

theorem decodeInsn_ok_iff {o : Opcode} (h : decode w = some o) :
    decodeInsn w handler s = .ok (n, s') ↔
    o.callHandler w handler s = .ok ((), s') ∧ n = o.length := by
  simp only [decodeInsn, h, Program.bind_ok_iff]
  constructor
  case mp =>
    intro ⟨_, _, hc, hp⟩
    cases hp
    exact ⟨hc, rfl⟩
  case mpr =>
    intro ⟨hc, hn⟩
    exact ⟨_, _, hc, hn ▸ rfl⟩

-- The result of `decode_insn` does not depend on the handlers.
theorem decodeInsn_length (h : decodeInsn w handler s = .ok (n, s')) : n = insnLength w := by
  cases hd : decode w
  case none =>
    rw [decodeInsn_of_none hd] at h
    cases h
    simp [insnLength, hd]
  case some o => simp [insnLength, hd, decodeInsn_ok_iff hd |>.mp h]

end

-- The branch that is taken for all words with a certain pattern.
theorem decode_eq_of_matches {p : Pattern 32} {others : List (Pattern 32)} {o : Opcode} {w : Word}
    (h : Pattern.firstMatchOf Opcode.pattern p others opcodes = some o) (hp : p.Matches w)
    (ho : ∀ q ∈ others, ¬q.Matches w) : decode w = some o :=
  Pattern.firstMatch_eq_firstMatchOf h hp ho

theorem decode_of_matches {p : Pattern 32} {others : List (Pattern 32)} {v : Variant} {w : Word}
    (h : (Pattern.firstMatchOf Opcode.pattern p others opcodes).map Opcode.variant = some v)
    (hp : p.Matches w) (ho : ∀ q ∈ others, ¬q.Matches w) :
    (decode w).map Opcode.variant = some v := by
  have ⟨o, hf, hv⟩ := Option.map_eq_some_iff.mp h
  rw [decode_eq_of_matches hf hp ho]
  exact congrArg some hv

-- The encoding of the words that match a pattern but none of the others.
structure DecodeRule where
  pattern : Pattern 32
  others  : List (Pattern 32)
  variant : Variant

namespace DecodeRule

-- The patterns alone tell that the words decode to the encoding.
def Holds (r : DecodeRule) : Prop :=
  (Pattern.firstMatchOf Opcode.pattern r.pattern r.others opcodes).map Opcode.variant =
    some r.variant

instance : DecidablePred Holds :=
  fun _ => inferInstanceAs <| Decidable (_ = _)

theorem decode_of_mem {rules : List DecodeRule} {p : Pattern 32} {others : List (Pattern 32)}
    {v : Variant} {w : Word} (h : ∀ r ∈ rules, r.Holds) (hr : ⟨p, others, v⟩ ∈ rules) (hp : p.Matches w)
    (ho : ∀ q ∈ others, ¬q.Matches w) : (decode w).map Opcode.variant = some v :=
  decode_of_matches (h _ hr) hp ho

end DecodeRule
