import Thumb2Sim.Decoder.Decode
import Thumb2Sim.Decoder.Theorems.Arguments
import Thumb2Sim.Disassembly.Theorems.Lines

open Program Output

namespace Disassembly

-- The parts of the text that do not depend on the IT block.
structure InsnText where
  aOpcode  : String
  aFlags   : BitVec 16
  operands : String

namespace InsnText

-- Only the conditional branches print a condition of their own.
structure WellFormed (t : InsnText) (v : Variant) : Prop where
  aOpcode  : t.aOpcode.length ≤ 6
  aFlags   : (v = .bT1 ∨ v = .bT3) ∨ t.aFlags &&& opcodeForceCondition = 0
  operands : t.operands.length ≤ 110

def text (t : InsnText) (itState itCond : Byte) : String :=
  t.aOpcode ++ (flagsSuffix itState t.aFlags ++
    (condSuffix itState itCond t.aFlags ++ widthSuffix t.aFlags)) ++ t.operands

-- The program prints the name of the opcode and then the operands.
def IsTextOf (t : InsnText) (pc : Word) (m : Disas String Unit) : Prop :=
  ∃ p, m = (printOpcode t.aOpcode t.aFlags >>= fun _ => p) ∧ ∀ itState itCond b,
    p ⟨pc, itState, itCond, b⟩ = .ok ((), ⟨pc, itState, itCond, b ++ t.operands⟩)

theorem itSuffix_length {itState itCond : Byte} : (itSuffix itState itCond).length ≤ 2 := by
  unfold itSuffix
  split_ifs
  case pos | pos => exact ccString_length _
  case neg       => exact Nat.zero_le _

theorem WellFormed.text_length {t : InsnText} {v : Variant} {itState itCond : Byte}
    (h : t.WellFormed v) : (t.text itState itCond).length ≤ 121 := by
  have ho := h.aOpcode
  have hp := h.operands
  have hf : (flagsSuffix itState t.aFlags).length ≤ 1 := by
    unfold flagsSuffix
    split <;> decide
  have hc : (condSuffix itState itCond t.aFlags).length ≤ 2 := by
    unfold condSuffix
    split
    case isTrue  => exact itSuffix_length
    case isFalse => exact ccString_length _
  have hw : (widthSuffix t.aFlags).length ≤ 2 := by
    unfold widthSuffix
    split_ifs <;> decide
  simp only [text, String.length_append]
  omega

end InsnText

variable {size : Nat} {o : Opcode} {w pc : Word} {itState itCond : Byte} {text : String}

-- The numbers that fields of four bits can hold.
theorem uint8_lt {a : Args} {v : Var} (ha : o.args w = .ok a) (hv : ∀ x ∈ o.arguments, x.var = v →
    x.extension = .plain ∧ x.reach.toNat < 16) : (a.uint8 v).toNat < 16 := by
  have ⟨a', ha', hc⟩ := o.args_cases w
  cases ha.symm.trans ha'
  have hl : (a v).toNat < 16 := by
    obtain h₀ | ⟨x, hx, hr, hy⟩ := hc v
    case inl => rw [h₀]; decide
    case inr =>
      have ⟨he, hl⟩ := hv x hx hr
      exact x.value_lt hl (by decide) (.inl he) hy
  rw [Args.uint8, BitVec.toNat_setWidth]
  omega

theorem rn_ldmT1 : ∀ o ∈ opcodes, o.variant = .ldmT1 →
    ∀ x ∈ o.arguments, x.var = .Rn → x.extension = .plain ∧ x.reach.toNat < 16 := by
  decide +kernel

-- The list of registers has a bit for the base register.
theorem rn_lt {a : Args} (ho : decode w = some o) (ha : o.args w = .ok a)
    (hv : o.variant = .ldmT1) : (a.uint8 .Rn).toNat < 32 :=
  (uint8_lt ha <| rn_ldmT1 o (Pattern.firstMatch_some ho).left hv).trans (by decide)

-- The handlers are there for all buffers alike.
theorem isSome_disassemblyCallbacks (B B' : Type) [Output B] [Output B'] (v : Variant) :
    (disassemblyCallbacks v : Option (Args → Disas B Unit)).isSome =
      (disassemblyCallbacks v : Option (Args → Disas B' Unit)).isSome := by
  cases v <;> rfl

-- An instruction is printed as nothing at all or as a line.
theorem callHandler_cases (ho : decode w = some o) (pc : Word) :
    ((o.callHandler w (some disassemblyCallbacks) : Disas String Unit) = pure () ∧
      ∀ itState itCond, Writes pc itState itCond "" (o.callHandler w (some disassemblyCallbacks))
        (o.callHandler w (some disassemblyCallbacks) : Disas (Buffer size) Unit)) ∨
    ∃ t : InsnText, t.WellFormed o.variant ∧
      t.IsTextOf pc (o.callHandler w (some disassemblyCallbacks)) ∧ ∀ itState itCond,
      Writes pc itState itCond (t.text itState itCond) (o.callHandler w (some disassemblyCallbacks))
        (o.callHandler w (some disassemblyCallbacks) : Disas (Buffer size) Unit) := by
  obtain ⟨a, ha, _⟩ := o.args_cases w
  have hs := isSome_disassemblyCallbacks String (Buffer size) o.variant
  cases hh : (disassemblyCallbacks o.variant : Option (Args → Disas String Unit)) <;>
    cases hh' : (disassemblyCallbacks o.variant : Option (Args → Disas (Buffer size) Unit)) <;>
    rw [hh, hh'] at hs <;> cases hs
  case none.none =>
    have hn {B : Type} [Output B]
        (h : (disassemblyCallbacks o.variant : Option (Args → Disas B Unit)) = none) :
        o.callHandler w (some disassemblyCallbacks) = (pure () : Disas B Unit) := by
      simp only [Opcode.callHandler, Option.bind_some, h]
    rw [hn hh, hn hh']
    exact .inl ⟨rfl, fun _ _ => .pure⟩
  case some.some h h' =>
    rw [Opcode.callHandler_of_args hh ha, Opcode.callHandler_of_args hh' ha]
    obtain ⟨hp, hp'⟩ | ⟨aOpcode, aFlags, p, p', ho', hf, hm, hm', hp⟩ :=
      printsInsn_callbacks hh hh' (rn_lt ho ha)
    case inl =>
      rw [hp, hp']
      exact .inl ⟨rfl, fun _ _ => .pure⟩
    case inr =>
      obtain ⟨operands, hl, hw⟩ := hp pc
      rw [hm, hm']
      exact .inr ⟨⟨aOpcode, aFlags, operands⟩, ⟨ho', hf, hl⟩,
        ⟨p, rfl, fun s c => (hw s c).whole⟩, fun s c => writes_printOpcode.bind <| hw s c⟩

-- The text that is printed for a word, which fits into a buffer.
structure Disassembles (size : Nat) (w pc : Word) (itState itCond : Byte) (t : String) : Prop where
  length_le : t.length ≤ 121
  whole     : ∀ b, decodeInsn w (some disassemblyCallbacks) ⟨pc, itState, itCond, b⟩ =
    .ok (insnLength w, ⟨pc, itState, itCond, b ++ t⟩)
  bounded   : ∀ b : Buffer size, b.text.length + t.length < size →
    decodeInsn w (some disassemblyCallbacks) ⟨pc, itState, itCond, b⟩ =
      .ok (insnLength w, ⟨pc, itState, itCond, print b t⟩)

theorem Writes.disassembles {t : String} (ho : decode w = some o) (ht : t.length ≤ 121)
    (h : Writes pc itState itCond t (o.callHandler w (some disassemblyCallbacks))
      (o.callHandler w (some disassemblyCallbacks) : Disas (Buffer size) Unit)) :
    Disassembles size w pc itState itCond t := by
  have hl : insnLength w = o.length := by simp [insnLength, ho]
  exact {
    length_le := ht
    whole     := fun b => decodeInsn_ok_iff ho |>.mpr ⟨h.whole b, hl⟩
    bounded   := fun b hb => decodeInsn_ok_iff ho |>.mpr ⟨h.bounded b hb, hl⟩
  }

-- What is printed for a word inside and outside of IT blocks.
theorem disassembles_cases (size : Nat) (w pc : Word) :
    ((∀ o, decode w = some o →
        (o.callHandler w (some disassemblyCallbacks) : Disas String Unit) = pure ()) ∧
      ∀ itState itCond, Disassembles size w pc itState itCond "") ∨
    ∃ o t, decode w = some o ∧ InsnText.WellFormed t o.variant ∧
      t.IsTextOf pc (o.callHandler w (some disassemblyCallbacks)) ∧ ∀ itState itCond,
        Disassembles size w pc itState itCond (t.text itState itCond) := by
  cases ho : decode w
  case none   =>
    have hl : insnLength w = 0 := by simp [insnLength, ho]
    refine .inl ⟨fun _ h => ?_, fun _ _ => ⟨Nat.zero_le _, fun b => ?_, fun b _ => ?_⟩⟩
    case refine_1 => cases h
    case refine_2 => rw [decodeInsn_of_none ho, hl, String.append_empty]
    case refine_3 => rw [decodeInsn_of_none ho, hl, Buffer.print_empty]
  case some o =>
    obtain ⟨hn, h⟩ | ⟨t, ht, hp, h⟩ := callHandler_cases ho pc
    case inl =>
      refine .inl ⟨fun o' ho' => ?_, fun s c => Writes.disassembles ho (Nat.zero_le _) <| h s c⟩
      cases ho'
      exact hn
    case inr =>
      exact .inr ⟨o, t, rfl, ht, hp, fun s c => Writes.disassembles ho ht.text_length <| h s c⟩

theorem exists_disassembles (size : Nat) (w pc : Word) (itState itCond : Byte) :
    ∃ t, Disassembles size w pc itState itCond t := by
  obtain ⟨_, h⟩ | ⟨_, t, _, _, _, h⟩ := disassembles_cases size w pc
  case inl => exact ⟨_, h itState itCond⟩
  case inr => exact ⟨_, h itState itCond⟩

end Disassembly
