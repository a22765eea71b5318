import Thumb2Sim.Decoder.Decode
import Thumb2Sim.Decoder.Theorems.Arguments
import Thumb2Sim.Lib.Bits

-- The parameters that are named after a core register.
def coreRegisters : List Var :=
  [.Rd, .Rdn, .Rdm, .Rt, .Rtx, .Rn, .Rm, .Rmx, .Ra, .RdLo, .RdHi, .RtB]

-- Whatever handlers a table has, the one that is called gets numbers of registers.
def PassesRegisters (w : Word) : Prop :=
  ∀ (σ : Type) (table : DecodingHandler σ) (o : Opcode) (h : Args → Program σ Undefined Unit),
    decode w = some o → table o.variant = some h →
    ∃ a, decodeInsn w (some table) = (do h a; return o.length) ∧
      ∀ v ∈ coreRegisters, (a v).toNat ≤ 15

-- The encodings `rbit_T1`, `rev16_T2` and `revsh_T2`, in which there are two fields of the name `Rm`.
def twofoldRm : List (Pattern 32) :=
  [⟨0xfff0f0f0, 0xfa90f0a0⟩, ⟨0xfff0f0f0, 0xfa90f090⟩, ⟨0xfff0f0f0, 0xfa90f0b0⟩]

def twofoldRmArguments : List Argument :=
  [⟨.uint8, .Rd, .plain, [⟨0xf00, 8⟩]⟩, ⟨.uint8, .Rm, .plain, [⟨0xf0000, 12⟩, ⟨0xf, 0⟩]⟩]

theorem reach_coreRegisters : ∀ o ∈ opcodes, twofoldRm.contains o.pattern ∨
    ∀ x ∈ o.arguments, coreRegisters.contains x.var → x.extension = .plain ∧ x.reach.toNat < 16 := by
  decide +kernel

theorem firstMatchOf_twofoldRm : ∀ p ∈ twofoldRm,
    (Pattern.firstMatchOf Opcode.pattern p [] opcodes).map Opcode.arguments =
      some twofoldRmArguments := by
  decide +kernel

variable {o : Opcode} {w : Word} {p : Pattern 32}

theorem decode_twofoldRm (hp : p ∈ twofoldRm) (h : p.Matches w) :
    ∃ o, decode w = some o ∧ o.arguments = twofoldRmArguments := by
  have ⟨o, hf, ha⟩ := Option.map_eq_some_iff.mp <| firstMatchOf_twofoldRm p hp
  exact ⟨o, decode_eq_of_matches hf h <| List.forall_mem_nil _, ha⟩

theorem decodeInsn_eq {σ : Type} {table : DecodingHandler σ} {a : Args}
    {h : Args → Program σ Undefined Unit} (hd : decode w = some o)
    (ht : table o.variant = some h) (ha : o.args w = .ok a) :
    decodeInsn w (some table) = (do h a; return o.length) := by
  rw [← Opcode.callHandler_of_args ht ha]
  simp only [decodeInsn, hd]

-- It is enough to look at the arguments, since a handler can tell them apart.
theorem passesRegisters_iff_of_args {a : Args} (hd : decode w = some o) (ha : o.args w = .ok a) :
    PassesRegisters w ↔ ∀ v ∈ coreRegisters, (a v).toNat ≤ 15 := by
  constructor
  case mpr =>
    intro hv σ table o' h hd' ht
    cases hd.symm.trans hd'
    exact ⟨a, decodeInsn_eq hd ht ha, hv⟩
  case mp =>
    intro h v hv
    let table : DecodingHandler Word := fun _ => some fun a _ => .ok ((), a v)
    have ⟨a', he, hv'⟩ := h Word table o _ hd rfl
    have hs := congrFun (decodeInsn_eq hd rfl ha |>.symm.trans he) 0
    have hs : Except.ok (ε := Undefined) (o.length, a v) = .ok (o.length, a' v) := hs
    injection hs with hs
    injection hs with _ hs
    exact hs ▸ hv' v hv

theorem passesRegisters_of_none (hd : decode w = none) : PassesRegisters w :=
  fun _ _ _ _ hd' _ => nomatch hd.symm.trans hd'

theorem passesRegisters_of_reach (hd : decode w = some o) (ho : ∀ x ∈ o.arguments,
    coreRegisters.contains x.var → x.extension = .plain ∧ x.reach.toNat < 16) :
    PassesRegisters w := by
  have ⟨a, ha, hv⟩ := o.args_cases w
  refine passesRegisters_iff_of_args hd ha |>.mpr fun v hm => ?_
  obtain h₀ | ⟨x, hx, rfl, hy⟩ := hv v
  case inl => rw [h₀]; exact Nat.zero_le _
  case inr =>
    have ⟨he, hr⟩ := ho x hx <| List.contains_iff_mem.mpr hm
    exact Nat.le_of_lt_succ <| x.value_lt hr (by decide) (.inl he) hy

-- The upper field ends up in front of the lower one.
theorem rm_twofold (w : Word) : (w &&& 0xf0000#32) >>> 12 ||| w &&& 0xf#32 =
    (w.extractLsb' 16 4 ++ w.extractLsb' 0 4).setWidth 32 := by
  have hm : ∀ i < 32, (0xf0000#32).getLsbD (12 + i) = decide (4 ≤ i ∧ i < 8) ∧
      (0xf#32).getLsbD i = decide (i < 4) := by decide
  apply BitVec.eq_of_getLsbD_eq
  intro i hi
  have ⟨hu, hl⟩ := hm i hi
  simp only [BitVec.getLsbD_or, BitVec.getLsbD_ushiftRight, BitVec.getLsbD_and, hu, hl,
    BitVec.getLsbD_setWidth, BitVec.getLsbD_append, BitVec.getLsbD_extractLsb', hi]
  grind

def rmTwofold : Argument :=
  ⟨.uint8, .Rm, .plain, [⟨0xf0000, 12⟩, ⟨0xf, 0⟩]⟩

theorem value_rmTwofold : rmTwofold.value w =
    .ok ((w.extractLsb' 16 4 ++ w.extractLsb' 0 4).setWidth 32) := by
  have he : rmTwofold.extract w = (w.extractLsb' 16 4 ++ w.extractLsb' 0 4).setWidth 32 := by
    rw [← rm_twofold]
    change 0#32 ||| (w &&& 0xf0000#32) >>> 12 ||| (w &&& 0xf#32) >>> 0 = _
    rw [BitVec.zero_or, BitVec.ushiftRight_zero]
  have hc : (CType.uint8.convert <| rmTwofold.extract w) = rmTwofold.extract w := by
    rw [he, CType.convert, BitVec.setWidth_setWidth_of_le _ (by decide : 8 ≤ 32), BitVec.setWidth_eq]
  rw [Argument.value, ← he]
  exact congrArg Except.ok hc

theorem args_twofoldRm (ho : o.arguments = twofoldRmArguments) : ∃ a, o.args w = .ok a ∧
    (a .Rm).toNat = (w.extractLsb' 16 4).toNat * 2 ^ 4 + (w.extractLsb' 0 4).toNat ∧
    ∀ v, v ≠ .Rm → (a v).toNat ≤ 15 := by
  have ⟨a, ha, hm⟩ := o.args_of_nodup (w := w) <| by rw [ho]; decide
  have ⟨a', ha', hv⟩ := o.args_cases w
  cases ha.symm.trans ha'
  refine ⟨a, ha, ?_, fun v hn => ?_⟩
  case refine_1 =>
    have hr : rmTwofold.value w = .ok (a .Rm) := hm rmTwofold <| by rw [ho]; exact .tail _ (.head _)
    have hr : (w.extractLsb' 16 4 ++ w.extractLsb' 0 4).setWidth 32 = a .Rm :=
      Except.ok.inj <| value_rmTwofold.symm.trans hr
    have hl := (w.extractLsb' 16 4 ++ w.extractLsb' 0 4).isLt
    rw [← hr, BitVec.toNat_setWidth, Nat.mod_eq_of_lt (hl.trans (by decide)), Bits.toNat_append]
  case refine_2 =>
    obtain h₀ | ⟨x, hx, rfl, hy⟩ := hv v
    case inl => rw [h₀]; exact Nat.zero_le _
    case inr =>
      have hr : ∀ x ∈ twofoldRmArguments, x.var ≠ .Rm →
          x.reach.toNat < 16 ∧ x.extension = .plain := by decide
      have ⟨hr, he⟩ := hr x (ho ▸ hx) hn
      exact Nat.le_of_lt_succ <| x.value_lt hr (by decide) (.inl he) hy

theorem passesRegisters_iff_of_matches (hm : p ∈ twofoldRm) (hp : p.Matches w) :
    PassesRegisters w ↔ w.extractLsb' 16 4 = 0 := by
  have ⟨o, hd, ho⟩ := decode_twofoldRm hm hp
  have ⟨a, ha, hr, hv⟩ := args_twofoldRm (w := w) ho
  have hl := (w.extractLsb' 0 4).isLt
  rw [passesRegisters_iff_of_args hd ha]
  constructor
  case mp =>
    intro h
    have := h .Rm <| by decide
    exact BitVec.eq_of_toNat_eq <| show _ = 0 by omega
  case mpr =>
    intro h v _
    by_cases hv' : v = .Rm
    case neg => exact hv v hv'
    case pos =>
      have h₀ : (w.extractLsb' 16 4).toNat = 0 := congrArg BitVec.toNat h
      rw [hv', hr, h₀]
      omega

-- A word with a number above zero in the upper field is taken for a register above 15.
theorem passesRegisters_iff : PassesRegisters w ↔
    ¬((∃ p ∈ twofoldRm, p.Matches w) ∧ w.extractLsb' 16 4 ≠ 0) := by
  by_cases hp : ∃ p ∈ twofoldRm, p.Matches w
  case pos =>
    have ⟨p, hm, hp'⟩ := hp
    rw [passesRegisters_iff_of_matches hm hp', and_iff_right hp, not_not]
  case neg =>
    refine iff_of_true ?_ fun h => hp h.left
    cases hd : decode w
    case none => exact passesRegisters_of_none hd
    case some o =>
      have ⟨hm, hw⟩ := Pattern.firstMatch_some hd
      obtain hc | hr := reach_coreRegisters o hm
      case inl => exact absurd ⟨_, List.contains_iff_mem.mp hc, hw⟩ hp
      case inr => exact passesRegisters_of_reach hd hr

-- `rbit r0, r1` has the number of its source in both fields.
theorem not_forall_passesRegisters : ¬∀ w, PassesRegisters w := by
  intro h
  have hm : (⟨0xfff0f0f0, 0xfa90f0a0⟩ : Pattern 32).Matches 0xfa91f0a1 := by decide
  exact absurd (passesRegisters_iff_of_matches (.head _) hm |>.mp <| h _) (by decide)
