import Thumb2Sim.Decoder.Basic

-- The helpers of the decoder are defined for all immediates.

theorem ror32_ok {x : Word} {rotate : Byte} (h₁ : 1 ≤ rotate.toNat) (h : rotate.toNat < 32) :
    ∃ y, ror32 x rotate = .ok y := by
  have hn : (32 - rotate.toNat : Int) = (32 - rotate.toNat : Nat) := by omega
  have hs : 32 - rotate.toNat < 32 := by omega
  simp only [ror32, hn, CInt.shl_of_lt h, CInt.shl_of_lt hs, CInt.shr_of_lt h]
  exact ⟨_, rfl⟩

-- The rotation is not smaller than eight because one of its two highest bits is set.
theorem rotate_bounds {imm : BitVec 16} (h : imm &&& 0xc00 ≠ 0) :
    1 ≤ ((imm &&& 0xf80) >>> 7).toNat ∧ ((imm &&& 0xf80) >>> 7).toNat < 32 := by
  have hm : imm &&& 0xc00 = ((imm &&& 0xf80) >>> 7) <<< 7 &&& 0xc00 := by
    ext i hi
    have hb : ∀ i < 16, ((0xc00 : BitVec 16).getLsbD i → (0xf80 : BitVec 16).getLsbD i ∧ 7 ≤ i) := by
      decide
    have := hb i hi
    simp [← BitVec.getLsbD_eq_getElem] at this ⊢
    grind
  refine ⟨?_, ?_⟩
  case refine_1 =>
    by_contra hz
    have h₀ : (imm &&& 0xf80) >>> 7 = 0 := BitVec.eq_of_toNat_eq <| by simp at hz ⊢; omega
    rw [h₀] at hm
    exact h <| hm.trans rfl
  case refine_2 =>
    rw [BitVec.toNat_ushiftRight, BitVec.toNat_and]
    have := Nat.and_le_right (n := imm.toNat) (m := (0xf80 : BitVec 16).toNat)
    rw [Nat.shiftRight_eq_div_pow]
    simp at this ⊢
    omega

theorem thumbExpandImm_ok (imm : BitVec 16) : ∃ x, thumbExpandImm imm = .ok x := by
  unfold thumbExpandImm
  by_cases h : imm &&& 0xc00 = 0
  case pos => split_ifs <;> exact ⟨_, rfl⟩
  case neg =>
    have ⟨h₁, h₂⟩ := rotate_bounds h
    have hr : (((imm &&& 0xf80) >>> 7).setWidth 8).toNat = ((imm &&& 0xf80) >>> 7).toNat := by
      rw [BitVec.toNat_setWidth]
      exact Nat.mod_eq_of_lt <| h₂.trans (by decide)
    simp only [if_neg h]
    exact ror32_ok (hr ▸ h₁) (hr ▸ h₂)

theorem thumbExpandImm_of_lt {imm : BitVec 16} (h : imm.toNat < 256) :
    thumbExpandImm imm = .ok (imm.setWidth 32) := by
  have hi : imm = (imm.setWidth 8).setWidth 16 :=
    BitVec.eq_of_toNat_eq <| by simp; omega
  have hm : ∀ byte : Byte, byte.setWidth 16 &&& 0xc00 = (0 : BitVec 16) ∧
      byte.setWidth 16 &&& 0x300 = (0 : BitVec 16) ∧
      (byte.setWidth 16).setWidth 32 &&& 0xff = (byte.setWidth 16).setWidth 32 := by decide
  have ⟨h₁, h₂, h₃⟩ := hm <| imm.setWidth 8
  rw [hi, thumbExpandImm, if_pos h₁, if_pos h₂, h₃]
  rfl

theorem thumbSignExtend_ok {imm : Word} {bitLength : Byte} (h₁ : 1 ≤ bitLength.toNat)
    (h : bitLength.toNat < 32) : ∃ x, thumbSignExtend imm bitLength = .ok x := by
  have hp : (bitLength.toNat - 1 : Int) = (bitLength.toNat - 1 : Nat) := by omega
  have hs : bitLength.toNat - 1 < 32 := by omega
  simp only [thumbSignExtend, hp, CInt.shl_of_lt hs, CInt.shl_of_lt h, bind, Except.bind]
  split <;> exact ⟨_, rfl⟩

theorem applyExtension_ok (e : Extension) (x : Word) : ∃ y, applyExtension e x = .ok y := by
  cases e
  case plain                => exact ⟨x, rfl⟩
  case thumbExpandImm       => exact thumbExpandImm_ok _
  case thumbSignExtend20    => exact thumbSignExtend_ok (by decide) (by decide)
  case thumbSignExtend24EOR => exact thumbSignExtend_ok (by decide) (by decide)

theorem Piece.extract_or {p : Piece} {w : Word} :
    p.extract w ||| p.extract (-1) = p.extract (-1) := by
  have hm : w &&& p.mask ||| -1 &&& p.mask = -1 &&& p.mask := by
    rw [← BitVec.and_or_distrib_right]
    exact congrArg (· &&& p.mask) BitVec.or_allOnes
  unfold extract
  split
  case isTrue  => rw [← BitVec.ushiftRight_or_distrib, hm]
  case isFalse => rw [← BitVec.shiftLeft_or_distrib, hm]

namespace Argument

variable {x : Argument} {w y : Word}

theorem value_ok (x : Argument) (w : Word) : ∃ y, x.value w = .ok y := by
  have ⟨y, hy⟩ := applyExtension_ok x.extension (x.extract w)
  exact ⟨x.type.convert y, by rw [value, hy]; rfl⟩

-- The bits that any word may have in the pieces of an argument.
def reach (x : Argument) : Word :=
  x.extract (-1)

theorem extract_or_reach : x.extract w ||| x.reach = x.reach := by
  have hf : ∀ (l : List Piece) (y z : Word), y ||| z = z →
      l.foldl (fun x p => x ||| p.extract w) y ||| l.foldl (fun x p => x ||| p.extract (-1)) z =
        l.foldl (fun x p => x ||| p.extract (-1)) z := by
    intro l
    induction l
    case nil => exact fun _ _ h => h
    case cons p l hi =>
      intro y z h
      refine hi _ _ ?_
      calc y ||| p.extract w ||| (z ||| p.extract (-1))
        _ = y ||| z ||| (p.extract w ||| p.extract (-1)) := by ac_rfl
        _ = z ||| p.extract (-1)                         := by rw [h, Piece.extract_or]
  exact hf x.pieces 0 0 rfl

theorem extract_le_reach : (x.extract w).toNat ≤ x.reach.toNat := by
  rw [← extract_or_reach (w := w), BitVec.toNat_or]
  exact Nat.left_le_or

theorem convert_le (t : CType) : (t.convert y).toNat ≤ y.toNat := by
  cases t
  case bool =>
    change (if y = 0 then (0 : Word) else 1).toNat ≤ y.toNat
    split
    case isTrue    => exact Nat.zero_le _
    case isFalse h => exact Nat.one_le_iff_ne_zero.mpr fun h₀ => h <| BitVec.eq_of_toNat_eq h₀
  case uint8 | uint16 => simp [CType.convert]; omega
  case uint32 | int32 => exact Nat.le_refl _

-- Small values are passed on as they are.
theorem value_lt {b : Nat} (hr : x.reach.toNat < b) (hb : b ≤ 256)
    (he : x.extension = .plain ∨ x.extension = .thumbExpandImm) (h : x.value w = .ok y) :
    y.toNat < b := by
  have hx : (x.extract w).toNat < b := extract_le_reach.trans_lt hr
  have ha : applyExtension x.extension (x.extract w) = .ok (x.extract w) := by
    obtain he | he := he
    case inl => rw [he]; rfl
    case inr =>
      have hn : ((x.extract w).setWidth 16).toNat = (x.extract w).toNat := by
        rw [BitVec.toNat_setWidth]
        omega
      rw [he]
      refine (thumbExpandImm_of_lt <| hn ▸ hx.trans_le hb).trans <| congrArg _ ?_
      apply BitVec.eq_of_toNat_eq
      rw [BitVec.toNat_setWidth, hn]
      omega
  rw [value, ha] at h
  cases h
  exact (convert_le x.type).trans_lt hx

end Argument

namespace Opcode

variable {o : Opcode} {w : Word} {a : Args}

-- What is in the arguments comes from one of the initializations.
theorem args_cases (o : Opcode) (w : Word) : ∃ a, o.args w = .ok a ∧
    ∀ v, a v = 0 ∨ ∃ x ∈ o.arguments, x.var = v ∧ x.value w = .ok (a v) := by
  have hf : ∀ (l : List Argument) (init : Args), ∃ a,
      l.foldlM (fun args x => return Function.update args x.var (← x.value w)) init =
        Except.ok (ε := Undefined) a ∧
      ∀ v, a v = init v ∨ ∃ x ∈ l, x.var = v ∧ x.value w = .ok (a v) := by
    intro l
    induction l
    case nil => exact fun init => ⟨init, rfl, fun _ => .inl rfl⟩
    case cons x l hi =>
      intro init
      have ⟨y, hy⟩ := x.value_ok w
      obtain ⟨a, ha, hv⟩ := hi <| Function.update init x.var y
      refine ⟨a, ?_, ?_⟩
      case refine_1 =>
        rw [List.foldlM_cons, hy]
        exact ha
      case refine_2 =>
        intro v
        obtain hu | ⟨z, hz, hvz⟩ := hv v
        case inr => exact .inr ⟨z, List.mem_cons_of_mem _ hz, hvz⟩
        case inl =>
          by_cases hx : x.var = v
          case pos =>
            subst hx
            rw [Function.update_self] at hu
            exact .inr ⟨x, List.mem_cons_self, rfl, hu ▸ hy⟩
          case neg => exact .inl <| hu.trans <| Function.update_of_ne (Ne.symm hx) ..
  exact hf o.arguments fun _ => 0

-- If no parameter is initialized twice, every argument keeps its value.
theorem args_of_nodup (hn : o.arguments.map Argument.var |>.Nodup) :
    ∃ a, o.args w = .ok a ∧ ∀ x ∈ o.arguments, x.value w = .ok (a x.var) := by
  have hf : ∀ (l : List Argument) (init : Args), (l.map Argument.var).Nodup → ∃ a,
      l.foldlM (fun args x => return Function.update args x.var (← x.value w)) init =
        Except.ok (ε := Undefined) a ∧
      (∀ x ∈ l, x.value w = .ok (a x.var)) ∧ ∀ v ∉ l.map Argument.var, a v = init v := by
    intro l
    induction l
    case nil => exact fun init _ => ⟨init, rfl, by simp, fun _ _ => rfl⟩
    case cons x l hi =>
      intro init hn
      have ⟨y, hy⟩ := x.value_ok w
      rw [List.map_cons, List.nodup_cons] at hn
      obtain ⟨a, ha, hx, hv⟩ := hi (Function.update init x.var y) hn.right
      refine ⟨a, ?_, ?_, ?_⟩
      case refine_1 =>
        rw [List.foldlM_cons, hy]
        exact ha
      case refine_2 =>
        rw [List.forall_mem_cons]
        have ha : a x.var = y := (hv x.var hn.left).trans <| Function.update_self ..
        exact ⟨ha ▸ hy, hx⟩
      case refine_3 =>
        intro v hm
        rw [List.map_cons, List.mem_cons, not_or] at hm
        exact (hv v hm.right).trans <| Function.update_of_ne hm.left ..
  have ⟨a, ha, hx, _⟩ := hf o.arguments (fun _ => 0) hn
  exact ⟨a, ha, hx⟩

end Opcode
