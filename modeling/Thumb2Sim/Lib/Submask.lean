import Thumb2Sim.Lib.Bits

namespace Bits

-- The numbers that have no other bits than the given ones. The first bit comes last to them.
def submasks : List Nat → List Nat
  | []          => [0]
  | bit :: bits => submasks bits ++ (submasks bits).map (1 <<< bit + ·)

variable {bits : List Nat} {x y m v w n i : Nat}

-- Numbers without a common bit are added without a carry.
theorem add_eq_or (h : x &&& y = 0) : x + y = x ||| y := by
  have hlt : x + y < 2 ^ (x + y) := Nat.lt_two_pow_self
  have hx : x < 2 ^ (x + y) := by omega
  have hy : y < 2 ^ (x + y) := by omega
  have hz : BitVec.ofNat (x + y) x &&& BitVec.ofNat (x + y) y = 0#(x + y) := by
    rw [← BitVec.ofNat_and, h]
  have ha := congrArg BitVec.toNat <| BitVec.add_eq_or_of_and_eq_zero _ _ hz
  simpa [Nat.mod_eq_of_lt, hlt, hx, hy] using ha

theorem lt_two_pow_of_mem_submasks (hb : ∀ i ∈ bits, i < n) (hp : bits.Pairwise (· > ·))
    (h : x ∈ submasks bits) : x < 2 ^ n := by
  induction bits generalizing x n
  case nil =>
    cases List.mem_singleton.mp h
    exact Nat.two_pow_pos n
  case cons bit bits hi =>
    obtain ⟨hbit, hp⟩ := List.pairwise_cons.mp hp
    have hn : bit < n := hb bit List.mem_cons_self
    have hle : 2 ^ (bit + 1) ≤ 2 ^ n := Nat.pow_le_pow_right Nat.two_pos hn
    rw [Nat.pow_succ] at hle
    cases List.mem_append.mp h
    case inl h =>
      have := hi hbit hp h
      omega
    case inr h =>
      obtain ⟨y, hy, rfl⟩ := List.mem_map.mp h
      have := hi hbit hp hy
      rw [Nat.one_shiftLeft]
      omega

theorem testBit_shiftLeft_add (h : y < 2 ^ n) :
    (1 <<< n + y).testBit i ↔ i = n ∨ y.testBit i := by
  rw [Nat.shiftLeft_add_eq_or_of_lt h 1, Nat.testBit_or, Bool.or_eq_true, Nat.one_shiftLeft,
    Nat.testBit_two_pow, decide_eq_true_eq, eq_comm]

-- A number consists of its highest bit and the other ones.
theorem shiftLeft_add_mod (hx : x.testBit n) (h : ∀ i, x.testBit i → i ≤ n) :
    1 <<< n + x % 2 ^ n = x := by
  have hlt : x < 2 ^ (n + 1) := by
    refine Nat.lt_pow_two_of_testBit x fun i hi => Bool.eq_false_iff.mpr fun hxi => ?_
    exact absurd (h i hxi) <| by omega
  have hd : x / 2 ^ n = 1 := by
    have h₂ : x / 2 ^ n < 2 := Nat.div_lt_of_lt_mul <| by rwa [← Nat.pow_succ]
    rw [Nat.testBit_eq_decide_div_mod_eq, decide_eq_true_eq, Nat.mod_eq_of_lt h₂] at hx
    exact hx
  have hs := Nat.div_add_mod x (2 ^ n)
  rw [hd, Nat.mul_one] at hs
  rw [Nat.one_shiftLeft, hs]

theorem mem_submasks (hp : bits.Pairwise (· > ·)) :
    x ∈ submasks bits ↔ ∀ i, x.testBit i → i ∈ bits := by
  induction bits generalizing x
  case nil =>
    rw [submasks, List.mem_singleton]
    constructor
    case mp =>
      rintro rfl i h
      simp at h
    case mpr =>
      intro h
      exact Nat.eq_of_testBit_eq fun i => by simpa using h i
  case cons bit bits hi =>
    obtain ⟨hbit, hp⟩ := List.pairwise_cons.mp hp
    rw [submasks, List.mem_append, List.mem_map]
    constructor
    case mp =>
      rintro (h | ⟨y, hy, rfl⟩) i hx
      · exact List.mem_cons_of_mem _ <| (hi hp).mp h i hx
      · rw [testBit_shiftLeft_add <| lt_two_pow_of_mem_submasks hbit hp hy] at hx
        exact List.mem_cons.mpr <| hx.imp_right <| (hi hp).mp hy i
    case mpr =>
      intro h
      by_cases hx : x.testBit bit
      case neg =>
        refine .inl <| (hi hp).mpr fun i hxi => ?_
        exact (List.mem_cons.mp <| h i hxi).resolve_left fun he => hx <| he ▸ hxi
      case pos =>
        have hle : ∀ i, x.testBit i → i ≤ bit := fun i hxi =>
          (List.mem_cons.mp <| h i hxi).elim Nat.le_of_eq fun hm => Nat.le_of_lt <| hbit i hm
        refine .inr ⟨x % 2 ^ bit, (hi hp).mpr fun i hxi => ?_, shiftLeft_add_mod hx hle⟩
        rw [Nat.testBit_mod_two_pow, Bool.and_eq_true, decide_eq_true_eq] at hxi
        exact (List.mem_cons.mp <| h i hxi.right).resolve_left <| Nat.ne_of_lt hxi.left

-- They come in ascending order.
theorem submasks_pairwise (hp : bits.Pairwise (· > ·)) : (submasks bits).Pairwise (· < ·) := by
  induction bits
  case nil => exact List.pairwise_singleton ..
  case cons bit bits hi =>
    obtain ⟨hbit, hp⟩ := List.pairwise_cons.mp hp
    refine List.pairwise_append.mpr ⟨hi hp, ?_, fun x hx y hy => ?_⟩
    · exact List.pairwise_map.mpr <| (hi hp).imp fun h => Nat.add_lt_add_left h _
    · obtain ⟨z, _, rfl⟩ := List.mem_map.mp hy
      have := lt_two_pow_of_mem_submasks hbit hp hx
      rw [Nat.one_shiftLeft]
      omega

-- The numbers with the value `v` under the mask `m`: any bits outside of the mask may be added.
theorem and_eq_iff_add (hm : m < 2 ^ n) (hv : v &&& m = v) :
    w < 2 ^ n ∧ w &&& m = v ↔
    ∃ x, (∀ i, x.testBit i → i < n ∧ m.testBit i = false) ∧ v + x = w := by
  constructor
  case mp =>
    rintro ⟨hw, rfl⟩
    refine ⟨w.ldiff m, fun i hi => ?_, ?_⟩
    · rw [Nat.testBit_ldiff, Bool.and_eq_true, Bool.not_eq_true'] at hi
      refine ⟨?_, hi.right⟩
      by_contra hn
      rw [Nat.testBit_lt_two_pow <| hw.trans_le <| Nat.pow_le_pow_right Nat.two_pos <|
        Nat.not_lt.mp hn] at hi
      cases hi.left
    · rw [add_eq_or]
      all_goals
        refine Nat.eq_of_testBit_eq fun i => ?_
        simp only [Nat.testBit_or, Nat.testBit_and, Nat.testBit_ldiff, Nat.zero_testBit]
        cases w.testBit i <;> cases m.testBit i <;> rfl
  case mpr =>
    rintro ⟨x, hx, rfl⟩
    have hxm : x &&& m = 0 := by
      refine Nat.eq_of_testBit_eq fun i => ?_
      rw [Nat.testBit_and, Nat.zero_testBit]
      by_cases hi : x.testBit i
      case pos => rw [(hx i hi).right, Bool.and_false]
      case neg => simp [hi]
    have hvx : v &&& x = 0 := by
      rw [← hv, Nat.and_assoc, Nat.and_comm m, hxm, Nat.and_zero]
    have hxn : x < 2 ^ n := by
      refine Nat.lt_pow_two_of_testBit x fun i hi => ?_
      by_contra h
      exact absurd (hx i <| by simpa using h).left <| Nat.not_lt.mpr hi
    have hvn : v < 2 ^ n := hv ▸ Nat.and_lt_two_pow v hm
    rw [add_eq_or hvx]
    refine ⟨Nat.or_lt_two_pow hvn hxn, ?_⟩
    rw [Nat.and_or_distrib_right, hv, hxm, Nat.or_zero]

end Bits
