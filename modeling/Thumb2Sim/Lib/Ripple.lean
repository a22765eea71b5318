import Mathlib.Data.Nat.Digits.Defs
import Mathlib.Data.Nat.ModEq
import Mathlib.Tactic.Ring

-- A position in the addition of two numbers: the digits that are added, and the carry that is
-- handed on to the next position as a function of the one that comes in. It may be a wrong one.
structure Adder where
  x     : Nat
  y     : Nat
  carry : Bool → Bool

namespace Adder

variable {B : Nat} {l : List Adder} {a : Adder} {c c' : Bool}

def digit (B : Nat) (a : Adder) (c : Bool) : Nat :=
  (a.x + a.y + c.toNat) % B

-- The carry that ought to be handed on.
def carryOut (B : Nat) (a : Adder) (c : Bool) : Bool :=
  B ≤ a.x + a.y + c.toNat

-- The digits that a chain of adders computes, with the lowest digit first.
def digits (B : Nat) : List Adder → Bool → List Nat
  | [],     _ => []
  | a :: l, c => a.digit B c :: digits B l (a.carry c)

def lastCarry : List Adder → Bool → Bool
  | [],     c => c
  | a :: l, c => lastCarry l (a.carry c)

-- Every adder hands on the right carry if it gets the right one.
def Exact (B : Nat) : List Adder → Bool → Prop
  | [],     _ => True
  | a :: l, c => a.carry c = a.carryOut B c ∧ Exact B l (a.carryOut B c)

-- The numbers that are added.
def first (B : Nat) (l : List Adder) : Nat :=
  Nat.ofDigits B <| l.map Adder.x

def second (B : Nat) (l : List Adder) : Nat :=
  Nat.ofDigits B <| l.map Adder.y

def InBase (B : Nat) (l : List Adder) : Prop :=
  ∀ a ∈ l, a.x < B ∧ a.y < B

theorem digits_length : (digits B l c).length = l.length := by
  induction l generalizing c
  case nil => rfl
  case cons hi => simp [digits, hi]

theorem digits_lt (hB : 0 < B) : ∀ d ∈ digits B l c, d < B := by
  induction l generalizing c
  case nil => simp [digits]
  case cons hi =>
    simp only [digits, List.mem_cons, forall_eq_or_imp]
    exact ⟨Nat.mod_lt _ hB, hi⟩

theorem digit_add (hx : a.x < B) (hy : a.y < B) :
    a.digit B c + B * (a.carryOut B c).toNat = a.x + a.y + c.toNat := by
  have hc := c.toNat_lt
  unfold digit carryOut
  by_cases h : B ≤ a.x + a.y + c.toNat
  case pos =>
    rw [Nat.mod_eq_sub_mod h, Nat.mod_eq_of_lt (by omega)]
    simp [h]
  case neg =>
    rw [Nat.mod_eq_of_lt (by omega)]
    simp [h]

-- A digit shows whether the carry was right.
theorem eq_of_digit_modEq (hB : 1 < B) (h : a.digit B c ≡ a.x + a.y + c'.toNat [MOD B]) :
    c = c' := by
  have hc : c.toNat ≡ c'.toNat [MOD B] :=
    Nat.ModEq.add_left_cancel' (a.x + a.y) <| (Nat.mod_modEq _ B).symm.trans h
  have hn : c.toNat = c'.toNat :=
    hc.eq_of_lt_of_lt (by have := c.toNat_lt; omega) (by have := c'.toNat_lt; omega)
  revert hn
  cases c <;> cases c' <;> simp

-- The chain adds if and only if the first carry is right and every adder hands on the right one.
theorem digits_add_iff (hB : 1 < B) (hl : InBase B l) (c' : Bool) :
    Nat.ofDigits B (digits B l c) + B ^ l.length * (lastCarry l c).toNat =
      first B l + second B l + c'.toNat ↔ c = c' ∧ Exact B l c' := by
  induction l generalizing c c'
  case nil =>
    cases c <;> cases c' <;> simp [digits, lastCarry, first, second, Exact]
  case cons a l hi =>
    obtain ⟨⟨hx, hy⟩, hl⟩ := List.forall_mem_cons.mp hl
    let rest := Nat.ofDigits B (digits B l (a.carry c)) + B ^ l.length *
      (lastCarry l (a.carry c)).toNat
    have hs : Nat.ofDigits B (digits B (a :: l) c) + B ^ (a :: l).length *
        (lastCarry (a :: l) c).toNat = a.digit B c + B * rest := by
      simp only [digits, lastCarry, Nat.ofDigits_cons, List.length_cons, pow_succ, rest]
      ring
    have hf : first B (a :: l) + second B (a :: l) + c'.toNat =
        a.x + a.y + c'.toNat + B * (first B l + second B l) := by
      simp only [first, second, List.map_cons, Nat.ofDigits_cons]
      ring
    rw [hs, hf]
    by_cases hc : c = c'
    case neg =>
      refine iff_of_false (fun h => hc ?_) fun h => hc h.left
      exact eq_of_digit_modEq (a := a) hB <| by simpa [Nat.ModEq] using congrArg (· % B) h
    case pos =>
      subst hc
      rw [← digit_add hx hy, Nat.add_assoc, Nat.add_left_cancel_iff, ← Nat.mul_add,
        Nat.mul_left_cancel_iff (by omega), Nat.add_comm (a.carryOut B c).toNat, hi hl _]
      simp [Exact]

-- The numbers are smaller than the power of the base.
theorem first_lt (hB : 1 < B) (hl : InBase B l) : first B l < B ^ l.length := by
  have h := Nat.ofDigits_lt_base_pow_length (l := l.map Adder.x) hB
    (List.forall_mem_map.mpr fun a ha => (hl a ha).left)
  rwa [List.length_map] at h

theorem second_lt (hB : 1 < B) (hl : InBase B l) : second B l < B ^ l.length := by
  have h := Nat.ofDigits_lt_base_pow_length (l := l.map Adder.y) hB
    (List.forall_mem_map.mpr fun a ha => (hl a ha).right)
  rwa [List.length_map] at h

-- A number with a carry above it.
theorem add_mul_toNat_iff {n m k : Nat} {b : Bool} (hn : n < k) (hm : m < 2 * k) :
    n + k * b.toNat = m ↔ n = m % k ∧ (b ↔ k ≤ m) := by
  by_cases h : k ≤ m
  case pos =>
    rw [Nat.mod_eq_sub_mod h, Nat.mod_eq_of_lt (by omega)]
    cases b <;> simp [h] <;> omega
  case neg =>
    rw [Nat.mod_eq_of_lt (by omega)]
    cases b
    case false => simp [h]
    case true  => simp [h]; omega

-- The chain computes the sum and the carry out of it if and only if its adders are exact.
theorem sum_iff (hB : 1 < B) (hl : InBase B l) :
    Nat.ofDigits B (digits B l false) = (first B l + second B l) % B ^ l.length ∧
      (lastCarry l false ↔ B ^ l.length ≤ first B l + second B l) ↔ Exact B l false := by
  have hd : Nat.ofDigits B (digits B l false) < B ^ l.length :=
    digits_length ▸ Nat.ofDigits_lt_base_pow_length hB (digits_lt <| by omega)
  have hf := first_lt hB hl
  have hs := second_lt hB hl
  have hi := digits_add_iff (c := false) hB hl false
  rw [← add_mul_toNat_iff hd (by omega)]
  simpa using hi

end Adder
