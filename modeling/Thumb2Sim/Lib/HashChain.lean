import Mathlib.Data.Prod.Basic

-- Values that are chained by a function such as a hash function: every link is made of the former
-- one and a value.
namespace HashChain

variable {α β : Type} (f : β → α → β) (b : β)

def chain (x : Nat → α) : Nat → β
  | 0     => b
  | n + 1 => f (chain x n) (x n)

-- The links number `k + 1` of two chains are the same, but they are made of different things.
def Collides (x y : Nat → α) (k : Nat) : Prop :=
  (chain f b x k, x k) ≠ (chain f b y k, y k) ∧ chain f b x (k + 1) = chain f b y (k + 1)

variable {f b} {x y : Nat → α} {n : Nat}

theorem chain_congr (h : ∀ k < n, x k = y k) : chain f b x n = chain f b y n := by
  induction n
  case zero      => rfl
  case succ n hi =>
    rw [chain, chain, h n <| Nat.lt_succ_self n, hi fun k hk => h k <| Nat.lt_succ_of_lt hk]

-- The last link tells all values, unless there are links that collide.
theorem eq_or_collides (h : chain f b x n = chain f b y n) :
    (∀ k < n, x k = y k) ∨ ∃ k < n, Collides f b x y k := by
  induction n
  case zero      => exact .inl fun _ hk => absurd hk <| Nat.not_lt_zero _
  case succ n hi =>
    by_cases hp : (chain f b x n, x n) = (chain f b y n, y n)
    case neg => exact .inr ⟨n, Nat.lt_succ_self n, hp, h⟩
    case pos =>
      obtain ⟨hc, hx⟩ := Prod.mk.inj hp
      obtain hk | ⟨k, hk, hl⟩ := hi hc
      case inr => exact .inr ⟨k, Nat.lt_succ_of_lt hk, hl⟩
      case inl =>
        refine .inl fun k hn => ?_
        obtain rfl | hn := Nat.eq_or_lt_of_le <| Nat.le_of_lt_succ hn
        · exact hx
        · exact hk k hn

end HashChain
