import Mathlib.Order.Basic

-- Runs of a machine whose steps can fail.
section

variable {σ ε τ : Type} {step : σ → Except ε σ}

-- The first `n` steps of the sequence `r` are successful steps of the machine.
def Run (step : σ → Except ε σ) (r : Nat → σ) (n : Nat) : Prop :=
  ∀ k < n, step (r k) = .ok (r (k + 1))

variable {r : Nat → σ} {n : Nat}

-- What holds initially and is preserved by every step of the run holds all along the run.
theorem Run.invariant (h : Run step r n) {I : Nat → σ → Prop} (h₀ : I 0 (r 0))
    (hs : ∀ k < n, I k (r k) → step (r k) = .ok (r (k + 1)) → I (k + 1) (r (k + 1))) :
    ∀ k ≤ n, I k (r k) := by
  intro k hk
  induction k
  case zero => exact h₀
  case succ k hi => exact hs k hk (hi <| Nat.le_of_succ_le hk) (h k hk)

-- The state that a computation ends in, if it does not fail.
def resultOr (s : σ) : Except ε σ → σ
  | .ok t    => t
  | .error _ => s

theorem eq_resultOr {x : Except ε σ} {s : σ} (h : x.isOk) : x = .ok (resultOr s x) := by
  cases x
  case ok    => rfl
  case error => cases h

-- The sequence of states from `s` on, which stays where a step fails.
def trace (step : σ → Except ε σ) (s : σ) : Nat → σ
  | 0     => s
  | n + 1 => resultOr (trace step s n) (step (trace step s n))

theorem trace_succ' (s : σ) (n : Nat) :
    trace step s (n + 1) = trace step (resultOr s <| step s) n := by
  induction n
  case zero      => rfl
  case succ n hi => rw [trace, hi]; rfl

theorem run_trace {s : σ} (h : ∀ k < n, (step (trace step s k)).isOk) :
    Run step (trace step s) n :=
  fun k hk => eq_resultOr (h k hk)

-- The state after `n` steps.
def iterate (step : σ → Except ε σ) : Nat → σ → Except ε σ
  | 0,     s => .ok s
  | n + 1, s => step s >>= iterate step n

theorem iterate_add (m n : Nat) (s : σ) :
    iterate step (m + n) s = iterate step m s >>= iterate step n := by
  induction m generalizing s
  case zero      => rw [Nat.zero_add]; rfl
  case succ m hi =>
    rw [Nat.succ_add, iterate, iterate]
    cases step s
    case error => rfl
    case ok t  => exact hi t

-- The results of two computations that fail alike or end in related states.
inductive Related (R : σ → σ → Prop) : Except ε σ → Except ε σ → Prop
  | ok {s t : σ} : R s t → Related R (.ok s) (.ok t)
  | error (e : ε) : Related R (.error e) (.error e)

theorem Related.refl {R : σ → σ → Prop} (hr : ∀ s, R s s) (x : Except ε σ) : Related R x x := by
  cases x
  case ok s    => exact .ok (hr s)
  case error e => exact .error e

theorem Related.bind {R R' : σ → σ → Prop} {x y : Except ε σ} {f g : σ → Except ε σ}
    (h : Related R x y) (hf : ∀ s t, R s t → Related R' (f s) (g t)) :
    Related R' (x >>= f) (y >>= g) := by
  cases h
  case ok h    => exact hf _ _ h
  case error e => exact .error e

-- Two runs of the machine stay related if a step leads from related states to related states.
theorem Related.iterate {R : σ → σ → Prop} (hs : ∀ s t, R s t → Related R (step s) (step t))
    (n : Nat) {s t : σ} (h : R s t) : Related R (iterate step n s) (iterate step n t) := by
  induction n generalizing s t
  case zero => exact .ok h
  case succ n hi => exact (hs s t h).bind fun _ _ => hi

theorem Related.map_eq {R : σ → σ → Prop} {obs : σ → τ} (ho : ∀ s t, R s t → obs s = obs t)
    {x y : Except ε σ} (h : Related R x y) : x.map obs = y.map obs := by
  cases h
  case ok h    => simp [Except.map, ho _ _ h]
  case error e => rfl

end
