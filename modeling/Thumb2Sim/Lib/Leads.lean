import Thumb2Sim.Lib.Run

-- Pieces of a run, between states of which only a part is described.
section

variable {σ ε α : Type} {step : σ → Except ε σ} {R : α → σ → Prop} {a b c : α} {m n : Nat}

-- From every state that `a` describes, `n` steps of the machine lead to one that `b` describes.
def Leads (step : σ → Except ε σ) (R : α → σ → Prop) (n : Nat) (a b : α) : Prop :=
  ∀ s, R a s → ∃ t, iterate step n s = .ok t ∧ R b t

namespace Leads

theorem refl (a : α) : Leads step R 0 a a :=
  fun s hr => ⟨s, rfl, hr⟩

theorem single (h : ∀ s, R a s → ∃ t, step s = .ok t ∧ R b t) : Leads step R 1 a b := by
  intro s hr
  have ⟨t, hs, ht⟩ := h s hr
  refine ⟨t, ?_, ht⟩
  rw [iterate, hs]
  rfl

theorem trans (h : Leads step R m a b) (h' : Leads step R n b c) : Leads step R (m + n) a c := by
  intro s hr
  have ⟨t, hs, ht⟩ := h s hr
  have ⟨u, hs', hu⟩ := h' t ht
  refine ⟨u, ?_, hu⟩
  rw [iterate_add, hs]
  exact hs'

-- A loop that is gone through `n` times.
theorem loop {f : Nat → α} (h : ∀ k < n, Leads step R m (f k) (f (k + 1))) :
    Leads step R (n * m) (f 0) (f n) := by
  induction n
  case zero      => rw [Nat.zero_mul]; exact refl _
  case succ n hi =>
    rw [Nat.succ_mul]
    exact hi (fun k hk => h k <| Nat.lt_succ_of_lt hk) |>.trans <| h n n.lt_succ_self

end Leads

end
