import Thumb2Sim.Lib.Program

-- Programs that do on a state of their own what functions do on another one.
namespace Program

variable {σ τ ε α β γ : Type}

-- From a state on that is related to `s` by `R`, the program `m` does not fail and has the result of
-- `f` at `s`. The states that the two end in are related by `R'`.
def Simulates (R R' : σ → τ → Prop) (f : σ → α × σ) (m : Program τ ε α) : Prop :=
  ∀ s t, R s t → ∃ t', m t = .ok ((f s).1, t') ∧ R' (f s).2 t'

-- The program `m` finds out something about the state, and does not change it as far as `R` tells.
def Observes (R : σ → τ → Prop) (f : σ → α) (m : Program τ ε α) : Prop :=
  Simulates R R (fun s => (f s, s)) m

variable {R R' R'' : σ → τ → Prop}

namespace Simulates

variable {f : σ → α × σ} {g : α → σ → β × σ} {m : Program τ ε α} {n : α → Program τ ε β}

theorem pure {f : σ → σ} (a : α) (h : ∀ s t, R s t → R' (f s) t) :
    Simulates R R' (fun s => (a, f s)) (pure a : Program τ ε α) :=
  fun s t hr => ⟨t, rfl, h s t hr⟩

theorem bind (h : Simulates R R' f m) (hg : ∀ a, Simulates R' R'' (g a) (n a)) :
    Simulates R R'' (fun s => g (f s).1 (f s).2) (m >>= n) := by
  intro s t hr
  have ⟨t₁, hm, h₁⟩ := h s t hr
  have ⟨t₂, hn, h₂⟩ := hg (f s).1 _ _ h₁
  exact ⟨t₂, (bind_of_ok hm).trans hn, h₂⟩

end Simulates

namespace Observes

variable {f : σ → α} {g : α → σ → β} {m : Program τ ε α} {n : α → Program τ ε β}

theorem pure (a : α) : Observes R (fun _ => a) (pure a : Program τ ε α) :=
  Simulates.pure a fun _ _ => id

theorem bind (h : Observes R f m) (hg : ∀ a, Observes R (g a) (n a)) :
    Observes R (fun s => g (f s) s) (m >>= n) :=
  Simulates.bind h hg

theorem mapM {f : γ → σ → α} {m : γ → Program τ ε α} {l : List γ}
    (h : ∀ c ∈ l, Observes R (f c) (m c)) :
    Observes R (fun s => l.map fun c => f c s) (l.mapM m) := by
  induction l
  case nil => exact pure []
  case cons c l hi =>
    have ⟨hc, hl⟩ := List.forall_mem_cons.mp h
    rw [List.mapM_cons]
    exact hc.bind fun a => (hi hl).bind fun as => pure (a :: as)

end Observes

end Program
