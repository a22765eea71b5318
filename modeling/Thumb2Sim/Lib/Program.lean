import Mathlib.Data.Set.Basic

-- Programs on a state that can end in an error.
abbrev Program (σ ε α : Type) :=
  StateT σ (Except ε) α

-- Steps that agree on the elements of a list give the same result.
theorem foldlM_eq_of_forall {α β : Type} {m : Type → Type} [Monad m] {f g : β → α → m β} {l : List α}
    {b : β} (h : ∀ a ∈ l, ∀ b, f b a = g b a) : l.foldlM f b = l.foldlM g b := by
  induction l generalizing b
  case nil => rfl
  case cons a l hi =>
    rw [List.forall_mem_cons] at h
    rw [List.foldlM_cons, List.foldlM_cons, h.left]
    exact congrArg _ <| funext fun _ => hi h.right

namespace Except

variable {ε α β : Type} {x : Except ε α} {b : β}

theorem map_ok_iff {f : α → β} : x.map f = .ok b ↔ ∃ a, x = .ok a ∧ f a = b := by
  cases x <;> simp [Except.map]

theorem bind_ok_iff {f : α → Except ε β} : x >>= f = .ok b ↔ ∃ a, x = .ok a ∧ f a = .ok b := by
  cases x <;> simp [bind, Except.bind]

theorem bind_unit_ok_iff {x : Except ε Unit} {y : Except ε β} :
    (x >>= fun _ => y) = .ok b ↔ x = .ok () ∧ y = .ok b := by
  cases x <;> simp [bind, Except.bind]

end Except

namespace Program

variable {σ ε α β : Type}

-- A computation that does not look at the state.
def checked : Except ε α → Program σ ε α
  | .ok a,    s => .ok (a, s)
  | .error e, _ => .error e

def when (c : Bool) (m : Program σ ε Unit) : Program σ ε Unit :=
  if c then m else pure ()

section

variable {m : Program σ ε α} {f : α → Program σ ε β} {s s' : σ} {a : α} {b : β} {e : ε}

theorem bind_ok_iff :
    (m >>= f) s = .ok (b, s') ↔ ∃ a t, m s = .ok (a, t) ∧ f a t = .ok (b, s') := by
  change (m s >>= fun p => f p.1 p.2) = _ ↔ _
  cases m s
  case error => simp [bind, Except.bind]
  case ok p =>
    constructor
    case mp => exact fun h => ⟨p.1, p.2, rfl, h⟩
    case mpr =>
      intro ⟨_, _, hp, hf⟩
      cases hp
      exact hf

theorem bind_of_ok (h : m s = .ok (a, s')) : (m >>= f) s = f a s' := by
  change (m s >>= fun p => f p.1 p.2) = _
  rw [h]
  rfl

theorem bind_of_error (h : m s = .error e) : (m >>= f) s = .error e := by
  change (m s >>= fun p => f p.1 p.2) = _
  rw [h]
  rfl

end

-- The execution of `m` that starts in the state `s` ends in the error `e`.
def Fails (e : ε) (m : Program σ ε α) (s : σ) : Prop :=
  m s = .error e

section

variable {m m' : Program σ ε α} {f : α → Program σ ε β} {s s' : σ} {a : α} {e : ε}

@[simp]
theorem fails_bind :
    Fails e (m >>= f) s ↔ Fails e m s ∨ ∃ a s', m s = .ok (a, s') ∧ Fails e (f a) s' := by
  change (m s >>= fun p => f p.1 p.2) = _ ↔ m s = _ ∨ ∃ a s', _ ∧ f a s' = _
  cases m s
  case error => simp [bind, Except.bind]
  case ok p  =>
    constructor
    case mp  => exact fun h => .inr ⟨p.1, p.2, rfl, h⟩
    case mpr =>
      rintro (h | ⟨_, _, h, hf⟩) <;> cases h
      exact hf

@[simp]
theorem not_fails_pure : ¬Fails e (pure a : Program σ ε α) s := by
  intro h
  cases h

@[simp]
theorem fails_map {g : α → β} : Fails e (g <$> m) s ↔ Fails e m s := by
  rw [map_eq_pure_bind, fails_bind]
  simp

@[simp]
theorem fails_when {c : Bool} {m : Program σ ε Unit} : Fails e (when c m) s ↔ c ∧ Fails e m s := by
  cases c <;> simp [when]

@[simp]
theorem fails_ite {p : Prop} [Decidable p] :
    Fails e (if p then m else m') s ↔ if p then Fails e m s else Fails e m' s := by
  split <;> rfl

@[simp]
theorem fails_checked {x : Except ε α} : Fails e (checked x : Program σ ε α) s ↔ x = .error e := by
  cases x <;> simp [Fails, checked]

theorem fails_bind_of_ok (h : m s = .ok (a, s')) : Fails e (m >>= f) s ↔ Fails e (f a) s' := by
  rw [Fails, bind_of_ok h, Fails]

-- A computation in front of a program that fails or not whatever the result of it is.
theorem fails_checked_bind {x : Except ε α} {p : Prop} (hx : ∀ e', x = .error e' → e' = e)
    (hf : ∀ a, Fails e (f a) s ↔ p) : Fails e (checked x >>= f) s ↔ x = .error e ∨ p := by
  cases x
  case ok a     => rw [fails_bind_of_ok rfl, hf]; simp
  case error e' =>
    cases hx e' rfl
    exact iff_of_true (bind_of_error rfl) (.inl rfl)

end

-- Every execution of `m` that starts with `I` and does not fail ends with `I`, and its result has
-- the property `Q`.
def Keeps (I : σ → Prop) (m : Program σ ε α) (Q : α → Prop) : Prop :=
  ∀ s a s', I s → m s = .ok (a, s') → I s' ∧ Q a

-- A change `g` of the state is not noticed by `m`, and comes out of it as it went in.
def Ignores (I : σ → Prop) (g : σ → σ) (m : Program σ ε α) : Prop :=
  ∀ s, I s → m (g s) = (m s).map fun p => (p.1, g p.2)

-- The programs that are put together from the given primitive ones, where the result of a primitive
-- program has a certain property that the rest of the program may use.
inductive Composite (prim : ∀ {α : Type}, Program σ ε α → (α → Prop) → Prop) :
    ∀ {α : Type}, Program σ ε α → (α → Prop) → Prop
  | prim {γ : Type} {m : Program σ ε γ} {Q : γ → Prop} : prim m Q → Composite prim m Q
  | pure {γ : Type} {c : γ} {Q : γ → Prop} : Q c → Composite prim (pure c) Q
  | bind {γ δ : Type} {m : Program σ ε γ} {f : γ → Program σ ε δ} {Q : γ → Prop} {Q' : δ → Prop} :
    Composite prim m Q → (∀ c, Q c → Composite prim (f c) Q') → Composite prim (m >>= f) Q'

namespace Composite

variable {prim : ∀ {α : Type}, Program σ ε α → (α → Prop) → Prop} {m : Program σ ε α}
  {Q : α → Prop} {I : σ → Prop} {g : σ → σ}

theorem weaken {Q' : α → Prop} (h : Composite prim m Q) (hq : ∀ a, Q a → Q' a) :
    Composite prim m Q' := by
  have hb : Composite prim (m >>= Pure.pure) Q' := h.bind fun a ha => .pure (hq a ha)
  rwa [bind_pure] at hb

theorem mono {prim' : ∀ {α : Type}, Program σ ε α → (α → Prop) → Prop}
    (hp : ∀ {α} {m : Program σ ε α} {Q}, prim m Q → prim' m Q) (h : Composite prim m Q) :
    Composite prim' m Q := by
  induction h
  case prim h        => exact .prim (hp h)
  case pure hq       => exact .pure hq
  case bind him hif  => exact .bind him hif

theorem when {c : Bool} {m : Program σ ε Unit} (h : c → Composite prim m fun _ => True) :
    Composite prim (Program.when c m) fun _ => True := by
  cases c
  case false => exact .pure trivial
  case true  => exact h rfl

theorem ite {p : Prop} [Decidable p] {m' : Program σ ε α} (h : p → Composite prim m Q)
    (h' : ¬p → Composite prim m' Q) : Composite prim (if p then m else m') Q := by
  split
  case isTrue hp => exact h hp
  case isFalse hp => exact h' hp

theorem keeps (hp : ∀ {α} {m : Program σ ε α} {Q}, prim m Q → Keeps I m Q)
    (h : Composite prim m Q) : Keeps I m Q := by
  induction h
  case prim h => exact hp h
  case pure hq =>
    intro s a s' hs h
    cases h
    exact ⟨hs, hq⟩
  case bind him hif =>
    intro s b s' hs h
    have ⟨a, t, hm, hf⟩ := bind_ok_iff.mp h
    have ⟨ht, ha⟩ := him s a t hs hm
    exact hif a ha t b s' ht hf

theorem ignores (hk : ∀ {α} {m : Program σ ε α} {Q}, prim m Q → Keeps I m Q)
    (hp : ∀ {α} {m : Program σ ε α} {Q}, prim m Q → Ignores I g m)
    (h : Composite prim m Q) : Ignores I g m := by
  induction h
  case prim h => exact hp h
  case pure => intro s _; rfl
  case bind m f _ _ hcm _ him hif =>
    intro s hs
    have hg := him s hs
    cases hm : m s
    case error e =>
      rw [hm] at hg
      rw [bind_of_error hm, bind_of_error hg]
      rfl
    case ok p =>
      rw [hm] at hg
      have ⟨ht, ha⟩ := hcm.keeps hk s p.1 p.2 hs hm
      rw [bind_of_ok hm, bind_of_ok hg]
      exact hif p.1 ha p.2 ht

end Composite

end Program
