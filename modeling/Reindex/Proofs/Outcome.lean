import Mathlib.Tactic.Common

/-!
# Results of steps that can fail

How a result that a sequence of steps gave came about.
-/

namespace Reindex

variable {ε ε' α β : Type}

theorem bind_eq_ok {x : Except ε α} {f : α → Except ε β} {b : β} :
    (x >>= f) = .ok b ↔ ∃ a, x = .ok a ∧ f a = .ok b := by
  cases x with
  | error e => simp [bind, Except.bind]
  | ok a => simp [bind, Except.bind]

theorem bind_eq_error {x : Except ε α} {f : α → Except ε β} {e : ε} :
    (x >>= f) = .error e ↔ x = .error e ∨ ∃ a, x = .ok a ∧ f a = .error e := by
  cases x with
  | error e => simp [bind, Except.bind]
  | ok a => simp [bind, Except.bind]

theorem isOk_iff_exists {x : Except ε α} : x.isOk = true ↔ ∃ a, x = .ok a := by
  cases x with
  | error e => simp [Except.isOk, Except.toBool]
  | ok a => simp [Except.isOk, Except.toBool]

theorem mapError_eq_ok {x : Except ε α} {f : ε → ε'} {a : α} :
    x.mapError f = .ok a ↔ x = .ok a := by
  cases x with
  | error e => simp [Except.mapError]
  | ok a => simp [Except.mapError]

theorem mapError_eq_error {x : Except ε α} {f : ε → ε'} {e' : ε'} :
    x.mapError f = .error e' ↔ ∃ e, x = .error e ∧ f e = e' := by
  cases x with
  | error e => simp [Except.mapError]
  | ok a => simp [Except.mapError]

theorem toOption_eq_some_iff {x : Except ε α} {a : α} : x.toOption = some a ↔ x = .ok a := by
  cases x with
  | error e => simp [Except.toOption]
  | ok a => simp [Except.toOption]

/-! ### Two results side by side -/

/-- Two results are the same error, or they are values that are related. -/
inductive Agree (P : α → β → Prop) : Except ε α → Except ε β → Prop
  | error (e : ε) : Agree P (.error e) (.error e)
  | ok {a : α} {b : β} (h : P a b) : Agree P (.ok a) (.ok b)

namespace Agree

variable {P Q : α → β → Prop} {x : Except ε α} {y : Except ε β}

lemma refl {R : α → α → Prop} (hR : ∀ a, R a a) (x : Except ε α) : Agree R x x := by
  cases x with
  | error e => exact .error e
  | ok a => exact .ok (hR a)

lemma eq_error_or_eq_ok (h : Agree P x y) :
    (∃ e, x = .error e ∧ y = .error e) ∨ ∃ a b, x = .ok a ∧ y = .ok b ∧ P a b := by
  cases h with
  | error e => exact .inl ⟨e, rfl, rfl⟩
  | ok h => exact .inr ⟨_, _, rfl, rfl, h⟩

lemma mapError (h : Agree P x y) (f : ε → ε') : Agree P (x.mapError f) (y.mapError f) := by
  cases h with
  | error e => exact .error (f e)
  | ok h => exact .ok h

lemma of_map {γ δ : Type} {P : γ → δ → Prop} {f : α → γ} {g : β → δ}
    (h : Agree P (x.map f) (y.map g)) : Agree (fun a b => P (f a) (g b)) x y := by
  cases x with
  | error e =>
    cases y with
    | error e' =>
      cases h
      exact .error e
    | ok b => cases h
  | ok a =>
    cases y with
    | error e' => cases h
    | ok b =>
      cases h with
      | ok h => exact .ok h

lemma eq {x y : Except ε α} (h : Agree Eq x y) : x = y := by
  cases h with
  | error e => rfl
  | ok h => rw [h]

end Agree

/-- Two results are the same value, or they are errors that are related. -/
inductive SameUpTo (E : ε → ε' → Prop) : Except ε α → Except ε' α → Prop
  | error {e : ε} {e' : ε'} (h : E e e') : SameUpTo E (.error e) (.error e')
  | ok (a : α) : SameUpTo E (.ok a) (.ok a)

namespace SameUpTo

variable {E : ε → ε' → Prop}

lemma refl {R : ε → ε → Prop} (hR : ∀ e, R e e) (x : Except ε α) : SameUpTo R x x := by
  cases x with
  | error e => exact .error (hR e)
  | ok a => exact .ok a

lemma mapError {δ δ' : Type} {D : δ → δ' → Prop} {x : Except ε α} {y : Except ε' α}
    (h : SameUpTo E x y) {f : ε → δ} {g : ε' → δ'} (hfg : ∀ e e', E e e' → D (f e) (g e')) :
    SameUpTo D (x.mapError f) (y.mapError g) := by
  cases h with
  | error h => exact .error (hfg _ _ h)
  | ok a => exact .ok a

end SameUpTo

/-! ### Two results that need not be there -/

lemma rel_refl {P : α → α → Prop} (hP : ∀ a, P a a) (x : Option α) : Option.Rel P x x := by
  cases x with
  | none => exact .none
  | some a => exact .some (hP a)

lemma rel_eq {x y : Option α} (h : Option.Rel Eq x y) : x = y := by
  cases h with
  | none => rfl
  | some h => rw [h]

/-- Related results, each followed by a search, are related if the searches are. -/
lemma rel_bind {γ δ : Type} {P : α → β → Prop} {Q : γ → δ → Prop} {x : Option α} {y : Option β}
    {f : α → Option γ} {g : β → Option δ} (h : Option.Rel P x y)
    (hfg : ∀ a b, P a b → Option.Rel Q (f a) (g b)) : Option.Rel Q (x.bind f) (y.bind g) := by
  cases h with
  | none => exact .none
  | some h => exact hfg _ _ h

end Reindex
