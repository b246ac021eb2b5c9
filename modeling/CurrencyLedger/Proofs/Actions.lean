import CurrencyLedger.Action
import Mathlib.Order.Defs.Unbundled

/-!
How actions end, and which states they lead to.

An action that is a sequence ends well when both parts do, and fails when one of them does; that is
all a proof about an operation needs to take it apart. `Within` speaks of every ending at once: an
action stays within a relation if the state after it, after a failure too, is related to the one
before. A reflexive and transitive relation is kept by whatever is built from parts that keep it.
-/

namespace CurrencyLedger

/-- A sequence of checks passes when each of them does. -/
theorem bind_eq_ok {a : Except ε α} {f : α → Except ε β} {y : β} :
    (a >>= f) = .ok y ↔ ∃ x, a = .ok x ∧ f x = .ok y := by
  cases a with
  | error e => simp [bind, Except.bind]
  | ok x => simp [bind, Except.bind]

theorem map_eq_ok {a : Except ε α} {f : α → β} {y : β} :
    f <$> a = .ok y ↔ ∃ x, a = .ok x ∧ f x = y := by
  cases a <;> simp [Functor.map, Except.map]

/-- A sequence of checks fails with the first of them that fails. -/
theorem bind_eq_error {a : Except ε α} {f : α → Except ε β} {e : ε} :
    (a >>= f) = .error e ↔ a = .error e ∨ ∃ x, a = .ok x ∧ f x = .error e := by
  cases a with
  | error e => simp [bind, Except.bind]
  | ok x => simp [bind, Except.bind]

theorem map_eq_error {a : Except ε α} {f : α → β} {e : ε} :
    f <$> a = .error e ↔ a = .error e := by
  cases a <;> simp [Functor.map, Except.map]

theorem ofLedger_eq_error {r : Except LedgerError α} {f : Failure} :
    ofLedger r = .error f ↔ ∃ e, r = .error e ∧ .ledger e = f := by
  cases r <;> simp [ofLedger]

theorem ofSignal_eq_error {r : Except Decimal.Signal α} {f : Failure} :
    ofSignal r = .error f ↔ ∃ s, r = .error s ∧ .arithmetic s = f := by
  cases r <;> simp [ofSignal]

@[simp] theorem ofLedger_eq_ok {r : Except LedgerError α} {a : α} :
    ofLedger r = .ok a ↔ r = .ok a := by
  cases r <;> simp [ofLedger]

@[simp] theorem ofSignal_eq_ok {r : Except Decimal.Signal α} {a : α} :
    ofSignal r = .ok a ↔ r = .ok a := by
  cases r <;> simp [ofSignal]

namespace Action

variable {σ α β : Type}

theorem ext {a b : Action σ α} (h : ∀ s, a.on s = b.on s) : a = b := funext h

@[simp] theorem on_check (r : Except LedgerError α) (s : σ) :
    (check r : Action σ α).on s = (ofLedger r, s) := rfl

@[simp] theorem on_compute (r : Except Decimal.Signal α) (s : σ) :
    (compute r : Action σ α).on s = (ofSignal r, s) := rfl

@[simp] theorem on_refuse (kind : LedgerError.Kind) (s : σ) :
    (refuse kind : Action σ α).on s = (.error (.refusal kind), s) := rfl

@[simp] theorem on_outcome (a : Action σ α) (s : σ) :
    a.outcome.on s = (.ok (a.on s).1, (a.on s).2) := rfl

/-- A first part that ends well hands over to the second. -/
theorem on_bind_of_ok {a : Action σ α} (f : α → Action σ β) {s t : σ} {x : α}
    (h : a.on s = (.ok x, t)) : (a >>= f).on s = (f x).on t := by
  rw [on_bind, h]

/-- A first part that fails is the end of it. -/
theorem on_bind_of_error {a : Action σ α} (f : α → Action σ β) {s t : σ} {e : Failure}
    (h : a.on s = (.error e, t)) : (a >>= f).on s = (.error e, t) := by
  rw [on_bind, h]

/-- A sequence ends well when both of its parts do. -/
theorem on_bind_eq_ok {a : Action σ α} {f : α → Action σ β} {s u : σ} {y : β} :
    (a >>= f).on s = (.ok y, u) ↔ ∃ x t, a.on s = (.ok x, t) ∧ (f x).on t = (.ok y, u) := by
  rw [on_bind]
  rcases a.on s with ⟨e | x, t⟩
  · simp
  · constructor
    · intro h
      exact ⟨x, t, rfl, h⟩
    · rintro ⟨_, _, ⟨⟩, h⟩
      exact h

/-- A sequence fails when its first part does, or its second part on what the first one left. -/
theorem on_bind_eq_error {a : Action σ α} {f : α → Action σ β} {s u : σ} {e : Failure} :
    (a >>= f).on s = (.error e, u) ↔
      a.on s = (.error e, u) ∨ ∃ x t, a.on s = (.ok x, t) ∧ (f x).on t = (.error e, u) := by
  rw [on_bind]
  rcases a.on s with ⟨e | x, t⟩
  · simp
  · constructor
    · intro h
      exact .inr ⟨x, t, rfl, h⟩
    · rintro (h | ⟨_, _, ⟨⟩, h⟩)
      · simp at h
      · exact h

/-- An answer that is only rewritten. -/
theorem on_map (f : α → β) (a : Action σ α) (s : σ) :
    (f <$> a).on s = ((a.on s).1.map f, (a.on s).2) := by
  rw [map_eq_pure_bind, on_bind]
  rcases a.on s with ⟨_ | x, t⟩ <;> rfl

theorem on_map_eq_ok {f : α → β} {a : Action σ α} {s t : σ} {y : β} :
    (f <$> a).on s = (.ok y, t) ↔ ∃ x, a.on s = (.ok x, t) ∧ f x = y := by
  rw [on_map]
  rcases a.on s with ⟨e | x, u⟩
  · simp [Except.map]
  · constructor
    · intro h
      cases h
      exact ⟨x, rfl, rfl⟩
    · rintro ⟨_, ⟨⟩, rfl⟩
      rfl

/-- The failure that an outcome is, if it is one. -/
def failure? : Except Failure α → Option Failure
  | .ok _ => none
  | .error f => some f

theorem failure?_eq_some {r : Except Failure α} {f : Failure} :
    failure? r = some f ↔ r = .error f := by
  cases r <;> simp [failure?]

/-- Whether an action fails, and how, can be seen without comparing what it would answer. -/
theorem on_eq_error {a : Action σ α} {s : σ} {f : Failure}
    (h : failure? (a.on s).1 = some f) : a.on s = (.error f, (a.on s).2) :=
  Prod.ext (failure?_eq_some.1 h) rfl

theorem toOption_eq_some {r : Except Failure α} {x : α} : r.toOption = some x ↔ r = .ok x := by
  cases r <;> simp [Except.toOption]

/-- So can the answer of an action that succeeds. -/
theorem on_eq_ok {a : Action σ α} {s : σ} {x : α} (h : (a.on s).1.toOption = some x) :
    a.on s = (.ok x, (a.on s).2) :=
  Prod.ext (toOption_eq_some.1 h) rfl

/-- That it succeeds can be seen without knowing what it answers. -/
theorem exists_on_eq_ok {a : Action σ α} {s : σ} (h : (a.on s).1.toBool = true) :
    ∃ x, a.on s = (.ok x, (a.on s).2) := by
  cases hr : (a.on s).1 with
  | error f => simp [hr, Except.toBool] at h
  | ok x => exact ⟨x, Prod.ext hr rfl⟩

/-- Whatever its outcome, the action leads from a state to one that is related to it. -/
def Within (R : σ → σ → Prop) (a : Action σ α) : Prop := ∀ s, R s (a.on s).2

section Within

variable {R : σ → σ → Prop}

theorem within_bind [IsTrans σ R] {a : Action σ α} {f : α → Action σ β} (ha : a.Within R)
    (hf : ∀ x, (f x).Within R) : (a >>= f).Within R := by
  intro s
  rw [on_bind]
  rcases h : a.on s with ⟨e | x, t⟩
  · simpa [h] using ha s
  · exact trans_of R (by simpa [h] using ha s) (hf x t)

theorem within_map (f : α → β) {a : Action σ α} (ha : a.Within R) : (f <$> a).Within R := by
  intro s
  rw [on_map]
  exact ha s

theorem within_outcome {a : Action σ α} (ha : a.Within R) : a.outcome.Within R := ha

theorem within_lift [Std.Refl R] (r : Except Failure α) : (lift r).Within R := refl_of R

theorem within_pure [Std.Refl R] (x : α) : (pure x : Action σ α).Within R := refl_of R

theorem within_read [Std.Refl R] (f : σ → α) : (read f).Within R := refl_of R

end Within

end Action

end CurrencyLedger
