import CurrencyLedger.Failure

/-!
Actions on a state.

An action reads and changes a state and ends with an answer or a failure. What it changed before it
failed stays changed: undoing it is the business of whoever called it.
-/

namespace CurrencyLedger

/-- A computation on a state that may fail; the state is kept on failure. -/
abbrev Action (σ : Type) (α : Type) := ExceptT Failure (StateM σ) α

namespace Action

/-- The outcome of an action from a state, and the state after it. -/
def on (a : Action σ α) (s : σ) : Except Failure α × σ := a.run s

/-- The action that computes an outcome and a state. -/
def of (f : σ → Except Failure α × σ) : Action σ α := ExceptT.mk f

/-- A computation that needs no state. -/
def lift (r : Except Failure α) : Action σ α := of fun s => (r, s)

/-- A check of the ledger. -/
def check (r : Except LedgerError α) : Action σ α := lift (ofLedger r)

/-- Decimal arithmetic. -/
def compute (r : Except Decimal.Signal α) : Action σ α := lift (ofSignal r)

/-- A failure. -/
def fail (f : Failure) : Action σ α := lift (.error f)

/-- A refusal with nothing more to say than its kind. -/
def refuse (kind : LedgerError.Kind) : Action σ α := fail (.refusal kind)

/-- A value read off the state. -/
def read (f : σ → α) : Action σ α := of fun s => (.ok (f s), s)

/-- A change of the state. -/
def update (f : σ → σ) : Action σ Unit := of fun s => (.ok (), f s)

/-- The outcome of an action as its answer. -/
def outcome (a : Action σ α) : Action σ (Except Failure α) := of fun s =>
  let (r, t) := a.on s
  (.ok r, t)

@[simp] theorem on_of (f : σ → Except Failure α × σ) (s : σ) : (of f).on s = f s := rfl

@[simp] theorem on_pure (a : α) (s : σ) : (pure a : Action σ α).on s = (.ok a, s) := rfl

@[simp] theorem on_lift (r : Except Failure α) (s : σ) : (lift r : Action σ α).on s = (r, s) := rfl

@[simp] theorem on_read (f : σ → α) (s : σ) : (read f).on s = (.ok (f s), s) := rfl

@[simp] theorem on_update (f : σ → σ) (s : σ) : (update f).on s = (.ok (), f s) := rfl

@[simp] theorem on_fail (f : Failure) (s : σ) : (fail f : Action σ α).on s = (.error f, s) := rfl

/-- A sequence runs its second part on what the first one left, if the first one did not fail. -/
theorem on_bind (a : Action σ α) (f : α → Action σ β) (s : σ) :
    (a >>= f).on s = match a.on s with
      | (.ok x, t) => (f x).on t
      | (.error e, t) => (.error e, t) := by
  show (ExceptT.bind a f).run s = _
  simp only [ExceptT.bind, ExceptT.run, ExceptT.mk, bind, StateT.bind, on]
  rcases h : (a s : Except Failure α × σ) with ⟨r, t⟩
  cases r <;> rfl

end Action

end CurrencyLedger
