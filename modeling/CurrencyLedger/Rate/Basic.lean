import CurrencyLedger.Decimal.Arithmetic
import CurrencyLedger.Failure
import CurrencyLedger.Value.Basic

/-!
Exchange rates.

A rate is used at the full precision at which it was quoted: `Rate.normalize` only checks that it is
a finite number above zero. Rows record a rate as text with eight places, rounded half-up.
-/

namespace CurrencyLedger.Rate

/-- The refusal of a rate that cannot be used. -/
def unavailable : LedgerError := .plain .rateUnavailable

/-- A quoted value as a rate. -/
def normalize (v : Value) : Except LedgerError Decimal :=
  match v with
  | .null => .error unavailable
  | v => match Decimal.ofText? v.plain with
    | some d => if d.isPositive then .ok d else .error unavailable
    | none => .error unavailable

/-- The power of ten of the last place of a recorded rate. -/
def recordedPlace : Int := -8

/-- The text that rows record for a rate. -/
def format (v : Value) : Except Decimal.Signal String :=
  match Decimal.ofText? v.plain with
  | some d => do
    let rounded ← d.quantize .halfUp recordedPlace
    return rounded.positionalText
  | none => .error .invalidOperation

theorem isPositive_of_normalize {v : Value} {d : Decimal} (h : normalize v = .ok d) :
    d.isPositive = true := by
  unfold normalize at h
  split at h
  · cases h
  · split at h
    · split at h
      · cases h; assumption
      · cases h
    · cases h

end CurrencyLedger.Rate
