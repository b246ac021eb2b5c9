import CurrencyLedger.Decimal.Arithmetic
import CurrencyLedger.Failure
import CurrencyLedger.Value.Basic

/-!
Amounts.

An amount is a positive whole number of the smallest unit of a currency. Conversion by a rate is
done on the major unit, a hundred of the smallest: the product is rounded half-up to two places,
which is the one rounding that reaches an amount. The amount to spend for a wanted amount is the
quotient by the rate rounded up.
-/

namespace CurrencyLedger.Amount

/-- A value as an amount: an integer above zero, and no truth value in its place. -/
def ofValue : Value → Except LedgerError Nat
  | .int n => if 0 < n then .ok n.toNat else .error (.plain .invalidAmount)
  | _ => .error (.plain .invalidAmount)

/-- Smallest units in a major unit. -/
def minorUnits : Decimal := .scaled 100 0

/-- The power of ten of the smallest unit. -/
def minorPlace : Int := -2

/-- The integer part of a decimal; a not-a-number and an infinity have none. -/
def wholePart : Decimal → Except Failure Int
  | .finite s c e => .ok (Decimal.truncate s c e)
  | .infinite _ => .error .integerOverflow
  | .nan .. => .error (.badValue "cannot convert NaN to integer")

/-- Smallest units as major units. -/
def toMajor (n : Int) : Except Decimal.Signal Decimal := (Decimal.ofInt n).div minorUnits

/-- Major units as smallest units, rounded half-up. -/
def toMinor (d : Decimal) : Except Failure Int := do
  let rounded ← ofSignal (d.quantize .halfUp minorPlace)
  let units ← ofSignal (rounded.mul minorUnits)
  wholePart units

/-- An amount at a rate, in smallest units. -/
def convert (n : Int) (rate : Decimal) : Except Failure Int := do
  let major ← ofSignal (toMajor n)
  let product ← ofSignal (major.mul rate)
  toMinor product

/-- The whole amount that at a rate covers a wanted one: their quotient, rounded up. -/
def cover (n : Int) (rate : Decimal) : Except Failure Int := do
  let quotient ← ofSignal ((Decimal.ofInt n).div rate)
  let whole ← ofSignal (quotient.toIntegral .ceiling)
  wholePart whole

theorem pos_of_ofValue {v : Value} {n : Nat} (h : ofValue v = .ok n) : 0 < n := by
  unfold ofValue at h
  split at h
  · split at h
    · cases h; omega
    · cases h
  · cases h

end CurrencyLedger.Amount
