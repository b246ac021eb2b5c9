import CurrencyLedger.Power

/-!
Decimal numbers.

A decimal is a sign, a natural coefficient and a power of ten, so that `1.50` and `1.5` are two
decimals of one value; besides these there are the infinities and the not-a-numbers, quiet and
signaling, with a diagnostic payload. Results of arithmetic carry at most `precision` digits and an
exponent within fixed bounds; a decimal read from text is kept exactly as written.
-/

namespace CurrencyLedger

/-- A decimal number, an infinity, or a not-a-number. -/
inductive Decimal where
  | finite (negative : Bool) (coefficient : Nat) (exponent : Int)
  | infinite (negative : Bool)
  | nan (negative signaling : Bool) (payload : Nat)
  deriving DecidableEq, Repr, Inhabited

namespace Decimal

/-- What decimal arithmetic refuses to answer. -/
inductive Signal where
  | invalidOperation
  | divisionByZero
  | overflow
  deriving DecidableEq, Repr

/-- Results of arithmetic have at most this many digits. -/
def precision : Nat := 28

/-- The largest power of ten of a result's first digit. -/
def maxExponent : Int := 999999

/-- The least power of ten of a full-precision result's first digit. -/
def minExponent : Int := -999999

/-- The least power of ten of any digit of a result. -/
def tinyExponent : Int := minExponent - (precision - 1)

/-- The number of decimal digits of a natural number; zero has one. -/
def digitCount (n : Nat) : Nat :=
  if n < 10 then 1 else digitCount (n / 10) + 1
  termination_by n

/-- An integer, exactly. -/
def ofInt (n : Int) : Decimal := .finite (decide (n < 0)) n.natAbs 0

/-- A natural number times a power of ten. -/
def scaled (coefficient : Nat) (exponent : Int) : Decimal := .finite false coefficient exponent

/-- One. -/
def one : Decimal := scaled 1 0

/-- The rational number that a finite decimal stands for. -/
def toRat? : Decimal → Option Rat
  | .finite negative c e =>
    let magnitude : Rat := if 0 ≤ e then (c * tenTo e.toNat : Nat) else mkRat c (tenTo (-e).toNat)
    some (if negative then -magnitude else magnitude)
  | _ => none

/-- Neither infinite nor a not-a-number. -/
def isFinite : Decimal → Bool
  | .finite .. => true
  | _ => false

/-- Zero of either sign. -/
def isZero : Decimal → Bool
  | .finite _ 0 _ => true
  | _ => false

/-- Finite and greater than zero. -/
def isPositive : Decimal → Bool
  | .finite false c _ => 0 < c
  | _ => false

/--
Whether a decimal is at most zero. Every comparison by size with a not-a-number is refused.
-/
def atMostZero : Decimal → Except Signal Bool
  | .finite negative c _ => .ok (negative || c == 0)
  | .infinite negative => .ok negative
  | .nan .. => .error .invalidOperation

theorem isPositive_iff {d : Decimal} :
    d.isPositive = true ↔ ∃ c e, 0 < c ∧ d = .finite false c e := by
  match d with
  | .finite false c e => simp [isPositive]
  | .finite true c e => simp [isPositive]
  | .infinite _ => simp [isPositive]
  | .nan .. => simp [isPositive]

end Decimal

end CurrencyLedger
