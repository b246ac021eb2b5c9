import CurrencyLedger.Power
import CurrencyLedger.Text.Numeral

/-!
Binary numbers of double precision.

A finite one is a natural mantissa times a power of two. The mantissa has at most 53 bits and the
power is at least -1074; `ofRatio` is the rounding of an exact ratio to the nearest such number, of
two equally near ones to the even mantissa. All numbers here come from it, so equal values have
equal representations, the two zeros apart.
-/

namespace CurrencyLedger

/-- A double-precision number. -/
inductive Binary64 where
  | finite (negative : Bool) (mantissa : Nat) (exponent : Int)
  | infinite (negative : Bool)
  | nan
  deriving DecidableEq, Repr, Inhabited

namespace Binary64

/-- The bits of a mantissa. -/
def mantissaBits : Nat := 53

/-- The least power of two of a mantissa. -/
def minExponent : Int := -1074

/-- The largest power of two of a mantissa. -/
def maxExponent : Int := 971

/-- The quotient `n / d` rounded to the nearest natural number, a half to the even one. -/
def nearestEven (n d : Nat) : Nat :=
  let q := n / d
  let r := n % d
  if d < 2 * r || (2 * r == d && q % 2 == 1) then q + 1 else q

/-- The power of two of the first bit of `n / d`, for `n` and `d` positive. -/
def ratioMagnitude (n d : Nat) : Int :=
  let k : Int := (n.log2 : Int) - d.log2
  if d * twoTo k.toNat ≤ n * twoTo (-k).toNat then k else k - 1

/-- The nearest double to `n / d`. -/
def ofRatio (negative : Bool) (n d : Nat) : Binary64 :=
  if n = 0 then .finite negative 0 0
  else
    let e := max (ratioMagnitude n d - (mantissaBits - 1)) minExponent
    let m := nearestEven (n * twoTo (-e).toNat) (d * twoTo e.toNat)
    let (m, e) := if m = twoTo mantissaBits then (twoTo (mantissaBits - 1), e + 1) else (m, e)
    if maxExponent < e then .infinite negative else .finite negative m e

/-- Decimal magnitudes past these powers of ten are infinite and zero. -/
def largeDecimal : Int := 400

/-- The nearest double to a coefficient times a power of ten. -/
def ofScientific (negative : Bool) (c : Nat) (e : Int) : Binary64 :=
  let first := e + (Nat.toDigits 10 c).length
  if c = 0 then .finite negative 0 0
  else if largeDecimal < first then .infinite negative
  else if first < -largeDecimal then .finite negative 0 0
  else ofRatio negative (c * tenTo e.toNat) (tenTo (-e).toNat)

/-- The nearest double to an integer. -/
def ofInt (n : Int) : Binary64 := ofRatio (decide (n < 0)) n.natAbs 1

/-- The magnitude of a finite double as a ratio. -/
def ratio (mantissa : Nat) (exponent : Int) : Nat × Nat :=
  (mantissa * twoTo exponent.toNat, twoTo (-exponent).toNat)

/-- The rational number that a finite double stands for. -/
def toRat? : Binary64 → Option Rat
  | .finite s m e =>
    let (n, d) := ratio m e
    some (mkRat (if s then -(n : Int) else n) d)
  | _ => none

/-- Zero of either sign. -/
def isZero : Binary64 → Bool
  | .finite _ 0 _ => true
  | _ => false

/-- Whether a finite double is a whole number. -/
def isWhole : Binary64 → Bool
  | .finite _ m e => let (n, d) := ratio m e; n % d == 0
  | _ => false

/-- The integer part of a finite double, toward zero. -/
def truncate (negative : Bool) (mantissa : Nat) (exponent : Int) : Int :=
  let (n, d) := ratio mantissa exponent
  Text.signed negative (n / d)

/-- The product of a double with a natural number, rounded once. -/
def mulNat : Binary64 → Nat → Binary64
  | .finite s m e, k => let (n, d) := ratio m e; ofRatio s (n * k) d
  | x, _ => x

end Binary64

end CurrencyLedger
