import CurrencyLedger.Failure
import CurrencyLedger.Value.Basic

/-!
Spans of time.

A span counts microseconds. One that is given in larger units, as a double, is rounded to the
nearest microsecond, a half to the even one.
-/

namespace CurrencyLedger.Span

/-- Microseconds in a second. -/
def second : Nat := 1000000

/-- Microseconds in a minute. -/
def minute : Nat := 60 * second

/-- A finite double of units as microseconds: the whole units exactly, the fraction rounded. -/
def ofFinite (unit : Nat) (negative : Bool) (mantissa : Nat) (exponent : Int) : Int :=
  let (n, d) := Binary64.ratio mantissa exponent
  let fraction := (Binary64.ofRatio negative (n % d) d).mulNat unit
  let rest : Nat := match fraction with
    | .finite _ m e => let (n, d) := Binary64.ratio m e; Binary64.nearestEven n d
    | _ => 0
  Text.signed negative (n / d * unit + rest)

/-- So many units as microseconds. -/
def ofValue (unit : Nat) : Value → Except Failure Int
  | .bool b => .ok (if b then unit else 0)
  | .int n => .ok (n * unit)
  | .float (.finite s m e) => .ok (ofFinite unit s m e)
  | .float (.infinite _) => .error .integerOverflow
  | .float .nan => .error (.badValue "cannot convert float NaN to integer")
  | _ => .error .badKind

end CurrencyLedger.Span
