import CurrencyLedger.Binary64.Arithmetic
import CurrencyLedger.Decimal.Arithmetic
import CurrencyLedger.Failure
import CurrencyLedger.Value.Basic

/-!
Scales of time.

Moments and spans are numbers of seconds. On which numbers a clock counts is left open: doubles,
where a sum is rounded, or rationals, where it is exact. What is said of expiry holds on any scale;
the laws of arithmetic hold on the exact one.
-/

namespace CurrencyLedger

/-- Numbers of seconds: sums, two comparisons, and the numbers that others stand for. -/
class TimeScale (τ : Type) where
  zero : τ
  add : τ → τ → τ
  isLess : τ → τ → Bool
  atMost : τ → τ → Bool
  ofInt : Int → Except Failure τ
  ofBinary64 : Binary64 → Except Failure τ

namespace TimeScale

/-- The exact scale; it has neither infinite spans nor numbers that are none. -/
instance : TimeScale Rat where
  zero := 0
  add a b := a + b
  isLess a b := a < b
  atMost a b := a ≤ b
  ofInt n := .ok n
  ofBinary64 x := match x.toRat? with
    | some r => .ok r
    | none => .error .badKind

/-- The rounded scale; integers beyond it do not fit. -/
instance : TimeScale Binary64 where
  zero := .finite false 0 0
  add := Binary64.add
  isLess := Binary64.isLess
  atMost := Binary64.atMost
  ofInt n := Binary64.ofInt? n |>.elim (.error .integerOverflow) .ok
  ofBinary64 := .ok

/--
A lifetime in seconds. What is not above zero counts as zero, whatever its kind; above it, a decimal
is of the wrong kind for a clock.
-/
def lifetime [TimeScale τ] (v : Value) : Except Failure τ :=
  match v with
  | .bool b => ofInt (if b then 1 else 0)
  | .int n => if n ≤ 0 then .ok zero else ofInt n
  | .float x => if x.atMost (.finite false 0 0) then .ok zero else ofBinary64 x
  | .decimal d => do
    if ← ofSignal d.atMostZero then return zero else .error .badKind
  | _ => .error .badKind

end TimeScale

end CurrencyLedger
