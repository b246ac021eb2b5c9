import CurrencyLedger.Binary64.Basic

/-!
Sums and order of doubles.

A sum is the exact one, rounded once. Nothing is less than a not-a-number, nor is it less than
anything.
-/

namespace CurrencyLedger.Binary64

/-- A finite double as an integer in units of a power of two that is no larger than its own. -/
def inUnits (unit : Int) (negative : Bool) (m : Nat) (e : Int) : Int :=
  Text.signed negative (m * twoTo (e - unit).toNat)

/-- An integer in units of a power of two, rounded to a double. -/
def ofUnits (unit n : Int) : Binary64 :=
  ofRatio (decide (n < 0)) (n.natAbs * twoTo unit.toNat) (twoTo (-unit).toNat)

/-- The sum of two doubles; two zeros of one sign keep it. -/
def add : Binary64 → Binary64 → Binary64
  | .finite s m e, .finite t n f =>
    if m = 0 ∧ n = 0 then .finite (s && t) 0 0
    else
      let unit := min e f
      ofUnits unit (inUnits unit s m e + inUnits unit t n f)
  | .nan, _ => .nan
  | _, .nan => .nan
  | .infinite s, .infinite t => if s = t then .infinite s else .nan
  | .infinite s, _ => .infinite s
  | _, .infinite t => .infinite t

/-- The quotient of a double by a natural number above zero, rounded once. -/
def divNat : Binary64 → Nat → Binary64
  | .finite s m e, k => let (n, d) := ratio m e; ofRatio s n (d * k)
  | x, _ => x

/-- Whether a double is less than another. -/
def isLess : Binary64 → Binary64 → Bool
  | .nan, _ => false
  | _, .nan => false
  | .infinite s, .infinite t => s && !t
  | .infinite s, _ => s
  | _, .infinite t => !t
  | x, y => match x.toRat?, y.toRat? with
    | some a, some b => a < b
    | _, _ => false

/-- Whether a double is at most another. -/
def atMost (x y : Binary64) : Bool := x != .nan && y != .nan && !isLess y x

/-- The nearest double to an integer, if it is finite. -/
def ofInt? (n : Int) : Option Binary64 :=
  match ofInt n with
  | .infinite _ => none
  | x => some x

end CurrencyLedger.Binary64
