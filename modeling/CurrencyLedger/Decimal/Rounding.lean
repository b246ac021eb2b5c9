import CurrencyLedger.Decimal.Basic

/-!
Rounding.

`divRound` rounds a quotient of natural numbers to a neighbouring one, and everything else rests on
it: dropping digits, fitting a quotient into the precision, and placing a result at a given power of
ten. `ofQuotient` is the one place where a result of arithmetic is rounded: it takes the exact
quotient and the exponent that the operation would like to have, and rounds once.
-/

namespace CurrencyLedger.Decimal

/-- Which neighbour a number between two goes to. -/
inductive Rounding where
  /-- The nearest, of two equally near the even one. -/
  | halfEven
  /-- The nearest, of two equally near the one farther from zero. -/
  | halfUp
  /-- The greater one. -/
  | ceiling
  deriving DecidableEq, Repr

/-- Whether the magnitude `q + r / d`, with `r < d`, goes up to `q + 1`. -/
def Rounding.goesUp (mode : Rounding) (negative : Bool) (q r d : Nat) : Bool :=
  match mode with
  | .halfEven => d < 2 * r || (2 * r == d && q % 2 == 1)
  | .halfUp => 0 < r && d ≤ 2 * r
  | .ceiling => 0 < r && !negative

/-- The magnitude `n / d` as a natural number. -/
def divRound (mode : Rounding) (negative : Bool) (n d : Nat) : Nat :=
  let q := n / d
  if mode.goesUp negative q (n % d) d then q + 1 else q

/--
A coefficient without its last `k` digits. More than one digit past the first changes nothing: the
coefficient is then less than half a unit of the place.
-/
def dropDigits (mode : Rounding) (negative : Bool) (c k : Nat) : Nat :=
  divRound mode negative c (tenTo (min k (digitCount c + 1)))

/-- The power of ten of the first digit of `n / d`, for `n` and `d` positive. -/
def quotientMagnitude (n d : Nat) : Int :=
  let k : Int := (digitCount n : Int) - digitCount d
  if d * tenTo k.toNat ≤ n * tenTo (-k).toNat then k else k - 1

/-- A zero, its exponent moved into the bounds. -/
def zeroAt (negative : Bool) (e : Int) : Decimal :=
  .finite negative 0 (max tinyExponent (min e maxExponent))

/--
A rounded coefficient at its exponent: one that rounded up to a power of ten gives a digit back, and
one past the largest exponent is refused.
-/
def settle (negative : Bool) (c : Nat) (e : Int) : Except Signal Decimal :=
  let (c, e) := if c = tenTo precision then (tenTo (precision - 1), e + 1) else (c, e)
  if maxExponent < e + digitCount c - 1 then .error .overflow
  else .ok (.finite negative c e)

/-- Drops trailing zeros of a coefficient while its exponent is below `ideal`. -/
def stripZeros (ideal : Int) (c : Nat) (e : Int) : Nat → Nat × Int
  | 0 => (c, e)
  | fuel + 1 =>
    if e < ideal ∧ c % 10 = 0 then stripZeros ideal (c / 10) (e + 1) fuel else (c, e)

/--
The quotient `n / d` times a power of ten, as a result of arithmetic. It is exact if it fits the
precision, with the exponent as near to `ideal` as that allows, and otherwise rounded to the
precision, half to even; digits below the least exponent are rounded away as well.
-/
def ofQuotient (negative : Bool) (n d : Nat) (ideal : Int) : Except Signal Decimal :=
  if n = 0 then .ok (zeroAt negative ideal)
  else
    let first := ideal + quotientMagnitude n d
    let last := max (first - (precision - 1)) tinyExponent
    if last ≤ ideal then
      if n % d = 0 then settle negative (n / d) ideal
      else
        let m := n * tenTo (ideal - last).toNat
        if m % d = 0 then
          let (c, e) := stripZeros ideal (m / d) last precision
          settle negative c e
        else settle negative (divRound .halfEven negative m d) last
    else if first + 1 < last then settle negative 0 last
    else settle negative (divRound .halfEven negative n (d * tenTo (last - ideal).toNat)) last

end CurrencyLedger.Decimal
