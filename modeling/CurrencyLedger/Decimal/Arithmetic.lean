import CurrencyLedger.Decimal.Rounding

/-!
Products, quotients, places and whole numbers.

Each operation first sets aside the not-a-numbers and infinities, then computes exactly on
coefficients and rounds once. A signaling not-a-number is refused by every operation; a quiet one
is the result of every operation that it enters, its payload cut to the precision.
-/

namespace CurrencyLedger.Decimal

/-- A quiet not-a-number as a result. -/
def quietNaN (negative : Bool) (payload : Nat) : Decimal :=
  .nan negative false (payload % tenTo precision)

/-- The answer that not-a-numbers among the operands force, if there are any. -/
def nanResult? : Decimal → Decimal → Option (Except Signal Decimal)
  | .nan _ true _, _ => some (.error .invalidOperation)
  | _, .nan _ true _ => some (.error .invalidOperation)
  | .nan s false p, _ => some (.ok (quietNaN s p))
  | _, .nan s false p => some (.ok (quietNaN s p))
  | _, _ => none

/-- The product. -/
def mul (a b : Decimal) : Except Signal Decimal :=
  match nanResult? a b with
  | some r => r
  | none => match a, b with
    | .finite s c e, .finite t c₂ e₂ => ofQuotient (s != t) (c * c₂) 1 (e + e₂)
    | .infinite s, .infinite t => .ok (.infinite (s != t))
    | .infinite s, .finite t c _ =>
      if c = 0 then .error .invalidOperation else .ok (.infinite (s != t))
    | .finite s c _, .infinite t =>
      if c = 0 then .error .invalidOperation else .ok (.infinite (s != t))
    | _, _ => .error .invalidOperation

/-- The quotient. -/
def div (a b : Decimal) : Except Signal Decimal :=
  match nanResult? a b with
  | some r => r
  | none => match a, b with
    | .finite s c e, .finite t c₂ e₂ =>
      if c₂ = 0 then .error (if c = 0 then .invalidOperation else .divisionByZero)
      else ofQuotient (s != t) c c₂ (e - e₂)
    | .infinite _, .infinite _ => .error .invalidOperation
    | .infinite s, .finite t _ _ => .ok (.infinite (s != t))
    | .finite s _ _, .infinite t => .ok (.finite (s != t) 0 tinyExponent)
    | _, _ => .error .invalidOperation

/--
The decimal at the power of ten `place`, rounded by `mode`. A result of more digits than the
precision is refused, as is an infinity.
-/
def quantize (mode : Rounding) (place : Int) : Decimal → Except Signal Decimal
  | .finite s c e =>
    if c = 0 then .ok (zeroAt s place)
    else if place ≤ e then
      let k := (e - place).toNat
      if precision < digitCount c + k then .error .invalidOperation
      else .ok (.finite s (c * tenTo k) place)
    else
      let q := dropDigits mode s c (place - e).toNat
      if precision < digitCount q then .error .invalidOperation else .ok (.finite s q place)
  | .infinite _ => .error .invalidOperation
  | .nan _ true _ => .error .invalidOperation
  | .nan s false p => .ok (quietNaN s p)

/-- A whole-number decimal beside the given one; the precision does not matter here. -/
def toIntegral (mode : Rounding) : Decimal → Except Signal Decimal
  | .finite s c e =>
    if 0 ≤ e then .ok (.finite s c e)
    else if c = 0 then .ok (.finite s 0 0)
    else .ok (.finite s (dropDigits mode s c (-e).toNat) 0)
  | .infinite s => .ok (.infinite s)
  | .nan _ true _ => .error .invalidOperation
  | .nan s false p => .ok (quietNaN s p)

/-- The integer part of a finite decimal, toward zero. -/
def truncate (negative : Bool) (c : Nat) (e : Int) : Int :=
  let magnitude :=
    if 0 ≤ e then c * tenTo e.toNat else c / tenTo (min (-e).toNat (digitCount c + 1))
  if negative then -(magnitude : Int) else magnitude

end CurrencyLedger.Decimal
