import CurrencyLedger.Decimal.Arithmetic
import CurrencyLedger.Failure
import CurrencyLedger.Value.Basic

/-!
Values as integers.

A page number or a moment in a token may come as any kind of value. A truth value counts as one or
zero, a fraction is cut off, a text has to be an integer literal; what has no integer in it is
refused according to its kind.
-/

namespace CurrencyLedger.Value

/-- The most characters that a refusal shows of a text. -/
def shownLength : Nat := 200

/-- The refusal of a text that is no integer literal; a long one is shown in part. -/
def noInteger (v : Value) : Failure :=
  .badValue ("invalid literal for int() with base 10: "
    ++ String.ofList (v.quoted.toList.take shownLength))

/-- The integer that a value stands for, a fraction cut off. -/
def toInteger (v : Value) : Except Failure Int :=
  match v with
  | .bool b => .ok (if b then 1 else 0)
  | .int n => .ok n
  | .float (.finite s m e) => .ok (Binary64.truncate s m e)
  | .float (.infinite _) => .error .integerOverflow
  | .float .nan => .error (.badValue "cannot convert float NaN to integer")
  | .decimal (.finite s c e) => .ok (Decimal.truncate s c e)
  | .decimal (.infinite _) => .error .integerOverflow
  | .decimal (.nan ..) => .error (.badValue "cannot convert NaN to integer")
  | .text s => match Text.readInteger s with
    | .ok n => .ok n
    | .error .malformed => .error (noInteger v)
    | .error (.tooLong digits) => .error (.badValue (Text.tooManyDigits digits))
  | .illFormed _ => .error (noInteger v)
  | _ => .error .badKind

end CurrencyLedger.Value
