import CurrencyLedger.Decimal.Basic
import CurrencyLedger.Text.Numeral

/-!
Reading and writing decimals.

Reading keeps a decimal exactly: sign, coefficient with its leading zeros dropped, and exponent.
The written form is scientific: positional while the exponent is not positive and the first digit
stands no lower than the sixth place after the point, with a power of ten otherwise. Reading a
written decimal gives it back.
-/

namespace CurrencyLedger.Decimal

open CurrencyLedger.Text

/-- The largest power of ten that the first digit of a written decimal may have. -/
def maxWrittenExponent : Int := 999999999999999999

/-- The least power of ten that a digit of a written decimal may have. -/
def minWrittenExponent : Int := -1999999999999999997

/-- Whether a coefficient and an exponent can be held exactly. -/
def representable (c : Nat) (e : Int) : Bool :=
  minWrittenExponent ≤ e && e + digitCount c - 1 ≤ maxWrittenExponent

/-- A not-a-number's payload: nothing but digits. -/
def readPayload? (cs : List Char) : Option Nat :=
  if cs.all Char.isDigit then some (ofDigits (spanDigits cs).1) else none

/-- The words for the special values, in any case. -/
def readSpecial? (negative : Bool) (cs : List Char) : Option Decimal :=
  match cs.map Char.toLower with
  | 'n' :: 'a' :: 'n' :: digits => (readPayload? digits).map (.nan negative false)
  | 's' :: 'n' :: 'a' :: 'n' :: digits => (readPayload? digits).map (.nan negative true)
  | ['i', 'n', 'f'] => some (.infinite negative)
  | ['i', 'n', 'f', 'i', 'n', 'i', 't', 'y'] => some (.infinite negative)
  | _ => none

/-- A number after its sign. -/
def readFinite? (negative : Bool) (cs : List Char) : Option Decimal :=
  match readNumber? cs with
  | some (c, e) => if representable c e then some (.finite negative c e) else none
  | none => none

/--
A decimal in written form: blanks around it are dropped, underscores anywhere are ignored, and
digits of any script count.
-/
def ofText? (s : String) : Option Decimal :=
  let cs := asciiDigits (dropUnderscores (trimBy isBlank s.toList))
  let (negative, body) := splitSign cs
  match readSpecial? negative body with
  | some d => some d
  | none => readFinite? negative body

/-- An exponent with its sign. -/
def exponentText (e : Int) : List Char :=
  'E' :: (if e < 0 then '-' else '+') :: Nat.toDigits 10 e.natAbs

/-- Digits with a point before the last `places` of them, zeros put in front where they lack. -/
def pointed (ds : List Char) (places : Nat) : List Char :=
  if places = 0 then ds
  else
    let ds := List.replicate (places + 1 - ds.length) '0' ++ ds
    ds.take (ds.length - places) ++ '.' :: ds.drop (ds.length - places)

/-- The scientific form of a coefficient at an exponent. -/
def finiteText (c : Nat) (e : Int) : List Char :=
  let ds := Nat.toDigits 10 c
  let first := e + ds.length - 1
  if e ≤ 0 ∧ -6 ≤ first then pointed ds (-e).toNat
  else match ds with
    | d :: r :: rest => d :: '.' :: r :: rest ++ exponentText first
    | ds => ds ++ exponentText first

/-- The sign in front of a negative number. -/
def signText (negative : Bool) : List Char := if negative then ['-'] else []

/-- The written form of a special value. -/
def specialText : Decimal → List Char
  | .infinite _ => "Infinity".toList
  | .nan _ signaling payload =>
    (if signaling then "sNaN" else "NaN").toList
      ++ if payload = 0 then [] else Nat.toDigits 10 payload
  | .finite .. => []

/-- The written form. -/
def text : Decimal → String
  | .finite s c e => String.ofList (signText s ++ finiteText c e)
  | .infinite s => String.ofList (signText s ++ specialText (.infinite s))
  | .nan s g p => String.ofList (signText s ++ specialText (.nan s g p))

/-- The positional form, never with a power of ten. -/
def positionalText : Decimal → String
  | .finite s c e =>
    String.ofList
      (signText s ++ pointed (Nat.toDigits 10 c ++ List.replicate e.toNat '0') (-e).toNat)
  | d => d.text

end CurrencyLedger.Decimal
