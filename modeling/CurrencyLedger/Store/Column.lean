import CurrencyLedger.Binary64.Text
import CurrencyLedger.Failure
import CurrencyLedger.Value.Basic

/-!
Columns.

A column holds integers or texts, but a statement may bring a value of another kind to it. An
integer column takes a truth value, a whole double and a text that writes an integer for that
integer; a text column takes a number by its text. What an integer column has no integer for it
keeps as it is. Lists, objects and decimals cannot be part of a statement at all, nor can integers
of more than 64 bits; a not-a-number is nothing to a column.
-/

namespace CurrencyLedger.Column

/-- The largest integer of 64 bits. -/
def maxInteger : Int := 9223372036854775807

/-- The least integer of 64 bits. -/
def minInteger : Int := -9223372036854775808

/-- Whether an integer has at most 64 bits. -/
def fits (n : Int) : Bool := minInteger ≤ n && n ≤ maxInteger

/-- Why a value cannot be part of a statement, if it cannot. -/
def refusal? : Value → Option Failure
  | .int n => if fits n then none else some .integerOverflow
  | .decimal _ => some .unbindable
  | .illFormed _ => some .unbindable
  | .list _ => some .unbindable
  | .object _ => some .unbindable
  | _ => none

/-- Whether a value is nothing to a column. -/
def isNothing : Value → Bool
  | .null => true
  | .float .nan => true
  | _ => false

/-- Whether a column that may not be empty keeps a value, of whatever kind. -/
def keeps (v : Value) : Bool := (refusal? v).isNone && !isNothing v

/-- The integer that a double is, if it is one of 64 bits. -/
def whole? (x : Binary64) : Option Int :=
  match x with
  | .finite s m e =>
    let n := Binary64.truncate s m e
    if x.isWhole && fits n then some n else none
  | _ => none

/-- A blank around a number in a text. -/
def isBlank (c : Char) : Bool := c == ' ' || (0x09 ≤ c.toNat && c.toNat ≤ 0x0D)

/-- The integer that a text writes: by its digits, or as a double that is whole. -/
def integerOfText? (s : String) : Option Int := do
  let (negative, body) := Text.splitSign (Text.trimBy isBlank s.toList)
  let (c, e) ← Text.readNumber? body
  let n := Text.signed negative c
  if body.all Char.isDigit && fits n then some n else whole? (Binary64.ofScientific negative c e)

/-- The integer that an integer column takes a value for. -/
def integer? : Value → Option Int
  | .int n => if fits n then some n else none
  | .bool b => some (if b then 1 else 0)
  | .float x => whole? x
  | .text s => integerOfText? s
  | _ => none

/-- The text of a double: fifteen significant digits, a point among them, and no negative zero. -/
def realText (x : Binary64) : String :=
  match x with
  | .infinite negative => if negative then "-Inf" else "Inf"
  | x => (if x.isZero then .finite false 0 0 else x).writeWith .pointed (Binary64.significant 15)

/-- The text that a text column takes a value for. -/
def text? (v : Value) : Option String :=
  match v with
  | .text s => some s
  | .int n => if fits n then some (Text.intText n) else none
  | .bool b => some (if b then "1" else "0")
  | .float x => if isNothing v then none else some (realText x)
  | _ => none

/-- The text that a column holds for a value: its own, or a standing one if none is given. -/
def givenTextOr (standing : String) (v : Value) : Except Failure String :=
  if !v.given then .ok standing
  else match refusal? v, text? v with
    | some f, _ => .error f
    | none, some s => .ok s
    | none, none => .error .integrity

/-- A text that is not empty is held as it is. -/
theorem givenTextOr_text {standing s : String} (h : s ≠ "") :
    givenTextOr standing (.text s) = .ok s := by
  simp [givenTextOr, Value.given, refusal?, text?, h]

end CurrencyLedger.Column
