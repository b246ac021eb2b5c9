import CurrencyLedger.Binary64.Text
import CurrencyLedger.Text.Split
import CurrencyLedger.Validation.Issue

/-!
Reading numbers and truth values leniently.

Requests and settings may write an integer in several ways: as a truth value, as a number without a
fraction, or as a text. A text may have blanks around it, a plus sign, zeros in front, single
underscores inside, and a fraction of nothing but zeros; an exponent it may not have.
-/

namespace CurrencyLedger.Validation

open CurrencyLedger.Text

/-- Integers written with more characters than this, sign included, are not read. -/
def maxIntegerText : Nat := 4300

/--
Drops zeros in front, and underscores among them; one zero stays if there is nothing else. A minus
may stand behind the zeros.
-/
def dropLeadingZeros? : List Char → Option (List Char)
  | '0' :: cs => go '0' cs
  | c :: cs => if c.isDigit then some (c :: cs) else none
  | [] => none
where
  /-- What follows a zero or an underscore. -/
  go (last : Char) : List Char → Option (List Char)
    | [] => some [last]
    | '.' :: cs => some (last :: '.' :: cs)
    | c :: cs =>
      if c == '0' || c == '_' then go c cs
      else if c.isDigit || c == '-' then some (c :: cs)
      else none

/-- Drops the zeros in front of a number and keeps its minus. -/
def dropZeros? : List Char → Option (List Char)
  | '-' :: cs => (dropLeadingZeros? cs).map ('-' :: ·)
  | cs => dropLeadingZeros? cs

/-- Drops a fraction of nothing but zeros, at least one; any other fraction is refused. -/
def dropZeroFraction? (cs : List Char) : Option (List Char) :=
  match cutList '.' cs with
  | (front, some fraction) =>
    if !fraction.isEmpty && fraction.all (· == '0') then some front else none
  | (front, none) => some front

/-- Whether two underscores stand side by side. -/
def doublesUnderscore : List Char → Bool
  | '_' :: '_' :: _ => true
  | _ :: cs => doublesUnderscore cs
  | [] => false

/-- Drops single underscores inside a number. -/
def dropInnerUnderscores? (cs : List Char) : Option (List Char) :=
  if cs.head? == some '_' || cs.getLast? == some '_' || doublesUnderscore cs then none
  else some (dropUnderscores cs)

/-- Digits without a zero in front, unless there is but one. -/
def readMagnitude? : List Char → Option Nat
  | [] => none
  | '0' :: _ :: _ => none
  | cs => if cs.all Char.isDigit then some (ofDigits (spanDigits cs).1) else none

/-- An optional minus and digits. -/
def readSigned? : List Char → Option Int
  | '-' :: cs => (readMagnitude? cs).map fun n : Nat => -(n : Int)
  | cs => (readMagnitude? cs).map fun n : Nat => (n : Int)

/-- Drops a plus sign that no minus follows. -/
def dropPlus? : List Char → Option (List Char)
  | '+' :: '-' :: _ => none
  | '+' :: cs => some cs
  | cs => some cs

/-- The plain form of an integer: a minus or none, and digits. -/
def plainInteger? (cs : List Char) : Option (List Char) := do
  let cs ← dropPlus? cs
  let cs ← dropZeros? cs
  let cs ← dropZeroFraction? cs
  dropInnerUnderscores? cs

/-- The integer that a text writes. -/
def readIntegerText (s : String) : Reading Int :=
  match plainInteger? (trimBy isWhiteSpace s.toList) with
  | some cs => match readSigned? cs with
    | some n => if maxIntegerText < cs.length then .error .oversizedInteger else .ok n
    | none => .error .unreadableInteger
  | none => .error .unreadableInteger

/-- Numbers without a fraction are read as integers below this size, two to the power 63. -/
def wholeSpan : Nat := 9223372036854775808

/-- The integer that a value stands for. -/
def readInteger : Value → Reading Int
  | .bool b => .ok (if b then 1 else 0)
  | .int n => .ok n
  | .float x => match x with
    | .finite s m e =>
      if x.isWhole then
        let n := Binary64.truncate s m e
        if n.natAbs < wholeSpan then .ok n else .error .oversizedInteger
      else .error .fractionalInteger
    | _ => .error .notFinite
  | .text s => readIntegerText s
  | .illFormed _ => .error .illFormedText
  | _ => .error .notAnInteger

/-- An integer above a bound. -/
def above (bound : Int) (n : Int) : Reading Int := if bound < n then .ok n else .error .notAbove

/-- An integer between two bounds, which are allowed. -/
def between (least most : Int) (n : Int) : Reading Int :=
  if n < least then .error .belowLeast
  else if most < n then .error .aboveMost
  else .ok n

/-- An integer of at least a bound. -/
def atLeast (least : Int) (n : Int) : Reading Int :=
  if n < least then .error .belowLeast else .ok n

/-- The words for truth. -/
def yesWords : List String := ["1", "on", "t", "true", "y", "yes"]

/-- The words for falsehood. -/
def noWords : List String := ["0", "off", "f", "false", "n", "no"]

/-- The truth value that a text writes, in any case. -/
def readTruthText (s : String) : Reading Bool :=
  let word := String.ofList (s.toList.map Char.toLower)
  if yesWords.contains word then .ok true
  else if noWords.contains word then .ok false
  else .error .unreadableTruth

/--
The double that a text writes. Blanks may stand around it, or underscores inside it, but not both.
-/
def readRealText (s : String) : Reading Binary64 :=
  match Binary64.readSigned? (trimBy isWhiteSpace s.toList) with
  | some x => .ok x
  | none => match (dropInnerUnderscores? s.toList).bind Binary64.readSigned? with
    | some x => .ok x
    | none => .error .unreadableNumber

end CurrencyLedger.Validation
