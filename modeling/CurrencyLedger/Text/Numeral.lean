import CurrencyLedger.Text.Blank

/-!
Decimal digits and numerals.

A decimal digit of any script counts as the digit it stands for; every script keeps its ten digits
together, so a digit is known by the code point of its script's zero. On top of that stand the two
written forms that the rest of the library reads: an integer literal, and an unsigned number with
an optional fraction and exponent.
-/

namespace CurrencyLedger.Text

/-- The code points of the digit zero in the scripts that have decimal digits, ascending. -/
def digitZeros : List Nat :=
  [0x0030, 0x0660, 0x06F0, 0x07C0, 0x0966, 0x09E6, 0x0A66, 0x0AE6, 0x0B66, 0x0BE6, 0x0C66,
   0x0CE6, 0x0D66, 0x0DE6, 0x0E50, 0x0ED0, 0x0F20, 0x1040, 0x1090, 0x17E0, 0x1810, 0x1946,
   0x19D0, 0x1A80, 0x1A90, 0x1B50, 0x1BB0, 0x1C40, 0x1C50, 0xA620, 0xA8D0, 0xA900, 0xA9D0,
   0xA9F0, 0xAA50, 0xABF0, 0xFF10, 0x104A0, 0x10D30, 0x11066, 0x110F0, 0x11136, 0x111D0,
   0x112F0, 0x11450, 0x114D0, 0x11650, 0x116C0, 0x11730, 0x118E0, 0x11950, 0x11C50, 0x11D50,
   0x11DA0, 0x16A60, 0x16AC0, 0x16B50, 0x1D7CE, 0x1D7D8, 0x1D7E2, 0x1D7EC, 0x1D7F6, 0x1E140,
   0x1E2F0, 0x1E950, 0x1FBF0]

/-- The value of a decimal digit of any script. -/
def digitValue? (c : Char) : Option Nat :=
  (digitZeros.find? fun z => z ≤ c.toNat && c.toNat < z + 10).map (c.toNat - ·)

/-- The value of an ASCII digit. -/
def asciiDigit? (c : Char) : Option Nat :=
  if c.isDigit then some (c.toNat - 48) else none

/-- The value of a hexadecimal digit. -/
def hexDigit? (c : Char) : Option Nat :=
  if c.isDigit then some (c.toNat - 48)
  else if 'a' ≤ c ∧ c ≤ 'f' then some (c.toNat - 87)
  else if 'A' ≤ c ∧ c ≤ 'F' then some (c.toNat - 55)
  else none

/-- The ASCII digit of a value below ten. -/
def digitChar (d : Nat) : Char := Char.ofNat (48 + d)

/-- The number that a list of digit values spells, the most significant first. -/
def ofDigits (ds : List Nat) : Nat := ds.foldl (fun n d => 10 * n + d) 0

/-- Writes every decimal digit as its ASCII digit; other characters stay. -/
def asciiDigits (cs : List Char) : List Char :=
  cs.map fun c => match digitValue? c with
    | some d => digitChar d
    | none => c

/-- An optional sign at the front: whether it was a minus, and what follows it. -/
def splitSign : List Char → Bool × List Char
  | '-' :: cs => (true, cs)
  | '+' :: cs => (false, cs)
  | cs => (false, cs)

/-- The digit run at the front, as digit values, and what follows it. -/
def spanDigits (cs : List Char) : List Nat × List Char :=
  ((cs.takeWhile Char.isDigit).map (fun c => c.toNat - 48), cs.dropWhile Char.isDigit)

/-- Whether every underscore stands between two digits. -/
def underscoresBetweenDigits : List Char → Bool
  | [] => true
  | '_' :: _ => false
  | c :: '_' :: d :: cs => c.isDigit && d.isDigit && underscoresBetweenDigits (d :: cs)
  | [_, '_'] => false
  | _ :: cs => underscoresBetweenDigits cs

/-- Drops every underscore. -/
def dropUnderscores (cs : List Char) : List Char := cs.filter (· != '_')

/-- The exponent part of a number: nothing, or `e` with a signed run of digits to the end. -/
def readExponent? : List Char → Option Int
  | [] => some 0
  | c :: cs =>
    if c == 'e' || c == 'E' then
      let (negative, ds) := splitSign cs
      let (digits, rest) := spanDigits ds
      if digits.isEmpty || !rest.isEmpty then none
      else some (if negative then -(ofDigits digits : Int) else ofDigits digits)
    else none

/--
An unsigned number in ASCII digits: digits with an optional point among or around them, then an
optional exponent. The answer is a coefficient and a power of ten, nothing rounded.
-/
def readNumber? (cs : List Char) : Option (Nat × Int) := do
  let (whole, rest) := spanDigits cs
  let (fraction, rest) := match rest with
    | '.' :: r => spanDigits r
    | r => ([], r)
  if whole.isEmpty && fraction.isEmpty then none
  else
    let e ← readExponent? rest
    some (ofDigits (whole ++ fraction), e - fraction.length)

/-- Why a text is no integer literal. -/
inductive IntegerFault where
  | malformed
  | tooLong (digits : Nat)
  deriving DecidableEq, Repr

/-- Integer literals of more digits than this are refused. -/
def maxIntegerDigits : Nat := 4300

/-- An integer from a sign and a magnitude. -/
def signed (negative : Bool) (n : Nat) : Int := if negative then -(n : Int) else n

/--
An integer literal: white space around it, an optional sign, digits of any script, and single
underscores between digits. Too many digits are refused before what may follow them is looked at.
-/
def readInteger (s : String) : Except IntegerFault Int :=
  let (negative, body) := splitSign (asciiDigits (trimBy isWhiteSpace s.toList))
  let run := body.takeWhile fun c => c.isDigit || c == '_'
  let digits := dropUnderscores run
  if digits.isEmpty || !underscoresBetweenDigits run then .error .malformed
  else if maxIntegerDigits < digits.length then .error (.tooLong digits.length)
  else if run.length < body.length then .error .malformed
  else .ok (signed negative (ofDigits (spanDigits digits).1))

/-- The ASCII digits of a natural number. -/
def natText (n : Nat) : String := String.ofList (Nat.toDigits 10 n)

/-- An integer in ASCII digits, a minus in front of a negative one. -/
def intText (n : Int) : String :=
  if n < 0 then "-" ++ natText n.natAbs else natText n.natAbs

/-- What is said of an integer literal of too many digits. -/
def tooManyDigits (digits : Nat) : String :=
  "Exceeds the limit (" ++ natText maxIntegerDigits
    ++ " digits) for integer string conversion: value has " ++ natText digits
    ++ " digits; use sys.set_int_max_str_digits() to increase the limit"

/-- A natural number in ASCII digits, zeros in front up to a width. -/
def paddedNat (width n : Nat) : String :=
  let ds := Nat.toDigits 10 n
  String.ofList (List.replicate (width - ds.length) '0' ++ ds)

end CurrencyLedger.Text
