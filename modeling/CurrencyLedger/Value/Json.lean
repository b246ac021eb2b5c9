import CurrencyLedger.Failure
import CurrencyLedger.Fields
import CurrencyLedger.Text.Wide
import CurrencyLedger.Value.Basic

/-!
Reading JSON documents.

The reader takes the grammar of JSON with three words more, `NaN`, `Infinity` and `-Infinity`. A
number with a fraction or an exponent is a double, any other an exact integer. A name that an object
gives twice keeps its first place and its last value. Nothing may follow the document but blanks.
What makes a document unreadable is reported as it is met, from the front to the end.
-/

namespace CurrencyLedger.Json

open CurrencyLedger.Text

/-- Why a text is no document. -/
inductive Fault where
  /-- It breaks the grammar. -/
  | malformed
  /-- It has an integer of more digits than are read. -/
  | oversized (digits : Nat)
  /-- Its lists and objects are nested deeper than is followed. -/
  | tooDeep
  /-- Its bytes are no text. -/
  | undecodable
  deriving DecidableEq, Repr

/-- What a reader finds at the front of a text, and the rest. -/
abbrev Found (α : Type) := Except Fault (α × List Char)

/-- Drops the blanks that the grammar allows between its parts. -/
def skipBlanks (cs : List Char) : List Char :=
  cs.dropWhile fun c => c == ' ' || c == '\t' || c == '\n' || c == '\r'

/-- The number that four hexadecimal digits spell. -/
def hex4? (a b c d : Char) : Option Nat := do
  let a ← hexDigit? a
  let b ← hexDigit? b
  let c ← hexDigit? c
  let d ← hexDigit? d
  some (((a * 16 + b) * 16 + c) * 16 + d)

/-- The character behind a one-letter escape. -/
def escaped? : Char → Option Char
  | '\x22' => some '\x22'
  | '\\' => some '\\'
  | '/' => some '/'
  | 'b' => some '\x08'
  | 'f' => some '\x0c'
  | 'n' => some '\n'
  | 'r' => some '\r'
  | 't' => some '\t'
  | _ => none

/--
The code units of a text after its opening quote, in reverse, and what follows the closing one.
-/
def readUnits (units : List Nat) : List Char → Found (List Nat)
  | [] => .error .malformed
  | '\x22' :: cs => .ok (units, cs)
  | '\\' :: 'u' :: a :: b :: c :: d :: cs =>
    match hex4? a b c d with
    | some n => readUnits (n :: units) cs
    | none => .error .malformed
  | '\\' :: c :: cs =>
    match escaped? c with
    | some e => readUnits (e.toNat :: units) cs
    | none => .error .malformed
  | c :: cs =>
    if c.toNat < 32 || c == '\\' then .error .malformed else readUnits (c.toNat :: units) cs

/-- The code points of a text after its opening quote. -/
def readCodes (cs : List Char) : Found (List Nat) :=
  match readUnits [] cs with
  | .ok (units, rest) => .ok (joinSurrogates units.reverse, rest)
  | .error f => .error f

/-- A fraction: a point and at least one digit. -/
def readFraction? : List Char → Option (List Nat × List Char)
  | '.' :: cs =>
    let (ds, rest) := spanDigits cs
    if ds.isEmpty then none else some (ds, rest)
  | _ => none

/-- An exponent: `e`, an optional sign and at least one digit. -/
def readPower? : List Char → Option (Int × List Char)
  | c :: cs =>
    if c == 'e' || c == 'E' then
      let (negative, body) := splitSign cs
      let (ds, rest) := spanDigits body
      if ds.isEmpty then none else some (signed negative (ofDigits ds), rest)
    else none
  | [] => none

/-- A number after its sign: no leading zero, an optional fraction, an optional exponent. -/
def readMagnitude (negative : Bool) (cs : List Char) : Found Value :=
  let (whole, rest) := spanDigits cs
  match whole with
  | [] => .error .malformed
  | 0 :: _ :: _ => .error .malformed
  | _ =>
    match readFraction? rest, readPower? rest with
    | some (fraction, rest), _ =>
      let (power, rest) := (readPower? rest).getD (0, rest)
      let x :=
        Binary64.ofScientific negative (ofDigits (whole ++ fraction)) (power - fraction.length)
      .ok (.float x, rest)
    | none, some (power, rest) =>
      .ok (.float (Binary64.ofScientific negative (ofDigits whole) power), rest)
    | none, none =>
      if maxIntegerDigits < whole.length then .error (.oversized whole.length)
      else .ok (.int (signed negative (ofDigits whole)), rest)

/-- The words of the grammar and what they stand for. -/
def words : List (List Char × Value) :=
  [("null".toList, .null), ("true".toList, .bool true), ("false".toList, .bool false),
    ("NaN".toList, .float .nan), ("Infinity".toList, .float (.infinite false)),
    ("-Infinity".toList, .float (.infinite true))]

/-- The word at the front of a text. -/
def readWord? (cs : List Char) : Option (Value × List Char) :=
  (words.find? fun w => w.1.isPrefixOf cs).map fun w => (w.2, cs.drop w.1.length)

/-- A value that is neither a list nor an object. -/
def readScalar (cs : List Char) : Found Value :=
  match readWord? cs with
  | some found => .ok found
  | none => match cs with
    | '\x22' :: cs =>
      match readCodes cs with
      | .ok (codes, rest) => .ok (.ofCodes codes, rest)
      | .error f => .error f
    | '-' :: cs => readMagnitude true cs
    | cs => readMagnitude false cs

/-- How deep lists and objects may be nested. -/
def maxDepth : Nat := 980

mutual

/-- A value at the front of a text, blanks before it allowed, with so much depth left. -/
def readValue : Nat → Nat → List Char → Found Value
  | 0, _, _ => .error .malformed
  | fuel + 1, depth, cs =>
    match skipBlanks cs, depth with
    | '\x7b' :: _, 0 => .error .tooDeep
    | '[' :: _, 0 => .error .tooDeep
    | '\x7b' :: cs, depth + 1 =>
      match skipBlanks cs with
      | '\x7d' :: cs => .ok (.object [], cs)
      | cs => readFields fuel depth [] cs
    | '[' :: cs, depth + 1 =>
      match skipBlanks cs with
      | ']' :: cs => .ok (.list [], cs)
      | cs => readItems fuel depth [] cs
    | cs, _ => readScalar cs

/-- The items of a list after its bracket or a comma; those before are given in reverse. -/
def readItems : Nat → Nat → List Value → List Char → Found Value
  | 0, _, _, _ => .error .malformed
  | fuel + 1, depth, items, cs =>
    match readValue fuel depth cs with
    | .error f => .error f
    | .ok (v, rest) =>
      match skipBlanks rest with
      | ',' :: cs => readItems fuel depth (v :: items) cs
      | ']' :: cs => .ok (.list (v :: items).reverse, cs)
      | _ => .error .malformed

/-- The fields of an object after its brace or a comma. -/
def readFields : Nat → Nat → List (String × Value) → List Char → Found Value
  | 0, _, _, _ => .error .malformed
  | fuel + 1, depth, fields, cs =>
    match skipBlanks cs with
    | '\x22' :: cs =>
      match readCodes cs with
      | .error f => .error f
      | .ok (codes, rest) =>
        match skipBlanks rest with
        | ':' :: cs =>
          match readValue fuel depth cs with
          | .error f => .error f
          | .ok (v, rest) =>
            let fields := Fields.set (Value.ofCodes codes).plain v fields
            match skipBlanks rest with
            | ',' :: cs => readFields fuel depth fields cs
            | '\x7d' :: cs => .ok (.object fields, cs)
            | _ => .error .malformed
        | _ => .error .malformed
    | _ => .error .malformed

end

/-- A whole document. Every step of the reader consumes a character, which bounds their number. -/
def readChars (cs : List Char) : Except Fault Value :=
  match readValue (2 * cs.length + 2) maxDepth cs with
  | .error f => .error f
  | .ok (v, rest) => if (skipBlanks rest).isEmpty then .ok v else .error .malformed

/-- The document that a text is. -/
def read (s : String) : Except Fault Value := readChars s.toList

/--
A document as it comes over a wire. A byte order mark may stand in front; zero bytes near the front
say that its characters are wider than a byte.
-/
def readBytes (s : String) : Except Fault Value :=
  let bytes := s.toUTF8.data.toList.map UInt8.toNat
  match Wide.guess? bytes with
  | some form => match form.decode? bytes with
    | some codes => readChars (codes.map charOf)
    | none => .error .undecodable
  | none => match s.toList with
    | '\ufeff' :: cs => readChars cs
    | cs => readChars cs

/-- The failure of a call that met an unreadable document. -/
def Fault.failure : Fault → Failure
  | .oversized digits => .badValue (tooManyDigits digits)
  | .tooDeep => .tooDeep
  | _ => .malformedDocument

end CurrencyLedger.Json
