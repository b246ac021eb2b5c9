import CurrencyLedger.Binary64.Text
import CurrencyLedger.Decimal.Text
import CurrencyLedger.Text.Quoted

/-!
Values of unknown kind.

What a caller sends is not known to be an amount, a currency or a rate until it has been checked, so
requests carry a `Value`: one of the kinds of a JSON document, or a decimal. Two written forms
exist. `text` is the plain one, in which a text stands for itself; `quoted` is the one for messages,
in which a text stands in quotes. Inside a list or an object every item is quoted.
-/

namespace CurrencyLedger

/-- A value of unknown kind. -/
inductive Value where
  | null
  | bool (b : Bool)
  | int (n : Int)
  | float (x : Binary64)
  | decimal (d : Decimal)
  | text (s : String)
  /-- A text in which a surrogate stands alone, by its code points. -/
  | illFormed (codes : List Nat)
  | list (items : List Value)
  | object (fields : List (String × Value))
  deriving Inhabited, Repr

namespace Value

/-- The word for a truth value. -/
def boolText (b : Bool) : String := if b then "True" else "False"

/-- Texts side by side with commas. -/
def joined (items : List String) : String := String.intercalate ", " items

mutual

/-- The form for messages: a text stands in quotes. -/
def quoted : Value → String
  | .null => "None"
  | .bool b => boolText b
  | .int n => Text.intText n
  | .float x => x.text
  | .decimal d => "Decimal('" ++ d.text ++ "')"
  | .text s => Text.quoted s
  | .illFormed codes => Text.quotedCodes codes
  | .list items => "[" ++ joined (quotedItems items) ++ "]"
  | .object fields => "\x7b" ++ joined (quotedFields fields) ++ "\x7d"

/-- The items of a list, each quoted. -/
def quotedItems : List Value → List String
  | [] => []
  | v :: vs => v.quoted :: quotedItems vs

/-- The fields of an object, names and values quoted. -/
def quotedFields : List (String × Value) → List String
  | [] => []
  | (k, v) :: fs => (Text.quoted k ++ ": " ++ v.quoted) :: quotedFields fs

end

/-- The plain form: a text stands for itself, a decimal for its digits. -/
def plain : Value → String
  | .text s => s
  | .illFormed codes => String.ofList (codes.map Text.charOf)
  | .decimal d => d.text
  | v => v.quoted

/-- Whether a value counts as given: neither null, false, zero nor empty. -/
def given : Value → Bool
  | .null => false
  | .bool b => b
  | .int n => n != 0
  | .float x => !x.isZero
  | .decimal d => !d.isZero
  | .text s => s != ""
  | .illFormed _ => true
  | .list items => !items.isEmpty
  | .object fields => !fields.isEmpty

/-- Whether a value is a text. -/
def isText : Value → Bool
  | .text _ => true
  | .illFormed _ => true
  | _ => false

mutual

/--
Whether a value can be written as a document: no number in it is without a written form there.
-/
def isWritable : Value → Bool
  | .float (.finite ..) => true
  | .float _ => false
  | .illFormed _ => false
  | .list items => areWritable items
  | .object fields => haveWritable fields
  | _ => true

/-- Whether all of some values can be written. -/
def areWritable : List Value → Bool
  | [] => true
  | v :: vs => v.isWritable && areWritable vs

/-- Whether the values of all fields can be written. -/
def haveWritable : List (String × Value) → Bool
  | [] => true
  | (_, v) :: fs => v.isWritable && haveWritable fs

end

/-- A given value in its plain form; any other is the empty text. -/
def plainOrEmpty (v : Value) : String := if v.given then v.plain else ""

/-- The text of some code points. -/
def ofCodes (codes : List Nat) : Value :=
  if codes.any Text.isSurrogate then .illFormed codes
  else .text (String.ofList (codes.map Text.charOf))

/-- A field of an object; other kinds have none. -/
def field? (name : String) : Value → Option Value
  | .object fields => fields.lookup name
  | _ => none

/-- An optional value, null where there is none. -/
def ofOption (f : α → Value) : Option α → Value
  | some a => f a
  | none => .null

/-- An optional text. -/
def ofText? (s : Option String) : Value := ofOption .text s

end Value

end CurrencyLedger
