import CurrencyLedger.Failure
import CurrencyLedger.Fields
import CurrencyLedger.Value.Basic

/-!
Values as objects.

Remarks are kept as an object. A list of pairs will do in its place: each pair is a name and a
value, and is itself a list of two, a text of two characters or an object of two names. Of pairs
with one name the last counts.
-/

namespace CurrencyLedger.Value

/-- The items of a pair; a value that has no items is of the wrong kind. -/
def pairItems : Value → Except Failure (List Value)
  | .list items => .ok items
  | .text s => .ok (s.toList.map fun c => .text (String.singleton c))
  | .illFormed codes => .ok (codes.map fun n => ofCodes [n])
  | .object fields => .ok (fields.map fun f => .text f.1)
  | _ => .error .badKind

/-- A value as the name of a field, in the words of documents; lists and objects name none. -/
def fieldName : Value → Except Failure String
  | .text s => .ok s
  | .illFormed codes => .ok (illFormed codes).plain
  | .null => .ok "null"
  | .bool b => .ok (if b then "true" else "false")
  | .int n => .ok (Text.intText n)
  | .float (.infinite s) => .ok (if s then "-Infinity" else "Infinity")
  | .float .nan => .ok "NaN"
  | .float x => .ok x.text
  | _ => .error .badKind

/-- The refusal of a pair that is none, at a place. -/
def noPair (place length : Nat) : Failure :=
  .badValue ("dictionary update sequence element #" ++ Text.natText place ++ " has length "
    ++ Text.natText length ++ "; 2 is required")

/-- The fields with one pair more, which stands at a place. -/
def addPair (fields : List (String × Value)) (pair : Value × Nat) :
    Except Failure (List (String × Value)) := do
  match ← pairItems pair.1 with
  | [name, v] => return Fields.set (← fieldName name) v fields
  | items => .error (noPair pair.2 items.length)

/-- An object, or the one that a list of pairs makes. -/
def toObject (v : Value) : Except Failure Value :=
  match v with
  | .object _ => .ok v
  | v => do
    let pairs ← pairItems v
    return .object (← pairs.zipIdx.foldlM addPair [])

end CurrencyLedger.Value
