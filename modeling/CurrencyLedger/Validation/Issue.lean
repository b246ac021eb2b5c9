import CurrencyLedger.Value.Basic

/-!
Issues.

What is wrong with a request is listed as issues: where, and what kind of thing. Parts are checked
one by one, and the issues of all of them are reported in the order of the parts.
-/

namespace CurrencyLedger.Validation

/-- What may be wrong with a part of a request. -/
inductive Fault where
  | missing
  | notAnInteger
  | unreadableInteger
  | oversizedInteger
  | fractionalInteger
  | notFinite
  | notAbove
  | belowLeast
  | aboveMost
  | notAText
  /-- A surrogate stands alone in a text. -/
  | illFormedText
  | notAChoice
  /-- The part says no currency, or parts contradict one another. -/
  | refused (message : String)
  | notAModel
  | notAnObject
  | malformedDocument
  | unreadableDate
  | timeInDate
  | unreadableTruth
  | unreadableNumber
  | unreadableAddress
  | addressScheme
  deriving DecidableEq, Repr

/-- The code of a fault. -/
def Fault.code : Fault → String
  | .missing => "missing"
  | .notAnInteger => "int_type"
  | .unreadableInteger => "int_parsing"
  | .oversizedInteger => "int_parsing_size"
  | .fractionalInteger => "int_from_float"
  | .notFinite => "finite_number"
  | .notAbove => "greater_than"
  | .belowLeast => "greater_than_equal"
  | .aboveMost => "less_than_equal"
  | .notAText => "string_type"
  | .illFormedText => "string_unicode"
  | .notAChoice => "enum"
  | .refused _ => "value_error"
  | .notAModel => "model_type"
  | .notAnObject => "model_attributes_type"
  | .malformedDocument => "json_invalid"
  | .unreadableDate => "date_from_datetime_parsing"
  | .timeInDate => "date_from_datetime_inexact"
  | .unreadableTruth => "bool_parsing"
  | .unreadableNumber => "float_parsing"
  | .unreadableAddress => "url_parsing"
  | .addressScheme => "url_scheme"

/-- What a fault says of itself, if it is one of the program's own. -/
def Fault.message? : Fault → Option String
  | .refused message => some ("Value error, " ++ message)
  | _ => none

/-- A fault and the part that has it, from the outside in. -/
structure Issue where
  path : List String
  fault : Fault
  deriving DecidableEq, Repr

/-- The issue as one of a part of something larger. -/
def Issue.within (part : String) (i : Issue) : Issue := { i with path := part :: i.path }

/-- A part as it was read, or what is wrong with it. -/
abbrev Reading (α : Type) := Except Fault α

/-- A whole as it was read, or all that is wrong with it. -/
abbrev Checked (α : Type) := Except (List Issue) α

namespace Checked

/-- A part of a name. -/
def part (name : String) : Reading α → Checked α
  | .ok a => .ok a
  | .error f => .error [⟨[name], f⟩]

/-- Two parts, with the issues of both. -/
def and : Checked α → Checked β → Checked (α × β)
  | .ok a, .ok b => .ok (a, b)
  | .ok _, .error js => .error js
  | .error is, .ok _ => .error is
  | .error is, .error js => .error (is ++ js)

/-- The whole as a part of something larger. -/
def within (name : String) : Checked α → Checked α
  | .ok a => .ok a
  | .error is => .error (is.map (·.within name))

end Checked

end CurrencyLedger.Validation
