import CurrencyLedger.Failure
import CurrencyLedger.Value.Basic

/-!
Values as choices.

Some arguments have to be one of a few words. A value is the choice that its text spells exactly;
any other value is refused by naming the list that it should have been taken from.
-/

namespace CurrencyLedger.Value

/-- The refusal of a value that is not in a list. -/
def noChoice (list : String) (v : Value) : Failure :=
  .badValue (v.quoted ++ " is not a valid " ++ list)

/-- The choice that a value spells. -/
def choose (list : String) (ofText? : String → Option α) (v : Value) : Except Failure α :=
  match v with
  | .text s => match ofText? s with
    | some a => .ok a
    | none => .error (noChoice list v)
  | _ => .error (noChoice list v)

/-- The choice that a value spells, or none if the value is null. -/
def choose? (list : String) (ofText? : String → Option α) (v : Value) :
    Except Failure (Option α) :=
  match v with
  | .null => .ok none
  | v => some <$> choose list ofText? v

/-- Only a text that spells a choice is taken. -/
theorem choose_eq_ok_iff {list : String} {ofText? : String → Option α} {v : Value} {a : α} :
    choose list ofText? v = .ok a ↔ ∃ s, v = .text s ∧ ofText? s = some a := by
  cases v with
  | text s => cases h : ofText? s <;> simp [choose, h]
  | _ => simp [choose]

end CurrencyLedger.Value
