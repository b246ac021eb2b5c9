import CurrencyLedger.Text.Split
import CurrencyLedger.Value.Json

/-!
Allowed origins.

Browsers may call from the origins that are configured, as a JSON list or separated by commas.
Blanks around an origin are dropped, empty ones are passed over, and of equal ones the first stays.
-/

namespace CurrencyLedger.Settings

/--
The items of a configured text. An unreadable list has none, unless it is nested too deep to tell.
-/
def readItems (s : String) : Except Failure (List String) :=
  let raw := Text.trim s
  if Text.beginsWith "[" raw then
    match Json.read raw with
    | .ok (.list items) => .ok (items.map Value.plain)
    | .error .tooDeep => .error .tooDeep
    | _ => .ok []
  else .ok (Text.split ',' raw)

/-- The origins of a configured text. -/
def origins (s : String) : Except Failure (List String) := do
  return (((← readItems s).map Text.trim).filter (· != "")).eraseDups

end CurrencyLedger.Settings
