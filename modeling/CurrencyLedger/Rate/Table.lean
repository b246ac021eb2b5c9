import CurrencyLedger.Fields
import CurrencyLedger.Rate.Basic
import CurrencyLedger.Text.Split
import CurrencyLedger.Text.Uppercase
import CurrencyLedger.Value.Json

/-!
Tables of rates.

A table gives for each currency its units per United States dollar. The rate between two currencies
is the quotient of their entries. Tables come from configuration, as text in one of two notations,
or from the answer of an online service; entries that are no finite positive number are passed over.
-/

namespace CurrencyLedger.Rate

/-- Units per dollar, by currency. -/
abbrev Table := List (String × Decimal)

/-- The currency that tables are quoted against. -/
def dollar : String := "USD"

/-- The refusal of a pair that the table does not price. -/
def noRate (base target : String) : LedgerError :=
  .saying .rateUnavailable ("Unable to get exchange rate for " ++ base ++ " to " ++ target)

namespace Table

/-- The table with the dollar at one, if it has no entry for it. -/
def withDollar (table : Table) : Table := Fields.setDefault dollar .one table

/-- The number that a value spells, if it is finite and positive. -/
def usable? (v : Value) : Option Decimal :=
  match Decimal.ofText? (Text.trim v.plain) with
  | some d => if d.isPositive then some d else none
  | none => none

/-- Sets an entry if its code is not empty and its rate is usable. -/
def put (table : Table) (code : String) (rate : Value) : Table :=
  match usable? rate with
  | some d => if code = "" then table else Fields.set code d table
  | none => table

/-- A code as configuration spells it, brought to the stored spelling. -/
def configuredCode (code : String) : String := Text.upper (Text.trim code)

/-- The table of a list of codes and rates; a later usable entry replaces an earlier one. -/
def ofPairs (pairs : List (String × Value)) : Table :=
  pairs.foldl (fun table p => table.put (configuredCode p.1) p.2) []

/-- One entry of the comma notation: a code, a colon and a rate. -/
def readPair? (s : String) : Option (String × Value) :=
  match Text.cut ':' s with
  | (code, some rate) => some (code, .text rate)
  | (_, none) => none

/--
The entries of a configured text: those of a JSON object, or of a comma-separated list. An
unreadable object has none, unless it is nested too deep to tell.
-/
def readPairs (s : String) : Except Failure (List (String × Value)) :=
  let raw := Text.trim s
  if Text.beginsWith "\x7b" raw then
    match Json.read raw with
    | .ok (.object fields) => .ok fields
    | .error .tooDeep => .error .tooDeep
    | _ => .ok []
  else .ok ((Text.split ',' raw).filterMap readPair?)

/-- The table of a configured text. -/
def ofConfiguration (s : String) : Except Failure Table := do return ofPairs (← readPairs s)

/-- The rate inside an entry of a service's answer: its `value`, or the entry itself. -/
def entryValue (item : Value) : Value :=
  match item with
  | .object _ => (item.field? "value").getD .null
  | v => v

/-- An object's fields; what is not given has none, and any other kind has no fields at all. -/
def givenFields (v : Value) : Except Failure (List (String × Value)) :=
  if v.given then
    match v with
    | .object fields => .ok fields
    | _ => .error .noSuchPart
  else .ok []

/-- The table in a service's answer: the usable entries of its `data`. -/
def ofPayload (payload : Value) : Except Failure Table := do
  let top ← givenFields payload
  let data ← givenFields ((top.lookup "data").getD .null)
  return data.foldl (fun table f => match Decimal.ofText? (entryValue f.2).plain with
    | some d => if d.isPositive then Fields.set (Text.upper f.1) d table else table
    | none => table) []

/-- A table given by values, each of which has to be a decimal of some kind; the dollar is added. -/
def ofValues (fields : List (String × Value)) : Except Failure Table := do
  let table ← fields.foldlM (fun (table : Table) f => match Decimal.ofText? f.2.plain with
    | some d => .ok (Fields.set (Text.upper f.1) d table)
    | none => .error (.arithmetic .invalidOperation)) []
  return table.withDollar

/-- Units of `target` per unit of `base`. -/
def quote (table : Table) (base target : String) : Except Failure Decimal :=
  let refused := Except.error (.ledger (noRate base target))
  match table.lookup base, table.lookup target with
  | some b, some t =>
    if b.isZero || t.isZero then refused
    else do
      if ← ofSignal b.atMostZero then refused
      else if ← ofSignal t.atMostZero then refused
      else ofSignal (t.div b)
  | _, _ => refused

end Table

end CurrencyLedger.Rate
