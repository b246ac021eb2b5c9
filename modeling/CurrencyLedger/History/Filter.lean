import CurrencyLedger.Calendar.Reading
import CurrencyLedger.Store.Column
import CurrencyLedger.Store.Row
import CurrencyLedger.Text.Uppercase

/-!
Filters.

A listing of transactions can be narrowed by their user, wallet, reference, session, currency, kind,
flow, status and time. Every filter that is given narrows it further; an empty text is no filter. A
caller names the filters that it gives, each with any value; some values cannot be a filter of their
name, and some are a filter that nothing passes.
-/

namespace CurrencyLedger.History

/-- What a transaction has to match. -/
structure Filter where
  userId : Option Int := none
  /-- A user is asked for that no transaction can have. -/
  isHopeless : Bool := false
  walletId : Option String := none
  reference : Option String := none
  sessionId : Option String := none
  currency : Option String := none
  kind : Option Transaction.Kind := none
  flow : Option Transaction.Flow := none
  status : Option Transaction.Status := none
  start : Option Bound := none
  finish : Option Bound := none

/-- Whether a text matches one that is asked for; none or an empty one asks for nothing. -/
def matchesText (asked : Option String) (spell : String → String) (s : String) : Bool :=
  match asked with
  | some a => a == "" || s == spell a
  | none => true

/-- A currency as a filter spells it: blanks around it and the case of letters do not matter. -/
def spellCurrency (s : String) : String := Text.upper (Text.trim s)

/-- Whether a transaction passes a filter. -/
def Filter.admits (f : Filter) (x : Transaction) : Bool :=
  !f.isHopeless
    && f.userId.all (x.userId == ·)
    && matchesText f.walletId id x.walletId
    && matchesText f.reference Text.trim x.reference
    && matchesText f.sessionId Text.trim x.sessionId
    && matchesText f.currency spellCurrency x.currency
    && f.kind.all (x.kind = ·)
    && f.flow.all (x.flow = ·)
    && f.status.all (x.status = ·)
    && f.start.all (·.admitsFrom x.createdAt)
    && f.finish.all (·.admitsTo x.createdAt)

namespace Filter

/-- The names of filters. -/
def names : List String :=
  ["user_id", "wallet_id", "reference", "session_id", "currency", "tx_type", "flow", "status",
    "start_date", "end_date"]

/-- The bound that a value writes, if one is given. -/
def bound? : Value → Except Failure (Option Bound)
  | .null => .ok none
  | .text s => some <$> Calendar.failing s (Calendar.readBound s)
  | _ => .error .badKind

/-- The text to match that a value gives; what is no text has no blanks to drop. -/
def spelled? (v : Value) : Except Failure (Option String) :=
  if !v.given then .ok none
  else match v with
    | .text s => .ok (some s)
    | _ => .error .noSuchPart

/-- Refuses a value that cannot be part of a statement. -/
def requireBindable (v : Value) : Except Failure Unit :=
  match Column.refusal? v with
  | some f => .error f
  | none => .ok ()

/-- A filter with the wallet that a value names, if one is given. -/
def withWallet (v : Value) (f : Filter) : Filter :=
  if !v.given then f
  else match Column.text? v with
    | some id => { f with walletId := some id }
    | none => { f with isHopeless := true }

/-- A filter with the user that a value names, unless it is null. -/
def withUser (v : Value) (f : Filter) : Filter :=
  match v with
  | .null => f
  | v => match Column.integer? v with
    | some id => { f with userId := some id }
    | none => { f with isHopeless := true }

/-- A value of a name, null if it is not given. -/
def named (fields : List (String × Value)) (name : String) : Value :=
  (fields.lookup name).getD .null

/-- The filter of the words and days among named values. -/
def chosen (fields : List (String × Value)) : Except Failure Filter := do
  let kind ← Transaction.Kind.ofValue (named fields "tx_type")
  let flow ← Transaction.Flow.ofValue (named fields "flow")
  let status ← Transaction.Status.ofValue (named fields "status")
  let start ← bound? (named fields "start_date")
  let finish ← bound? (named fields "end_date")
  return { kind, flow, status, start, finish }

/-- A filter narrowed by the other named values. -/
def narrowed (f : Filter) (fields : List (String × Value)) : Except Failure Filter := do
  if fields.any fun v => !names.contains v.1 then .error .badKind
  let reference ← spelled? (named fields "reference")
  let sessionId ← spelled? (named fields "session_id")
  let currency ← spelled? (named fields "currency")
  let user := named fields "user_id"
  let wallet := named fields "wallet_id"
  requireBindable user
  if wallet.given then requireBindable wallet
  return withUser user (withWallet wallet { f with reference, sessionId, currency })

end Filter

end CurrencyLedger.History
