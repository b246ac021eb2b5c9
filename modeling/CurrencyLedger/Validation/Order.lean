import CurrencyLedger.Currency
import CurrencyLedger.Exchange.Plan
import CurrencyLedger.Validation.Number

/-!
Orders.

An order is the body of a request that moves money. Its amount is read leniently and has to be above
zero; its currencies have to be texts that name one; what contradicts itself as a whole is refused
only if every part is in order. Fields that no order has are ignored.
-/

namespace CurrencyLedger.Validation

/-- An order to add money to one's own wallet. -/
structure FundOrder where
  amount : Int
  currency : String
  deriving DecidableEq, Repr

/-- An order to add money to a user's wallet. -/
structure FundUserOrder where
  userId : Int
  amount : Int
  currency : String
  deriving DecidableEq, Repr

/-- An order to convert an amount of one currency into another. -/
structure ConvertOrder where
  source : String
  target : String
  amount : Int
  deriving DecidableEq, Repr

/-- An order to buy or sell an amount of the base currency. -/
structure TradeOrder where
  base : String
  quote : String
  amount : Int
  action : TradeAction
  deriving DecidableEq, Repr

/-- A field of a body. -/
def field (name : String) (read : Value → Reading α) (fields : List (String × Value)) : Checked α :=
  Checked.part name <| match fields.lookup name with
    | some v => read v
    | none => .error .missing

/-- An amount above zero. -/
def readAmount (v : Value) : Reading Int := do above 0 (← readInteger v)

/-- A text that names a currency, in the spelling of the ledger. -/
def readCurrency (v : Value) : Reading String :=
  if v.isText then
    match Currency.normalize v with
    | .ok code => .ok code
    | .error e => .error (.refused e.message)
  else .error .notAText

/-- A side of a trade. -/
def readAction (v : Value) : Reading TradeAction :=
  match v with
  | .text s => match TradeAction.ofText? s with
    | some a => .ok a
    | none => .error .notAChoice
  | .illFormed _ => .error .illFormedText
  | _ => .error .notAChoice

/-- The refusal of a whole whose parts are in order. -/
def refuseWhole (message : String) : Checked α := .error [⟨[], .refused message⟩]

namespace FundOrder

/-- The order in the fields of a body. -/
def read (fields : List (String × Value)) : Checked FundOrder := do
  let (amount, currency) ←
    (field "amount" readAmount fields).and (field "currency" readCurrency fields)
  return { amount, currency }

end FundOrder

namespace FundUserOrder

/-- The order in the fields of a body. -/
def read (fields : List (String × Value)) : Checked FundUserOrder := do
  let (userId, amount, currency) ←
    (field "user_id" readInteger fields).and
      ((field "amount" readAmount fields).and (field "currency" readCurrency fields))
  return { userId, amount, currency }

end FundUserOrder

namespace ConvertOrder

/-- The order in the fields of a body. -/
def read (fields : List (String × Value)) : Checked ConvertOrder := do
  let (source, target, amount) ←
    (field "from_currency" readCurrency fields).and
      ((field "to_currency" readCurrency fields).and (field "amount" readAmount fields))
  if source = target then refuseWhole "from_currency and to_currency must differ"
  else return { source, target, amount }

end ConvertOrder

namespace TradeOrder

/-- The order in the fields of a body. -/
def read (fields : List (String × Value)) : Checked TradeOrder := do
  let (base, quote, amount, action) ←
    (field "base_currency" readCurrency fields).and
      ((field "quote_currency" readCurrency fields).and
        ((field "amount" readAmount fields).and (field "action" readAction fields)))
  if base = quote then refuseWhole "base_currency and quote_currency must differ"
  else return { base, quote, amount, action }

end TradeOrder

/-- The order in a value, which has to be an object; anything else has one fault as a whole. -/
def readBody (otherwise : Fault) (read : List (String × Value) → Checked α) (v : Value) :
    Checked α :=
  match v with
  | .object fields => read fields
  | _ => .error [⟨[], otherwise⟩]

end CurrencyLedger.Validation
