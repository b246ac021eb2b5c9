import CurrencyLedger.Exchange.Plan
import CurrencyLedger.Wallets.Balance
import CurrencyLedger.Wallets.Resolve

/-!
What users do with their money: fund, convert, trade.

Each operation first checks and sizes what is asked, without touching the session. Then it does all
its reads and writes in one unit of work, the debit before the credit, so that a refused debit means
that the credit was never tried and any failure undoes both. An event is announced only after the
commit.
-/

namespace CurrencyLedger.Operation

/-- What an operation may be given beside its arguments. -/
structure Options where
  listener : Option Listener := none
  /-- What is known of the request, for the event. -/
  requestMeta : Value := .null
  limit : Option TimeLimit := some (.whole 10)

/-- Announces what an operation did. -/
def announce (o : Options) (userId : Int) (kind : Event.Kind) (text : String) :
    Action Session Unit := do
  let date ← .read Session.clock
  Session.announce o.listener { userId, text, kind, requestMeta := o.requestMeta, date }

/-- What an event says of funding. -/
def fundingText (currency : String) (amount : Nat) : String :=
  "Funded " ++ currency ++ " wallet with " ++ Text.natText amount

/-- Adds money to a user's wallet in a currency. -/
def fund (userId : Int) (amount currency : Value) (o : Options) : Action Session Transaction := do
  let amount ← .check (Amount.ofValue amount)
  let currency ← .check (Currency.normalize currency)
  let x ← Session.unitOfWork o.limit do
    let w ← Wallets.resolve userId (.text currency)
    Wallets.credit w.id (.int amount)
      { kind := .funding, description := .text ("Wallet funding - " ++ currency) }
  announce o userId .credit (fundingText currency amount)
  return x

/-- The two movements of an exchange. -/
structure Legs where
  debit : Transaction
  credit : Transaction
  deriving Repr

/-- The refusal to take from a wallet that does not exist. -/
def noSource (currency : String) : LedgerError :=
  .saying .walletNotFound (currency ++ " Wallet not found")

/-- Takes what a plan gives up and adds what it receives, within a unit of work. -/
def moveLegs (userId : Int) (plan : Exchange.Plan) (p : History.Particulars) :
    Action Session Legs := do
  match ← Wallets.find userId (.text plan.source) with
  | none => .fail (.ledger (noSource plan.source))
  | some source =>
    let debit ← Wallets.debit source.id (.int plan.debit) p
    let target ← Wallets.resolve userId (.text plan.target)
    let credit ← Wallets.credit target.id (.int plan.credit) p
    return { debit, credit }

/-- Carries a plan out. -/
def exchange (userId : Int) (plan : Exchange.Plan) (kind : Transaction.Kind) (description : String)
    (remarks : Value) (o : Options) : Action Session Legs := do
  let sessionId ← Session.draw Names.session
  Session.unitOfWork o.limit <| moveLegs userId plan
    { exchangeRate := .text plan.rate, kind, description := .text description, remarks
      sessionId := .text sessionId }

/-- What an operation answers that exchanged money. -/
structure Exchanged where
  legs : Legs
  rate : String
  /-- Smallest units of the currency received. -/
  converted : Int
  deriving Repr

/-- An amount of a currency, as events say it. -/
def money (n : Int) (currency : String) : String := Text.intText n ++ " " ++ currency

/-- What rows say of a conversion. -/
def conversionDescription (plan : Exchange.Plan) : String :=
  "Currency conversion: " ++ plan.source ++ " to " ++ plan.target

/-- What an event says of a conversion. -/
def conversionText (c : Exchange.Conversion) : String :=
  "Converted " ++ money c.amount c.plan.source ++ " to " ++ money c.plan.credit c.plan.target
    ++ " at rate " ++ c.plan.rate

/-- Converts an amount of one currency into another. -/
def convert (rates : Exchange.RateSource) (userId : Int) (source target amount : Value)
    (o : Options) : Action Session Exchanged := do
  let c ← .lift (Exchange.planConversion rates source target amount)
  let legs ← exchange userId c.plan .conversion (conversionDescription c.plan) .null o
  announce o userId .update (conversionText c)
  return { legs, rate := c.plan.rate, converted := c.plan.credit }

/-- What rows say of a trade. -/
def tradeDescription (t : Exchange.Trade) : String :=
  "Trade " ++ t.action.text ++ ": " ++ t.plan.source ++ " to " ++ t.plan.target

/-- What rows remark of a trade. -/
def tradeRemarks (t : Exchange.Trade) : Value := .object [("action", .text t.action.text)]

/-- What an event says of a trade. -/
def tradeText (t : Exchange.Trade) : String :=
  "Executed trade: " ++ t.action.text ++ " " ++ money t.amount t.base ++ " with " ++ t.quote
    ++ ". Final exchange: " ++ money t.plan.debit t.plan.source ++ " for "
    ++ money t.plan.credit t.plan.target ++ " at rate " ++ t.plan.rate

/-- Buys or sells an amount of the base currency for the quote currency. -/
def trade (rates : Exchange.RateSource) (userId : Int) (base quote amount action : Value)
    (o : Options) : Action Session (TradeAction × Exchanged) := do
  let t ← .lift (Exchange.planTrade rates base quote amount action)
  let legs ← exchange userId t.plan .trade (tradeDescription t) (tradeRemarks t) o
  announce o userId .update (tradeText t)
  return (t.action, { legs, rate := t.plan.rate, converted := t.plan.credit })

end CurrencyLedger.Operation
