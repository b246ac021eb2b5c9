import CurrencyLedger.Amount
import CurrencyLedger.Currency
import CurrencyLedger.Rate.Provider
import CurrencyLedger.Value.Choice

/-!
Sizing an exchange.

An exchange takes an amount of one currency from a user and gives an amount of another. Both amounts
and the rate are settled before any wallet is looked at: one rate is asked for, from the currency
given up to the one received, and serves for sizing and for the record. A conversion and a sale give
up what is asked; a purchase gives up what covers the amount that it wants.
-/

namespace CurrencyLedger

/-- Which side of a trade the user takes. -/
inductive TradeAction where
  | buy
  | sell
  deriving DecidableEq, Repr

namespace TradeAction

/-- The written action. -/
def text : TradeAction → String
  | .buy => "buy"
  | .sell => "sell"

/-- The action that a text spells. -/
def ofText? (s : String) : Option TradeAction := [buy, sell].find? fun a => a.text = s

/-- The action that a value names. -/
def ofValue (v : Value) : Except Failure TradeAction := v.choose "TradeAction" ofText?

end TradeAction

namespace Exchange

/-- Answers with units of the second currency per unit of the first. -/
abbrev RateSource := String → String → Except Failure Value

/-- A source without any rate. -/
def noRates : RateSource := fun base target => .error (.ledger (Rate.noRate base target))

/-- A source that quotes one value for every pair. -/
def oneRate (v : Value) : RateSource := fun _ _ => .ok v

/-- A provider as a source, in the surroundings that it is found in. -/
def providerRates [TimeScale τ] (p : Rate.Provider) (m : Rate.Market τ) : RateSource :=
  fun base target => Value.decimal <$> ((p.rate (.text base) (.text target)).on m).1

/-- A source that prices from a table. -/
def tableRates (table : Rate.Table) : RateSource :=
  providerRates (.fixed table) (.fresh : Rate.Market Rat)

/-- An exchange that is ready to be carried out. -/
structure Plan where
  /-- The currency given up. -/
  source : String
  /-- The currency received. -/
  target : String
  debit : Int
  credit : Int
  /-- The rate as rows record it. -/
  rate : String
  deriving DecidableEq, Repr

/-- An amount that is not lost in rounding. -/
def requireConverted (n : Int) (currency : String) : Except LedgerError Int :=
  if 0 < n then .ok n
  else .error (.saying .invalidAmount ("Amount is too small to convert into " ++ currency))

/-- Sizes an exchange; `spend` says what to give up at a rate. -/
def plan (rates : RateSource) (source target : String) (spend : Decimal → Except Failure Int) :
    Except Failure Plan := do
  let rate ← ofLedger (Rate.normalize (← rates source target))
  let debit ← spend rate
  let credit ← ofLedger (requireConverted (← Amount.convert debit rate) target)
  let text ← ofSignal (Rate.format (.decimal rate))
  return { source, target, debit, credit, rate := text }

/-- Two currencies that differ. -/
def requireDistinct (a b : String) : Except Failure Unit :=
  if a = b then .error (.refusal .sameCurrency) else .ok ()

/-- A conversion that has been sized. -/
structure Conversion where
  amount : Nat
  plan : Plan
  deriving DecidableEq, Repr

/-- Sizes a conversion of an amount of one currency into another. -/
def planConversion (rates : RateSource) (source target amount : Value) :
    Except Failure Conversion := do
  let amount ← ofLedger (Amount.ofValue amount)
  let source ← ofLedger (Currency.normalize source)
  let target ← ofLedger (Currency.normalize target)
  requireDistinct source target
  let plan ← plan rates source target fun _ => .ok amount
  return { amount, plan }

/-- A trade that has been sized. -/
structure Trade where
  amount : Nat
  base : String
  quote : String
  action : TradeAction
  plan : Plan
  deriving DecidableEq, Repr

/-- Sizes a trade: an amount of the base currency is bought or sold for the quote currency. -/
def planTrade (rates : RateSource) (base quote amount action : Value) : Except Failure Trade := do
  let amount ← ofLedger (Amount.ofValue amount)
  let base ← ofLedger (Currency.normalize base)
  let quote ← ofLedger (Currency.normalize quote)
  let action ← TradeAction.ofValue action
  requireDistinct base quote
  let plan ← match action with
    | .buy => plan rates quote base (Amount.cover amount)
    | .sell => plan rates base quote fun _ => .ok amount
  return { amount, base, quote, action, plan }

end Exchange

end CurrencyLedger
