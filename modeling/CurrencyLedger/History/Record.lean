import CurrencyLedger.Rate.Basic
import CurrencyLedger.Store.Session
import CurrencyLedger.Value.Pairs

/-!
Recording a movement.

Whenever a balance changes, a transaction is inserted that says so. It carries the wallet's user and
currency, a new reference, and the rate at eight places.
-/

namespace CurrencyLedger.History

/-- What is known of a movement beside the wallet and the amount. -/
structure Particulars where
  exchangeRate : Value := .text "1"
  kind : Transaction.Kind := .funding
  /-- A description of its own, if one is given. -/
  description : Value := .null
  /-- Remarks, as an object or as pairs. -/
  remarks : Value := .null
  /-- The session that it belongs to, if one is given. -/
  sessionId : Value := .null

/-- The description of a movement that has none of its own. -/
def standingDescription (kind : Transaction.Kind) (flow : Transaction.Flow) (currency : String) :
    String :=
  kind.title ++ " " ++ flow.text ++ " - " ++ currency

/-- Remarks as rows keep them: an object, or null if none are given. -/
def keptRemarks (v : Value) : Except Failure Value := if v.given then v.toObject else .ok .null

/-- The row of a movement, with the rate and the remarks as rows keep them. -/
def row (id reference rate : String) (remarks : Value) (now : Moment) (w : Wallet) (amount : Nat)
    (flow : Transaction.Flow) (p : Particulars) : Except Failure Transaction := do
  let sessionId ← Column.givenTextOr reference p.sessionId
  let description ← Column.givenTextOr (standingDescription p.kind flow w.currency) p.description
  return {
    id, reference, sessionId, description, remarks
    userId := w.userId
    walletId := w.id
    currency := w.currency
    amount := amount
    flow := flow
    kind := p.kind
    status := .completed
    exchangeRate := rate
    createdAt := now
    updatedAt := now }

/-- Records a movement of a wallet's balance. -/
def record (w : Wallet) (amount : Nat) (flow : Transaction.Flow) (p : Particulars) :
    Action Session Transaction := do
  let reference ← Session.draw (Names.reference p.kind.mark)
  let rate ← .compute (Rate.format p.exchangeRate)
  let remarks ← .lift (keptRemarks p.remarks)
  let id ← Session.draw Names.transaction
  let now ← .read Session.clock
  let x := row id reference rate remarks now w amount flow p
  Session.write (.insertTransaction flow) fun t => do
    match t.insertTransaction? (← x) with
    | some t => .ok t
    | none => .error .integrity
  .lift x

end CurrencyLedger.History
