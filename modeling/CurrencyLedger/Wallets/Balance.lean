import CurrencyLedger.Amount
import CurrencyLedger.History.Record

/-!
Changing a balance.

`credit` and `debit` are the only ways in which a balance changes. Each checks the amount, loads the
wallet, stores the new balance and records the movement, in this order; a debit is refused if the
balance does not cover it.
-/

namespace CurrencyLedger.Wallets

/-- The wallet of an identifier. -/
def load (flow : Transaction.Flow) (id : String) : Action Session Wallet := do
  match ← Session.query (.loadWallet flow) [] fun t => t.wallet? id with
  | some w => return w
  | none => .refuse .walletNotFound

/-- Stores a wallet's new balance. -/
def store (flow : Transaction.Flow) (w : Wallet) (balance : Nat) : Action Session Unit := do
  let now ← .read Session.clock
  Session.write (.setBalance flow) fun t =>
    if Column.fits balance then .ok (t.setBalance w.id balance now)
    else .error .integerOverflow

/-- Adds an amount to a wallet. -/
def credit (id : String) (amount : Value) (p : History.Particulars) :
    Action Session Transaction := do
  let amount ← .check (Amount.ofValue amount)
  let w ← load .credit id
  store .credit w (w.balance + amount)
  History.record w amount .credit p

/-- Takes an amount from a wallet that covers it. -/
def debit (id : String) (amount : Value) (p : History.Particulars) :
    Action Session Transaction := do
  let amount ← .check (Amount.ofValue amount)
  let w ← load .debit id
  if w.balance < amount then .refuse .insufficientBalance
  else
    store .debit w (w.balance - amount)
    History.record w amount .debit p

end CurrencyLedger.Wallets
