import CurrencyLedger.Currency
import CurrencyLedger.Store.Session

/-!
Finding and creating wallets.

A user has at most one wallet in a currency. `resolve` answers with it and creates it if there is
none. Creation happens in a savepoint: if another writer has created the same wallet meanwhile, the
savepoint is undone and the other's wallet is the answer, and whatever the transaction did before
stands.
-/

namespace CurrencyLedger.Wallets

/-- The wallet of a user in a currency, however the currency is spelled. -/
def find (userId : Int) (currency : Value) : Action Session (Option Wallet) := do
  let code ← .check (Currency.normalize currency)
  Session.query .findWallet [userId] fun t => t.walletOf? userId code

/-- A wallet without money. -/
def empty (id : String) (userId : Int) (currency : String) (now : Moment) : Wallet where
  id := id
  userId := userId
  currency := currency
  balance := 0
  createdAt := now
  updatedAt := now

/-- Creates a wallet without money. -/
def create (userId : Int) (code : String) : Action Session Wallet := do
  let id ← Session.draw Names.wallet
  let now ← .read Session.clock
  let w := empty id userId code now
  Session.write .createWallet fun t => match t.insertWallet? w with
    | some t => .ok t
    | none => .error .integrity
  return w

/-- The wallet that the winner of a lost race has created; there has to be one. -/
def winner (userId : Int) (code : String) : Action Session Wallet := do
  match ← Session.query .resolveAgain [userId] fun t => t.walletOf? userId code with
  | some w => return w
  | none => .fail (.database {})

/-- The wallet of a user in a currency, created if there is none. -/
def resolve (userId : Int) (currency : Value) : Action Session Wallet := do
  let code ← .check (Currency.normalize currency)
  match ← Session.query .resolveWallet [userId] fun t => t.walletOf? userId code with
  | some w => return w
  | none =>
    Session.admitRival
    match ← (Session.nested (create userId code)).outcome with
    | .ok w => return w
    | .error .integrity => winner userId code
    | .error f => .fail f

/-- Wallets by currency, ascending. -/
def byCurrency (ws : List Wallet) : List Wallet := ws.mergeSort fun a b => a.currency ≤ b.currency

/-- The wallets of a user, or only the one in a currency that is given. -/
def list (userId : Int) (currency : Value) : Action Session (List Wallet) := do
  if currency.given then
    let code ← .check (Currency.normalize currency)
    Session.query .listRows [userId] fun t =>
      byCurrency (t.wallets.filter fun w => w.userId == userId && w.currency == code)
  else
    Session.query .listRows [userId] fun t => byCurrency (t.wallets.filter (·.userId == userId))

end CurrencyLedger.Wallets
