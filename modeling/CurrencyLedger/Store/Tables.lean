import CurrencyLedger.Store.Row

/-!
The tables.

Rows stand in the order of their insertion. Two constraints are checked on insertion: a wallet's
identifier, and its user and currency together, are new; a transaction's identifier and its
reference are new. An update changes the balance of one wallet and leaves every other row alone.
-/

namespace CurrencyLedger

/-- The rows of the store. -/
structure Tables where
  users : List User := []
  wallets : List Wallet := []
  transactions : List Transaction := []
  activities : List Activity := []
  deriving Repr

namespace Tables

/-- The user of an identifier. -/
def user? (t : Tables) (id : Int) : Option User := t.users.find? fun u => u.id == id

/-- The wallet of an identifier. -/
def wallet? (t : Tables) (id : String) : Option Wallet := t.wallets.find? fun w => w.id == id

/-- The wallet of a user in a currency. -/
def walletOf? (t : Tables) (userId : Int) (currency : String) : Option Wallet :=
  t.wallets.find? fun w => w.userId == userId && w.currency == currency

/-- The wallets with a new row, if the constraints allow it. -/
def insertWallet? (t : Tables) (w : Wallet) : Option Tables :=
  if (t.wallet? w.id).isSome || (t.walletOf? w.userId w.currency).isSome then none
  else some { t with wallets := t.wallets ++ [w] }

/-- The wallets with one balance changed at a moment. -/
def setBalance (t : Tables) (id : String) (balance : Nat) (now : Moment) : Tables :=
  { t with wallets := t.wallets.map fun w =>
      if w.id == id then { w with balance, updatedAt := now } else w }

/-- The transactions with a new row, if the constraints allow it. -/
def insertTransaction? (t : Tables) (x : Transaction) : Option Tables :=
  if t.transactions.any fun y => y.id == x.id || y.reference == x.reference then none
  else some { t with transactions := t.transactions ++ [x] }

/-- The identifier of the next activity: one above the largest. -/
def nextActivityId (t : Tables) : Nat := (t.activities.map (·.id)).foldl max 0 + 1

/-- The activities with a new row. -/
def insertActivity (t : Tables) (row : Nat → Activity) : Tables :=
  { t with activities := t.activities ++ [row t.nextActivityId] }

end Tables

end CurrencyLedger
