import CurrencyLedger.Http.Access
import CurrencyLedger.Http.Query
import CurrencyLedger.Wallets.Resolve

/-!
Endpoints that show rows.

A user sees the rows that are the user's own; an administrator may ask for those of anybody.
-/

namespace CurrencyLedger.Http

/-- The sender's wallets. -/
def listWallets (r : Request) : Handler Answer := do
  let u ← authenticate r
  let ws ← Handler.act (Wallets.list u.id (Value.ofText? (r.target.parameter? "currency")))
  return .ok (.list (ws.map Wallet.document))

/-- One page of a listing. -/
def listingPage (l : Listing) : Handler Answer := do
  if !Date.inOrder l.first l.last then Handler.stop (.detail 400 Date.rangeRefusal)
  else
    let (rows, total) ← Handler.act (History.list (.int l.page) (.int l.limit) (.ok l.filter))
    return .ok <| .object
      [("items", .list (rows.map Transaction.document)), ("total", .int total),
        ("page", .int l.page), ("limit", .int l.limit)]

/-- The sender's transactions. -/
def listTransactions (r : Request) : Handler Answer := do
  let u ← authenticate r
  let l ← Handler.validate (Listing.readOwn r.target u.id)
  listingPage l

/-- One of the sender's transactions. -/
def showTransaction (r : Request) (id : String) : Handler Answer := do
  let u ← authenticate r
  match ← Handler.act (History.get id (some u.id)) with
  | some x => return .ok x.document
  | none => Handler.stop (.detail 404 "Transaction not found")

/-- The transactions of all users. -/
def listAllTransactions (r : Request) : Handler Answer := do
  let _ ← authenticateAdmin r
  let l ← Handler.validate (Listing.readAny r.target)
  listingPage l

/-- Whether a wallet comes before another in the listing of all wallets, or may. -/
def byUserAndCurrency (a b : Wallet) : Bool :=
  a.userId < b.userId || (a.userId == b.userId && a.currency ≤ b.currency)

/-- The wallets that a listing asks for. -/
def selectWallets (userId : Option Int) (currency : Option String) (limit : Int) (t : Tables) :
    List Wallet :=
  let ws := t.wallets.filter fun w => userId.all (w.userId == ·) && currency.all (w.currency == ·)
  (ws.mergeSort byUserAndCurrency).take limit.toNat

/-- The wallets of all users. -/
def listAllWallets (r : Request) : Handler Answer := do
  let _ ← authenticateAdmin r
  let l ← Handler.validate (WalletListing.read r.target)
  let currency ← match l.currency.filter (· != "") with
    | none => pure none
    | some s => Handler.act (some <$> Action.check (Currency.normalize (.text s)))
  let ws ← Handler.act <| Session.query .listRows l.userId.toList
    (selectWallets l.userId currency l.limit)
  return .ok (.list (ws.map Wallet.document))

/-- Whether an activity comes before another in a list, or may: the newest first. -/
def newestActivityFirst (a b : Activity) : Bool :=
  let s := a.date.text
  let t := b.date.text
  t < s || (s == t && b.id ≤ a.id)

/-- The activities of a user, the newest first. -/
def selectActivities (userId : Int) (limit : Int) (t : Tables) : List Activity :=
  ((t.activities.filter (·.userId == some userId)).mergeSort newestActivityFirst).take limit.toNat

/-- The sender's activities. -/
def listActivities (r : Request) : Handler Answer := do
  let u ← authenticate r
  let limit ← Handler.validate (readActivityLimit r.target)
  let rows ← Handler.act (Session.query .listRows [u.id] (selectActivities u.id limit))
  return .ok (.list (rows.map Activity.document))

end CurrencyLedger.Http
