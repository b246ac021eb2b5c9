import CurrencyLedger.History.Filter
import CurrencyLedger.Store.Session
import CurrencyLedger.Value.Integer

/-!
Listing transactions.

Transactions are listed page by page, the newest first and those of one second by descending
reference.
-/

namespace CurrencyLedger.History

/-- Whether a transaction comes before another in a list, or may. -/
def newestFirst (x y : Transaction) : Bool :=
  let a := x.createdAt.text
  let b := y.createdAt.text
  b < a || (a == b && y.reference ≤ x.reference)

/-- The transactions that pass a filter, in the order of a list. -/
def select (f : Filter) (t : Tables) : List Transaction :=
  (t.transactions.filter f.admits).mergeSort newestFirst

/-- The rows of a page when none are asked for. -/
def standingLimit : Int := 20

/-- The most rows of a page. -/
def maxLimit : Int := 100

/-- A page number of at least one. -/
def clampPage (page : Int) : Int := max 1 page

/-- A number of rows between one and the most. -/
def clampLimit (limit : Int) : Int := min maxLimit (max 1 limit)

/-- The integer that a value stands for, or a standing one if none is given. -/
def wholeNumberOr (standing : Int) (v : Value) : Except Failure Int :=
  if v.given then v.toInteger else .ok standing

/--
One page of the transactions that pass a filter, and how many pass it altogether. A filter that
cannot be made is refused after the page and the number of rows were read.
-/
def list (page limit : Value) (filter : Except Failure Filter) :
    Action Session (List Transaction × Nat) := do
  let page ← .lift (clampPage <$> wholeNumberOr 1 page)
  let limit ← .lift (clampLimit <$> wholeNumberOr standingLimit limit)
  let f ← .lift filter
  let total ← Session.query .listRows f.userId.toList fun t =>
    (t.transactions.filter f.admits).length
  let offset := (page - 1) * limit
  let rows ← Session.query .listRows (offset :: f.userId.toList) fun t =>
    ((select f t).drop offset.toNat).take limit.toNat
  return (rows, total)

/-- The transaction of an identifier, if it is the given user's. -/
def get (id : String) (userId : Option Int) : Action Session (Option Transaction) :=
  Session.query .listRows userId.toList fun t =>
    t.transactions.find? fun x => x.id == id && userId.all (x.userId == ·)

/-- The transaction that a value identifies, if it is the user's that another value does. -/
def getBy (id user : Value) : Action Session (Option Transaction) := do
  .lift (Filter.requireBindable id)
  .lift (Filter.requireBindable user)
  let f := Filter.withUser user {}
  match Column.text? id with
  | some id =>
    let x ← get id f.userId
    return if f.isHopeless then none else x
  | none => return none

end CurrencyLedger.History
