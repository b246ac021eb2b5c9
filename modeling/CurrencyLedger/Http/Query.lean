import CurrencyLedger.History.Listing
import CurrencyLedger.Http.Message
import CurrencyLedger.Validation.Day
import CurrencyLedger.Validation.Number

/-!
Parameters of listings.

Every parameter may be left out. One that is given is read, even if it is empty; the issues of all
of them are reported together, in the order in which an endpoint declares them.
-/

namespace CurrencyLedger.Http

open CurrencyLedger.Validation

/-- A parameter that may be left out. -/
def optional (t : Target) (name : String) (read : String → Reading α) : Checked (Option α) :=
  match t.parameter? name with
  | none => .ok none
  | some s => Checked.within "query" (Checked.part name ((read s).map some))

/-- A parameter with a standing value. -/
def parameterOr (t : Target) (name : String) (standing : α) (read : String → Reading α) :
    Checked α :=
  match t.parameter? name with
  | none => .ok standing
  | some s => Checked.within "query" (Checked.part name (read s))

/-- One of the words of a list of choices. -/
def choice (ofText? : String → Option α) (s : String) : Reading α :=
  match ofText? s with
  | some a => .ok a
  | none => .error .notAChoice

/-- A page number. -/
def readPage (s : String) : Reading Int := do atLeast 1 (← readIntegerText s)

/-- A number of rows. -/
def readLimit (most : Int) (s : String) : Reading Int := do between 1 most (← readIntegerText s)

/-- What a listing of transactions is asked for. -/
structure Listing where
  filter : History.Filter
  first : Option Date
  last : Option Date
  page : Int
  limit : Int

namespace Listing

/-- The most rows of a page of transactions. -/
def most : Int := 100

/-- The dates, the page and the number of rows. -/
def readRange (t : Target) (standingLimit : Int) :
    Checked ((Option Date × Option Date) × (Int × Int)) :=
  ((optional t "start_date" readDay).and (optional t "end_date" readDay)).and
    ((parameterOr t "page" 1 readPage).and (parameterOr t "limit" standingLimit (readLimit most)))

/-- The first and last moment that a range of days admits. -/
def withDays (f : History.Filter) (first last : Option Date) : History.Filter :=
  { f with start := first.map Date.start, finish := last.map Date.finish }

/-- A user's own listing. -/
def readOwn (t : Target) (userId : Int) : Checked Listing := do
  let ((kind, flow), (first, last), page, limit) ←
    ((optional t "type" (choice Transaction.Kind.ofText?)).and
      (optional t "flow" (choice Transaction.Flow.ofText?))).and (readRange t 20)
  let filter : History.Filter :=
    { userId := some userId, reference := t.parameter? "reference"
      currency := t.parameter? "currency", kind, flow }
  return { filter := withDays filter first last, first, last, page, limit }

/-- A listing of the transactions of all users. -/
def readAny (t : Target) : Checked Listing := do
  let (userId, (kind, flow, status), (first, last), page, limit) ←
    (optional t "user_id" readIntegerText).and
      (((optional t "type" (choice Transaction.Kind.ofText?)).and
        ((optional t "flow" (choice Transaction.Flow.ofText?)).and
          (optional t "status" (choice Transaction.Status.ofText?)))).and (readRange t 50))
  let filter : History.Filter :=
    { userId, reference := t.parameter? "reference", sessionId := t.parameter? "session_id"
      currency := t.parameter? "currency", kind, flow, status }
  return { filter := withDays filter first last, first, last, page, limit }

end Listing

/-- What a listing of the wallets of all users is asked for. -/
structure WalletListing where
  userId : Option Int
  currency : Option String
  limit : Int

/-- A listing of the wallets of all users. -/
def WalletListing.read (t : Target) : Checked WalletListing := do
  let (userId, limit) ←
    (optional t "user_id" readIntegerText).and (parameterOr t "limit" 100 (readLimit 500))
  return { userId, currency := t.parameter? "currency", limit }

/-- How many activities a user asks for. -/
def readActivityLimit (t : Target) : Checked Int := parameterOr t "limit" 50 (readLimit 200)

end CurrencyLedger.Http
