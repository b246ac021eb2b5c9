import CurrencyLedger.AccessToken
import CurrencyLedger.Http.Target
import CurrencyLedger.Rate.Provider
import CurrencyLedger.Text.Uppercase
import CurrencyLedger.Validation.Issue

/-!
Requests and answers.

A request comes with what its caller says of itself: headers, an address, and perhaps credentials.
An answer is a status and a body, which is a document, a list of issues, or plain text.
-/

namespace CurrencyLedger.Http

open CurrencyLedger.Validation

/-- What a request brings to prove who sends it. -/
inductive Credentials where
  | absent
  /-- A header that holds no token of the server. -/
  | other (header : String)
  | token (t : AccessToken)
  deriving Repr

/-- A request, with the circumstances in which it comes. -/
structure Request where
  method : String := "GET"
  target : Target
  headers : List (String × String) := []
  body : String := ""
  client : Option String := none
  credentials : Credentials := .absent
  /-- Seconds since the service was started. -/
  uptime : Rat := 0
  /-- No connection to the database is free. -/
  poolBusy : Bool := false
  /-- The database does not answer. -/
  databaseDown : Bool := false
  /-- What the online service of rates does if it is asked. -/
  rateReply : Rate.Reply := .unreachable

/-- The first value of a header, whatever the case of its name. -/
def header? (headers : List (String × String)) (name : String) : Option String :=
  (headers.find? fun h => Text.asciiLower h.1 == name).map (·.2)

/-- The address that a request was forwarded for: the first one of the list. -/
def forwardedFor (headers : List (String × String)) : String :=
  Text.trim (Text.cut ',' ((header? headers "x-forwarded-for").getD "")).1

/-- What is kept of the sender of a request. -/
def sender (headers : List (String × String)) (client : Option String) : List (String × Value) :=
  let forwarded := forwardedFor headers
  [("ip", if forwarded = "" then Value.ofText? client else .text forwarded),
    ("user_agent", Value.ofText? (header? headers "user-agent"))]

/-- What is kept of the sender of this request. -/
def Request.sender (r : Request) : List (String × Value) := Http.sender r.headers r.client

/-- The body of an answer. -/
inductive Body where
  | document (v : Value)
  | issues (is : List Issue)
  | plain (s : String)

/-- An answer. -/
structure Answer where
  status : Nat
  body : Body

namespace Answer

/-- A document with the standing status of success. -/
def ok (v : Value) : Answer := ⟨200, .document v⟩

/-- A document that says what is wrong in a word or two. -/
def detail (status : Nat) (s : String) : Answer :=
  ⟨status, .document (.object [("detail", .text s)])⟩

/-- The issues of a request that cannot be understood. -/
def unprocessable (is : List Issue) : Answer := ⟨422, .issues is⟩

/-- A failure that nobody has foreseen. -/
def unforeseen : Answer := ⟨500, .plain "Internal Server Error"⟩

/-- The answer to a request that the ledger refuses. -/
def refused (e : LedgerError) : Answer :=
  ⟨e.kind.status, .document (.object
    [("detail", .object [("message", .text e.message), ("code", .text e.kind.code)])])⟩

/-- The answer to a request that failed. -/
def ofFailure : Failure → Answer
  | .ledger e => refused e
  | _ => unforeseen

/-- Whether an answer says success. -/
def isSuccess (a : Answer) : Bool := 200 ≤ a.status && a.status < 300

end Answer

end CurrencyLedger.Http
