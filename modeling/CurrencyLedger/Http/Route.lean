import CurrencyLedger.Text.Split

/-!
Routes.

A method and a path lead to an endpoint. A path that exists for other methods is told apart from one
that does not exist; one that would exist with or without a slash at its end is redirected there.
-/

namespace CurrencyLedger.Http

/-- What the service can be asked for. -/
inductive Endpoint where
  | root
  | health
  | readiness
  | wallets
  | fund
  | convert
  | trade
  | transactions
  | transaction (id : String)
  | activities
  | allTransactions
  | allWallets
  | fundUser
  /-- The pages that describe the service, which are no part of the ledger. -/
  | manual
  deriving DecidableEq, Repr

namespace Endpoint

/-- The method of an endpoint. -/
def method : Endpoint → String
  | .fund => "POST"
  | .convert => "POST"
  | .trade => "POST"
  | .fundUser => "POST"
  | _ => "GET"

/-- Whether an endpoint answers a method. -/
def accepts (e : Endpoint) (method : String) : Bool :=
  e.method == method || (e == .manual && method == "HEAD")

/-- Where the service's own paths begin. -/
def base : String := "/api/v1"

/-- The endpoints of fixed paths. -/
def fixed : List (String × Endpoint) :=
  [("/", .root), ("/healthz", .health), ("/readyz", .readiness),
    (base ++ "/wallets", .wallets), (base ++ "/wallets/fund", .fund),
    (base ++ "/wallets/convert", .convert), (base ++ "/wallets/trade", .trade),
    (base ++ "/transactions/me", .transactions), (base ++ "/activities/me", .activities),
    (base ++ "/admin/transactions", .allTransactions), (base ++ "/admin/wallets", .allWallets),
    (base ++ "/admin/fund-wallet", .fundUser), ("/openapi.json", .manual), ("/docs", .manual),
    ("/docs/oauth2-redirect", .manual), ("/redoc", .manual)]

/-- Where the paths of single transactions begin. -/
def transactionBase : List Char := (base ++ "/transactions/").toList

/-- The identifier in the path of a single transaction. -/
def transactionId? (path : String) : Option String :=
  let cs := path.toList
  if transactionBase.isPrefixOf cs then
    let id := cs.drop transactionBase.length
    if id.isEmpty || id.contains '/' then none else some (String.ofList id)
  else none

/-- A path without a line break at its end. -/
def dropLineBreak (path : String) : String :=
  match path.toList.reverse with
  | '\n' :: cs => String.ofList cs.reverse
  | _ => path

/-- The endpoint of a path; a fixed one may end in a line break. -/
def ofPath? (path : String) : Option Endpoint :=
  match fixed.lookup (dropLineBreak path) with
  | some e => some e
  | none => (transactionId? path).map .transaction

end Endpoint

/-- Where a method and a path lead. -/
inductive Route where
  | endpoint (e : Endpoint)
  | otherMethod
  | redirect
  | nowhere
  deriving DecidableEq, Repr

/-- The path with its slashes at the end taken away, or with one added if it has none. -/
def toggleSlash (path : String) : String :=
  let cs := path.toList
  if cs.getLast? == some '/' then String.ofList (cs.reverse.dropWhile (· == '/')).reverse
  else path ++ "/"

/-- The route of a method and a path. -/
def route (method path : String) : Route :=
  match Endpoint.ofPath? path with
  | some e => if e.accepts method then .endpoint e else .otherMethod
  | none =>
    if path ≠ "/" ∧ (Endpoint.ofPath? (toggleSlash path)).isSome then .redirect else .nowhere

end CurrencyLedger.Http
