import CurrencyLedger.Http.Listings
import CurrencyLedger.Http.Orders
import CurrencyLedger.Http.Preflight
import CurrencyLedger.Http.Route

/-!
The service.

A browser's question is answered at once. Any other request is routed, its body is read, its sender
is authenticated, its parts are validated, and only then is it counted and carried out, in this
order; the first step that does not succeed answers.
-/

namespace CurrencyLedger.Http

/-- Whole seconds since the start, never negative. -/
def uptimeSeconds (r : Request) : Value := .int (max 0 r.uptime.floor)

/-- The service is up, and says its name if that can be written. -/
def health (c : Configuration) (r : Request) : Answer :=
  if c.appName.isWritable then .ok <| .object
    [("status", .text "ok"), ("uptime_seconds", uptimeSeconds r), ("service", c.appName)]
  else .unforeseen

/-- The service is up and reaches its database. -/
def readiness (r : Request) : Answer :=
  if r.poolBusy then busy
  else if r.databaseDown then
    ⟨503, .document (.object
      [("detail", .text "database_unavailable"), ("status", .text "not_ready")])⟩
  else .ok (.object [("status", .text "ready"), ("uptime_seconds", uptimeSeconds r)])

/-- Answers a request to an endpoint. -/
def answerAt (c : Configuration) (r : Request) : Endpoint → Handler Answer
  | .root => pure (.ok (.object [("status", .text "ok")]))
  | .health => pure (health c r)
  | .readiness => pure (readiness r)
  | .wallets => listWallets r
  | .fund => withBody r (fund c r)
  | .convert => withBody r (convert c r)
  | .trade => withBody r (trade c r)
  | .fundUser => withBody r (fundUser c r)
  | .transactions => listTransactions r
  | .transaction id => showTransaction r id
  | .activities => listActivities r
  | .allTransactions => listAllTransactions r
  | .allWallets => listAllWallets r
  | .manual => pure ⟨200, .plain ""⟩

/-- Answers a request. -/
def handle (c : Configuration) (r : Request) : Handler Answer :=
  match preflight? c r with
  | some a => pure a
  | none => match route r.method r.target.path with
    | .endpoint e => answerAt c r e
    | .otherMethod => pure (.detail 405 "Method Not Allowed")
    | .redirect => pure ⟨307, .plain ""⟩
    | .nowhere => pure (.detail 404 "Not Found")

/-- The answer without its body, if the method asks for none. -/
def trimBody (method : String) (a : Answer) : Answer :=
  if method = "HEAD" then { a with body := .plain "" } else a

/-- The answer to a request, and the service after it. -/
def serve (c : Configuration) (r : Request) (s : Service) : Answer × Service :=
  match (handle c r).on s with
  | (.ok a, t) => (trimBody r.method a, t)
  | (.error a, t) => (trimBody r.method a, t)

end CurrencyLedger.Http
