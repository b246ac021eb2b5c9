import CurrencyLedger.Http.Handler

/-!
Questions of browsers.

Before a page of another origin sends a request, its browser asks whether it may: by the method
`OPTIONS`, with the origin and the method that the request will have. The question is answered
whatever its path is.
-/

namespace CurrencyLedger.Http

/-- The methods that pages of other origins may use. -/
def openMethods : List String := ["DELETE", "GET", "HEAD", "OPTIONS", "PATCH", "POST", "PUT"]

/-- The answer to a question about an origin and a method. -/
def preflightAnswer (origins : List String) (origin method : String) : Answer :=
  let refused := (if origins.contains origin then [] else ["origin"])
    ++ (if openMethods.contains method then [] else ["method"])
  if refused.isEmpty then ⟨200, .plain "OK"⟩
  else ⟨400, .plain ("Disallowed CORS " ++ String.intercalate ", " refused)⟩

/-- The answer to a request that is such a question. -/
def preflight? (c : Configuration) (r : Request) : Option Answer :=
  if r.method = "OPTIONS" then do
    let origin ← header? r.headers "origin"
    let method ← header? r.headers "access-control-request-method"
    some (preflightAnswer c.origins origin method)
  else none

end CurrencyLedger.Http
