import CurrencyLedger.Http.Handler

/-!
Who sends a request.

A request proves its sender by an access token, whose user has to be known and active. Some
endpoints are for administrators only.
-/

namespace CurrencyLedger.Http

/-- The answer to a request without credentials. -/
def notAuthenticated : Answer := .detail 401 "Not authenticated"

/-- The answer to a request with a token that is not accepted. -/
def invalidToken : Answer := .detail 401 "Invalid token"

/-- The answer to a request of nobody who may send one. -/
def unknownUser : Answer := .detail 401 "User not found or inactive"

/-- The answer to a user who asks for what is an administrator's. -/
def adminRequired : Answer := .detail 403 "Admin access required"

/-- The answer when no connection to the database is free. -/
def busy : Answer := .detail 503 "Service is busy. Please retry in a moment."

/-- Whether a header offers a token, if none that is accepted. -/
def offersToken (header : String) : Bool :=
  match Text.cut ' ' header with
  | (scheme, some token) => Text.asciiLower scheme == "bearer" && token != ""
  | _ => false

/-- The identifier of the user that a request comes from. -/
def senderId (r : Request) (now : Moment) : Except Answer Int :=
  match r.credentials with
  | .absent => .error notAuthenticated
  | .other header => .error (if offersToken header then invalidToken else notAuthenticated)
  | .token t => match t.userId now.sinceEpoch with
    | .ok id => .ok id
    | .error .invalid => .error invalidToken
    | .error (.unforeseen f) => .error (.ofFailure f)

/--
The user that a request comes from, who has to be known and active. A connection is taken only when
the user is looked for.
-/
def authenticate (r : Request) : Handler User := do
  let now ← Handler.act (.read Session.clock)
  match senderId r now with
  | .error a => Handler.stop a
  | .ok id =>
    if r.poolBusy then Handler.stop busy
    else
      match ← Handler.act (Session.query .listRows [id] fun t => t.user? id) with
      | some u => if u.active then return u else Handler.stop unknownUser
      | none => Handler.stop unknownUser

/-- The administrator that a request comes from. -/
def authenticateAdmin (r : Request) : Handler User := do
  let u ← authenticate r
  if u.role = .admin then return u else Handler.stop adminRequired

end CurrencyLedger.Http
