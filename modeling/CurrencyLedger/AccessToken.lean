import CurrencyLedger.Calendar.Moment
import CurrencyLedger.Calendar.Span
import CurrencyLedger.Value.Integer

/-!
Access tokens.

A token carries claims about its bearer and was signed by whoever issued it. It is accepted if the
signature is the server's own, if every claim that is about the token itself has the form that it
has to have, and if the token is in force. The claim `sub` names the user by the decimal digits of
an identifier.
-/

namespace CurrencyLedger

/-- The claims of a token, and whether the server's key has signed them. -/
structure AccessToken where
  claims : List (String × Value)
  signed : Bool
  deriving Repr

namespace AccessToken

/-- The type of the tokens that give access. -/
def accessType : String := "access"

/-- The moment at which a token ends, in whole seconds since the epoch; a lifetime is a span. -/
def endOf (now : Moment) (lifetime : Int) : Except Failure Int :=
  let t := now.sinceEpoch + lifetime.fdiv Span.second
  match Moment.ofEpoch? t with
  | some _ => .ok t
  | none => .error .integerOverflow

/-- The lifetime to use: one that is given in seconds and not zero, else the standing one. -/
def chooseLifetime (given standingMinutes : Value) : Except Failure Int := do
  let span ← match given with
    | .null => pure 0
    | v => Span.ofValue Span.second v
  if span = 0 then Span.ofValue Span.minute standingMinutes else return span

/-- The claims of a new token for a bearer. -/
def issue (subject role : Value) (now : Moment) (lifetime : Int) :
    Except Failure (List (String × Value)) := do
  let ends ← endOf now lifetime
  return [("sub", .text subject.plain), ("role", role), ("type", .text accessType),
    ("exp", .int ends)]

/-- Why a token is not accepted. -/
inductive Fault where
  /-- It is not valid, whatever the reason. -/
  | invalid
  /-- Looking at it failed in an unforeseen way. -/
  | unforeseen (f : Failure)

/-- A moment claim, if it is there; a text that is no integer makes the token invalid. -/
def momentClaim (name : String) (claims : List (String × Value)) : Except Fault (Option Int) :=
  match claims.lookup name with
  | none => .ok none
  | some v => match v.toInteger with
    | .ok n => .ok (some n)
    | .error (.badValue _) => .error .invalid
    | .error f => .error (.unforeseen f)

/-- Refuses a token if a condition does not hold. -/
def require (b : Bool) : Except Fault Unit := if b then .ok () else .error .invalid

/-- Whether a claim is a text, if it is there. -/
def isTextIfPresent (name : String) (claims : List (String × Value)) : Bool :=
  (claims.lookup name).all Value.isText

/-- Checks the claims that are about the token itself, at a moment. -/
def checkClaims (claims : List (String × Value)) (now : Int) : Except Fault Unit := do
  let _ ← momentClaim "iat" claims
  let starts ← momentClaim "nbf" claims
  require (starts.all (· ≤ now))
  let ends ← momentClaim "exp" claims
  require (ends.all (now ≤ ·))
  require (claims.lookup "aud").isNone
  require (isTextIfPresent "sub" claims)
  require (isTextIfPresent "jti" claims)
  require (claims.lookup "at_hash").isNone

/-- Whether the type of a token gives access. -/
def givesAccess (claims : List (String × Value)) : Bool :=
  match claims.lookup "type" with
  | some (.text s) => s == accessType
  | _ => false

/-- The identifier of the user that an accepted token names. -/
def userId (token : AccessToken) (now : Int) : Except Fault Int := do
  require token.signed
  checkClaims token.claims now
  require (givesAccess token.claims)
  match token.claims.lookup "sub" with
  | some (.text s) => match Text.readInteger s with
    | .ok n => .ok n
    | .error _ => .error .invalid
  | _ => .error .invalid

end AccessToken

end CurrencyLedger
