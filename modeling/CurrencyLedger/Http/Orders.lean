import CurrencyLedger.Http.Access
import CurrencyLedger.Http.Payload
import CurrencyLedger.Operation

/-!
Endpoints that move money.

Each one knows its sender before it reads the order in the body, and counts the request before it
carries the order out. An order that has been read is sized by the rate of its pair, whatever else
comes of it; so that rate is asked for here, of a table that the service keeps from one request to
the next. What the operation announces is written down as activities.
-/

namespace CurrencyLedger.Http

open CurrencyLedger.Validation

/-- The answer to a request beyond a limit. -/
def limitExceeded (l : RateLimit) : Answer :=
  ⟨429, .document (.object [("error", .text ("Rate limit exceeded: " ++ l.text))])⟩

/-- The address that requests are counted by; all that have none count as the service's own. -/
def clientAddress (r : Request) : String :=
  match r.client with
  | none => "127.0.0.1"
  | some s => if s = "" then "127.0.0.1" else s

/-- Counts a request, which may be one too many. -/
def countRequest (c : Configuration) (r : Request) : Handler Unit := ExceptT.mk fun s =>
  match c.limits with
  | none => (.ok (), s)
  | some limits =>
    let (exceeded, hits) :=
      s.hits.take r.uptime (clientAddress r) r.target.path (RateLimit.readAll limits)
    match exceeded with
    | none => (.ok (), { s with hits })
    | some l => (.error (limitExceeded l), { s with hits })

/-- The options of an operation that a request asks for. -/
def operationOptions (c : Configuration) (sender : List (String × Value)) : Operation.Options where
  listener := some fun _ => .ok ()
  requestMeta := .object sender
  limit := c.ledgerLimit

/-- The provider of rates that is configured. -/
def rateProvider (c : Configuration) : Handler Rate.Provider :=
  match Rate.Provider.ofSettings c.rates with
  | .ok p => pure p
  | .error f => Handler.stop (.ofFailure f)

/-- What surrounds a provider while a request is answered. -/
def Service.market (s : Service) (r : Request) : Rate.Market Rat :=
  { cache := s.rates, now := r.uptime, replies := [r.rateReply] }

/--
Asks a provider for the rate between two currencies. What it answers is the source of rates for the
operation, and the table that it has asked for is kept.
-/
def askRate (r : Request) (p : Rate.Provider) (ends : String × String) :
    Handler Exchange.RateSource := ExceptT.mk fun s =>
  let asked := (p.rate (.text ends.1) (.text ends.2)).on (s.market r)
  (.ok (Exchange.providerRates p (s.market r)), { s with rates := asked.2.cache })

theorem on_askRate (r : Request) (p : Rate.Provider) (ends : String × String) (s : Service) :
    (askRate r p ends).on s = (.ok (Exchange.providerRates p (s.market r)),
      { s with rates := ((p.rate (.text ends.1) (.text ends.2)).on (s.market r)).2.cache }) := rfl

/-- The currencies of a trade: the one given up, and the one received. -/
def tradeEnds (order : TradeOrder) : String × String :=
  match order.action with
  | .buy => (order.quote, order.base)
  | .sell => (order.base, order.quote)

/-- Adds money to a wallet of the sender. -/
def fund (c : Configuration) (r : Request) (body : Option Value) : Handler Answer := do
  let u ← authenticate r
  let order ← takeOrder FundOrder.read body
  countRequest c r
  let x ← Handler.act <| Operation.fund u.id (.int order.amount) (.text order.currency)
    (operationOptions c r.sender)
  Handler.recordAnnounced
  return .ok x.document

/-- Converts money of the sender. -/
def convert (c : Configuration) (r : Request) (body : Option Value) : Handler Answer := do
  let u ← authenticate r
  let provider ← rateProvider c
  let order ← takeOrder ConvertOrder.read body
  countRequest c r
  let rates ← askRate r provider (order.source, order.target)
  let e ← Handler.act <| Operation.convert rates u.id (.text order.source) (.text order.target)
    (.int order.amount) (operationOptions c r.sender)
  Handler.recordAnnounced
  return .ok e.document

/-- Buys or sells for the sender. -/
def trade (c : Configuration) (r : Request) (body : Option Value) : Handler Answer := do
  let u ← authenticate r
  let provider ← rateProvider c
  let order ← takeOrder TradeOrder.read body
  countRequest c r
  let rates ← askRate r provider (tradeEnds order)
  let (action, e) ← Handler.act <| Operation.trade rates u.id (.text order.base)
    (.text order.quote) (.int order.amount) (.text order.action.text)
    (operationOptions c r.sender)
  Handler.recordAnnounced
  return .ok (Operation.tradeDocument action e)

/-- Adds money to a user's wallet on behalf of an administrator. -/
def fundUser (c : Configuration) (r : Request) (body : Option Value) : Handler Answer := do
  let admin ← authenticateAdmin r
  let order ← takeOrder FundUserOrder.read body
  match ← Handler.act (Session.query .listRows [order.userId] fun t => t.user? order.userId) with
  | none => Handler.stop (.detail 404 "User not found")
  | some u =>
    let x ← Handler.act <| Operation.fund u.id (.int order.amount) (.text order.currency)
      (operationOptions c (r.sender ++ [("admin_id", .int admin.id)]))
    Handler.recordAnnounced
    return .ok x.document

end CurrencyLedger.Http
