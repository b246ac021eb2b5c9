import CurrencyLedger.Action
import CurrencyLedger.Cache
import CurrencyLedger.Currency
import CurrencyLedger.Network.RequestAddress
import CurrencyLedger.Rate.Table

/-!
Where rates come from.

A provider answers with the units of one currency per unit of another. One kind prices from a fixed
table; the other asks an online service for its table, keeps it for a while in a cache, and asks
again when it has expired. What surrounds a provider, the clock, the cache and the service, is the
`Market`; a provider that only holds a table never looks at it.
-/

namespace CurrencyLedger.Rate

/-- What the service does with a request. -/
inductive Reply where
  | unreachable
  | answered (status : Nat) (body : String)
  deriving Repr

/-- What a provider did towards the service. -/
inductive Contact where
  /-- It opened a connection of its own, with a time limit. -/
  | opened (timeout : Value)
  /-- It asked an address, with a key, for a media type. -/
  | asked (url key accept : String)

/-- What surrounds a provider, on a scale of time. -/
structure Market (τ : Type) where
  cache : Cache τ Table := {}
  now : τ
  /-- What the service will do with the next requests, after which the client takes no more. -/
  replies : List Reply := []
  /-- What was done towards the service, in order. -/
  contacts : List Contact := []

/-- A provider that asks an online service. -/
structure Online where
  baseUrl : String
  apiKey : Value
  timeout : Value
  cacheSeconds : Value
  /-- Whether it opens a connection for each request, rather than use a given one. -/
  opensConnection : Bool

/-- A source of rates. -/
inductive Provider where
  /-- Prices from a table. -/
  | fixed (table : Table)
  /-- Prices from the table of an online service. -/
  | online (service : Online)
  /-- Has no table to price from. -/
  | undefined

/-- The key under which the table is cached. -/
def cacheKey : String := "fx:usd_rates"

/-- The media type asked for. -/
def acceptedType : String := "application/json"

/-- The refusal when the service does not answer, or not with a document. -/
def serviceError : LedgerError := .saying .rateUnavailable "Unknown Provider Error"

/-- A success in HTTP's sense. -/
def isSuccess (status : Nat) : Bool := 200 ≤ status && status < 300

variable {τ : Type} [TimeScale τ]

namespace Market

/-- Surroundings in which nothing has happened yet. -/
def fresh : Market τ := { now := TimeScale.zero }

/-- The cached table, if it has not expired; an expired one is removed. -/
def cachedTable : Action (Market τ) (Option Table) := .of fun m =>
  let (found, cache) := m.cache.get m.now cacheKey
  (.ok found, { m with cache })

/-- Notes what was done towards the service. -/
def note (c : Contact) : Action (Market τ) Unit :=
  .update fun m => { m with contacts := m.contacts ++ [c] }

/-- The service's reply to the next request, if the client takes it. -/
def nextReply : Action (Market τ) Reply := .of fun m =>
  match m.replies with
  | [] => (.error .noReply, m)
  | r :: rest => (.ok r, { m with replies := rest })

end Market

namespace Online

/-- The address of the table. -/
def url (service : Online) : String := service.baseUrl ++ "/v3/latest"

/-- The key as a header: a text in ASCII, or nothing. -/
def keyHeader (service : Online) : Except Failure String :=
  if !service.apiKey.given then .ok ""
  else match service.apiKey with
    | .text s => if Network.HostName.isAscii s.toList then .ok s else .error (.ledger serviceError)
    | .illFormed _ => .error (.ledger serviceError)
    | _ => .error .badKind

/-- Asks the service for its document. Only a full address can be asked. -/
def fetch (service : Online) : Action (Market τ) Value := do
  if service.opensConnection then Market.note (.opened service.timeout)
  let address ← .lift (Network.RequestAddress.read service.url)
  let key ← .lift service.keyHeader
  Market.note (.asked address.text key acceptedType)
  match ← Market.nextReply with
  | .unreachable => .fail (.ledger serviceError)
  | .answered status body =>
    if address.isFull && isSuccess status then
      match Json.readBytes body with
      | .ok payload => return payload
      | .error .tooDeep => .fail .tooDeep
      | .error _ => .fail (.ledger serviceError)
    else .fail (.ledger serviceError)

/-- Stores a table for the service's lifetime. -/
def store (service : Online) (table : Table) : Action (Market τ) Unit := do
  let lifetime ← Action.lift (TimeScale.lifetime service.cacheSeconds)
  .update fun m => { m with cache := m.cache.set m.now cacheKey table lifetime }

/-- The service's table: the cached one while it lives, else a new one. -/
def table (service : Online) : Action (Market τ) Table := do
  match ← Market.cachedTable with
  | some (e :: es) => return e :: es
  | _ =>
    if !service.apiKey.given then .fail (.ledger unavailable)
    else
      let payload ← service.fetch
      match ← Action.lift (Table.ofPayload payload) with
      | [] => .fail (.ledger unavailable)
      | table =>
        service.store table.withDollar
        return table.withDollar

end Online

namespace Provider

/-- The table that a provider prices from. -/
def table : Provider → Action (Market τ) Table
  | .fixed t => pure t
  | .online service => service.table
  | .undefined => .fail .undefinedOperation

/-- Units of `target` per unit of `base`; a currency against itself is one without a table. -/
def rate (p : Provider) (base target : Value) : Action (Market τ) Decimal := do
  let base := Currency.spelling base
  let target := Currency.spelling target
  if base = target then return .one
  else
    let t ← p.table
    .lift (t.quote base target)

end Provider

/-- The settings that choose and configure a provider. -/
structure Settings where
  provider : Value := .text "static"
  staticRates : Value := .text ""
  baseUrl : String := "https://api.currencyapi.com"
  apiKey : Value := .null
  timeoutSeconds : Value := .int 15
  cacheSeconds : Value := .int 3600

/-- What may be given for an online provider in place of its settings. -/
structure OnlineOptions where
  baseUrl : Value := .null
  apiKey : Value := .null
  timeout : Value := .null
  cacheSeconds : Value := .null
  /-- Whether a connection is given too. -/
  connected : Bool := false

/-- The value, or another one if it is null. -/
def orElseNull (v fallback : Value) : Value :=
  match v with
  | .null => fallback
  | v => v

/-- An online provider from options and settings. -/
def Online.configure (settings : Settings) (options : OnlineOptions) : Online where
  baseUrl := Text.dropTrailing '/'
    (if options.baseUrl.given then options.baseUrl.plain else settings.baseUrl)
  apiKey := orElseNull options.apiKey settings.apiKey
  timeout := if options.timeout.given then options.timeout else settings.timeoutSeconds
  cacheSeconds := orElseNull options.cacheSeconds settings.cacheSeconds
  opensConnection := !options.connected

/-- A setting that is used as a text: empty if it is not given, and no other kind will do. -/
def settingText (v : Value) : Except Failure String :=
  if v.given && !v.isText then .error .noSuchPart else .ok v.plainOrEmpty

/-- The provider that the settings name; its name is compared without regard to ASCII case. -/
def Provider.ofSettings (settings : Settings) : Except Failure Provider := do
  let chosen ← settingText settings.provider
  let name := Text.asciiLower (if chosen = "" then "currencyapi" else chosen)
  if name = "static" then
    return .fixed (← Table.ofConfiguration (← settingText settings.staticRates)).withDollar
  else if name = "currencyapi" then return .online (Online.configure settings {})
  else .error (.badValue ("Unsupported FX_PROVIDER: " ++ chosen))

end CurrencyLedger.Rate
