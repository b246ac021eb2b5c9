import CurrencyLedger.Fields
import CurrencyLedger.Settings.WebAddress
import CurrencyLedger.Text.Lowercase
import CurrencyLedger.Validation.Number

/-!
Settings.

The program is configured by environment variables, whose names are compared without regard to case.
Two of them are required; every other setting has a standing value. All faults are reported
together, in the order of the settings.
-/

namespace CurrencyLedger

open CurrencyLedger.Validation

/-- The settings of the program. -/
structure Settings where
  appName : String := "FX Wallet"
  environment : String := "development"
  apiPath : String := "/api/v1"
  logLevel : String := "INFO"
  secretKey : String := ""
  tokenAlgorithm : String := "HS256"
  tokenMinutes : Int := 30
  databaseAddress : String := ""
  poolSize : Int := 5
  poolOverflow : Int := 5
  poolTimeout : Int := 15
  poolRecycle : Int := 1200
  poolPrePing : Bool := true
  ledgerTimeout : Binary64 := Binary64.ofInt 10
  rateProvider : String := "currencyapi"
  staticRates : String := ""
  rateCacheSeconds : Int := 3600
  rateServiceAddress : String := "https://api.currencyapi.com/"
  rateServiceKey : Option String := none
  rateServiceTimeout : Int := 15
  rateLimitEnabled : Bool := true
  walletRateLimit : String := "10/minute"
  allowedOrigins : String := "http://localhost:5173,http://localhost:3000"
  createTables : Bool := false

namespace Settings

/-- A setting: the name of its variable, whether it is required, and how its text is taken in. -/
structure Field where
  name : String
  required : Bool := false
  takeIn : String → Settings → Reading Settings

/-- A setting that is a text. -/
def text (name : String) (set : String → Settings → Settings) : Field :=
  ⟨name, false, fun v s => .ok (set v s)⟩

/-- A setting that is a text and has no standing value. -/
def requiredText (name : String) (set : String → Settings → Settings) : Field :=
  { text name set with required := true }

/-- A setting that is read from its text. -/
def parsed (name : String) (read : String → Reading α) (set : α → Settings → Settings) : Field :=
  ⟨name, false, fun v s => (read v).map (set · s)⟩

/-- All settings, in the order in which faults are reported. -/
def fields : List Field :=
  [text "app_name" fun v s => { s with appName := v },
    text "environment" fun v s => { s with environment := v },
    text "api_v1_prefix" fun v s => { s with apiPath := v },
    text "log_level" fun v s => { s with logLevel := v },
    requiredText "secret_key" fun v s => { s with secretKey := v },
    text "jwt_algorithm" fun v s => { s with tokenAlgorithm := v },
    parsed "access_token_expire_minutes" readIntegerText fun v s => { s with tokenMinutes := v },
    requiredText "database_url" fun v s => { s with databaseAddress := v },
    parsed "db_pool_size" readIntegerText fun v s => { s with poolSize := v },
    parsed "db_max_overflow" readIntegerText fun v s => { s with poolOverflow := v },
    parsed "db_pool_timeout" readIntegerText fun v s => { s with poolTimeout := v },
    parsed "db_pool_recycle" readIntegerText fun v s => { s with poolRecycle := v },
    parsed "db_pool_pre_ping" readTruthText fun v s => { s with poolPrePing := v },
    parsed "ledger_timeout_seconds" readRealText fun v s => { s with ledgerTimeout := v },
    text "fx_provider" fun v s => { s with rateProvider := v },
    text "fx_static_rates" fun v s => { s with staticRates := v },
    parsed "fx_rate_cache_seconds" readIntegerText fun v s => { s with rateCacheSeconds := v },
    parsed "currency_api_base_url" WebAddress.read fun v s => { s with rateServiceAddress := v },
    text "currency_api_key" fun v s => { s with rateServiceKey := some v },
    parsed "currency_api_timeout_seconds" readIntegerText
      fun v s => { s with rateServiceTimeout := v },
    parsed "rate_limit_enabled" readTruthText fun v s => { s with rateLimitEnabled := v },
    text "wallet_rate_limit" fun v s => { s with walletRateLimit := v },
    text "cors_origins" fun v s => { s with allowedOrigins := v },
    parsed "auto_create_tables" readTruthText fun v s => { s with createTables := v }]

/-- The variables by lower-case name; of those that differ only by case the last counts. -/
def lowerCase (environment : List (String × String)) : List (String × String) :=
  environment.foldl (fun vs v => Fields.set (Text.lower v.1) v.2 vs) []

/-- Takes one setting in, or adds its fault to those found so far. -/
def takeField (vars : List (String × String)) (found : Settings × List Issue) (f : Field) :
    Settings × List Issue :=
  match vars.lookup f.name with
  | some v => match f.takeIn v found.1 with
    | .ok s => (s, found.2)
    | .error fault => (found.1, found.2 ++ [⟨[f.name], fault⟩])
  | none => if f.required then (found.1, found.2 ++ [⟨[f.name], .missing⟩]) else found

/-- The settings that an environment gives. -/
def ofEnvironment (environment : List (String × String)) : Checked Settings :=
  match fields.foldl (takeField (lowerCase environment)) ({}, []) with
  | (s, []) => .ok s
  | (_, issues) => .error issues

end Settings

end CurrencyLedger
