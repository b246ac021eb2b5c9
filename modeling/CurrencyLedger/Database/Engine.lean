import CurrencyLedger.Database.Address
import CurrencyLedger.Value.Basic

/-!
How a database is opened.

The address decides: which driver is asked for, which arguments its connections get, and whether
there is a pool of them. A pool is never smaller, and never gives up sooner, than it has to be for
requests to be served side by side.
-/

namespace CurrencyLedger.Database

/-- The drivers for the server that are installed, by generation. -/
structure Drivers where
  second : Bool
  third : Bool
  deriving DecidableEq, Repr

/-- The beginning of an address that names no driver. -/
def plainBeginning : String := "postgresql://"

/-- The beginning of an address that names the driver of the third generation. -/
def thirdBeginning : String := "postgresql+psycopg://"

/-- The address with a driver named, if it names none and only the third generation is installed. -/
def resolve (drivers : Drivers) (address : String) : String :=
  if Text.beginsWith plainBeginning address && !drivers.second && drivers.third then
    thirdBeginning ++ String.ofList (address.toList.drop plainBeginning.length)
  else address

/-- Hosts whose connections need no encryption. -/
def nearHosts : List String := ["localhost", "127.0.0.1", "db"]

/-- The arguments that keep a connection alive. -/
def keepAlive : List (String × Value) :=
  [("keepalives", .int 1), ("keepalives_idle", .int 30), ("keepalives_interval", .int 10),
    ("keepalives_count", .int 5)]

/-- The arguments of a connection to a file: any thread may use it, and a lock is waited for. -/
def fileArguments : List (String × Value) :=
  [("check_same_thread", .bool false), ("timeout", .int 30)]

/-- The arguments of the connections to an address. -/
def connectArguments (address : String) : Except Failure (List (String × Value)) := do
  let a ← Address.read address
  if Text.beginsWith "sqlite" a.scheme then return fileArguments
  else if !Text.beginsWith "postgresql" a.scheme then return []
  else if a.host.any nearHosts.contains then return keepAlive
  else return keepAlive ++ [("sslmode", .text "require")]

/-- What is configured of a pool. -/
structure PoolSettings where
  size : Int := 5
  overflow : Int := 5
  timeout : Int := 15
  recycle : Int := 1200
  prePing : Bool := true
  deriving DecidableEq, Repr

/-- The least connections of a pool. -/
def leastSize : Int := 5

/-- The least connections beyond those of the pool. -/
def leastOverflow : Int := 5

/-- The least seconds for which a connection is waited for. -/
def leastTimeout : Int := 8

/-- The arguments of the pool of an address; only one kind of server has a pool. -/
def poolArguments (address : String) (p : PoolSettings) : List (String × Value) :=
  if Text.beginsWith "postgresql" address then
    [("pool_pre_ping", .bool p.prePing), ("pool_recycle", .int p.recycle),
      ("pool_size", .int (max leastSize p.size)),
      ("max_overflow", .int (max leastOverflow p.overflow)),
      ("pool_timeout", .int (max leastTimeout p.timeout)), ("pool_use_lifo", .bool true)]
  else []

/-- All arguments with which the database at a configured address is opened. -/
def engineArguments (drivers : Drivers) (configured : String) (p : PoolSettings) :
    Except Failure (List (String × Value)) := do
  let address := resolve drivers configured
  let connect ← connectArguments address
  return [("url", .text address)] ++ poolArguments address p
    ++ [("connect_args", .object connect)]

/-- The tables of the ledger, ascending. -/
def tableNames : List String := ["activity_logs", "transactions", "users", "wallets"]

/-- The tables that exist after a start on an empty database. -/
def tablesAfterStart (create reachable : Bool) : List String :=
  if create && reachable then tableNames else []

end CurrencyLedger.Database
