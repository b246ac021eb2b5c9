import CurrencyLedger.Network.RequestAddress

/-!
Targets of requests.

A target is a path and, after a question mark, a query of named parameters. It is taken from the
address that is asked for, whatever host that names; dot segments of the path are resolved. In both
parts, a percent sign and two hexadecimal digits stand for a byte, in a path twice over; in a query
a plus sign stands for a space. A parameter that is given twice counts with its last value, and one
without an equals sign is empty.
-/

namespace CurrencyLedger.Http

/-- A text without percent notation. -/
def unescape (s : String) : String := String.ofList (Network.Percent.decode s.toList)

/-- A text of a query without its notation. -/
def unescapeQuery (s : String) : String :=
  unescape (String.ofList (s.toList.map fun c => if c == '+' then ' ' else c))

/-- A path and the parameters of a query. -/
structure Target where
  path : String
  query : List (String × String)
  deriving DecidableEq, Repr

namespace Target

/-- One parameter. -/
def readParameter (s : String) : String × String :=
  let (name, value) := Text.cut '=' s
  (unescapeQuery name, unescapeQuery (value.getD ""))

/-- The parameters of a query. -/
def readQuery (s : String) : List (String × String) :=
  ((Text.split '&' s).filter (· != "")).map readParameter

/-- The path of an address that is asked of the service, without its notation. -/
def servedPath (a : Network.RequestAddress) : String :=
  let path := if a.isFull then a.path else Network.RequestAddress.normalPath a.rooted
  unescape (unescape (String.ofList (if path.isEmpty then ['/'] else path)))

/-- The target that a text writes; what follows a number sign is no part of it. -/
def read (s : String) : Except Failure Target := do
  let a ← Network.RequestAddress.read s
  return { path := servedPath a, query := readQuery (String.ofList (a.query.getD [])) }

/-- The last value of a parameter. -/
def parameter? (t : Target) (name : String) : Option String := t.query.reverse.lookup name

end Target

end CurrencyLedger.Http
