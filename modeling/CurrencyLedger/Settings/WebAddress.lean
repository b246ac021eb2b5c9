import CurrencyLedger.Network.HostName
import CurrencyLedger.Validation.Issue

/-!
Web addresses.

An address is read as browsers do: blanks around it are dropped, the scheme is brought to lower case
and the host to its written form, the standing socket number of the scheme is left out, dot segments
of the path are resolved, and characters that may not stand in an address are written by their bytes
in percent notation. Only the two schemes of the web are accepted.
-/

namespace CurrencyLedger.WebAddress

open CurrencyLedger.Network CurrencyLedger.Validation

/-- The schemes that are accepted, and the socket number that each has unless one is given. -/
def schemes : List (String × Nat) := [("http", 80), ("https", 443)]

/-- The other schemes whose addresses have to name a host. -/
def hostedSchemes : List (String × Nat) := [("ftp", 21), ("ws", 80), ("wss", 443)]

/-- Control characters and the space. -/
def isControlOrSpace (c : Char) : Bool := c.toNat ≤ 0x20

/-- What is encoded in a query; a single quote too. -/
def querySet : List Char := '\'' :: Percent.querySet

/-- Divides a text before the first character with a property. -/
def breakAt (p : Char → Bool) (cs : List Char) : List Char × List Char :=
  (cs.takeWhile fun c => !p c, cs.dropWhile fun c => !p c)

/-- The scheme in front of a colon. -/
def readScheme? (cs : List Char) : Option (String × List Char) :=
  match Text.cutList ':' cs with
  | (c :: front, some rest) =>
    if c.isAlpha && front.all (fun c => c.isAlphanum || c == '+' || c == '-' || c == '.') then
      some (String.ofList ((c :: front).map Char.toLower), rest)
    else none
  | _ => none

/-- The name and password before the last at sign of an authority, and the host after it. -/
def splitUser (authority : List Char) : List Char × List Char :=
  match (Text.splitList '@' authority).reverse with
  | host :: rest =>
    (List.intercalate ['@'] rest.reverse, host)
  | [] => ([], [])

/-- The written name and password, with the sign that follows them. -/
def userText (user : List Char) : List Char :=
  match Text.cutList ':' user with
  | (name, password) =>
    let name := Percent.encode Percent.userSet.contains name
    match password.filter (!·.isEmpty) with
    | some p => name ++ ':' :: Percent.encode Percent.userSet.contains p ++ ['@']
    | none => if name.isEmpty then [] else name ++ ['@']

/-- A host in brackets or a name, and what follows it. -/
def splitHost (cs : List Char) : List Char × List Char :=
  match cs with
  | '[' :: rest => match Text.cutList ']' rest with
    | (inside, some after) => ('[' :: inside ++ [']'], after)
    | _ => (cs, [])
  | _ => breakAt (· == ':') cs

/-- The socket number after a host, unless it is the standing one. -/
def readSocket? (standing : Nat) (cs : List Char) : Option (List Char) :=
  match cs with
  | [] => some []
  | ':' :: ds =>
    if ds.isEmpty then some []
    else if !ds.all Char.isDigit then none
    else
      let n := Text.ofDigits (Text.spanDigits ds).1
      if 65535 < n then none
      else some (if n = standing then [] else ':' :: (Text.natText n).toList)
  | _ => none

/-- How many dots a segment holds that holds nothing else; a dot may be in percent notation. -/
def dotCount? : List Char → Option Nat
  | [] => some 0
  | '.' :: rest => (dotCount? rest).map (· + 1)
  | '%' :: '2' :: e :: rest => if e.toLower == 'e' then (dotCount? rest).map (· + 1) else none
  | _ => none

/-- Resolves the dot segments of a path; those before are given in reverse. -/
def resolveDots (done : List (List Char)) : List (List Char) → List (List Char)
  | [] => done.reverse
  | s :: rest =>
    let kept := match dotCount? s with
      | some 1 => done
      | some 2 => done.drop 1
      | _ => s :: done
    if rest.isEmpty && (dotCount? s == some 1 || dotCount? s == some 2) then ([] :: kept).reverse
    else resolveDots kept rest

/-- The written path. -/
def pathText (cs : List Char) : List Char :=
  let cs := cs.map fun c => if c == '\\' then '/' else c
  let segments := resolveDots [] (Text.splitList '/' (cs.drop 1))
  '/' :: Percent.encode Percent.pathSet.contains (List.intercalate ['/'] segments)

/-- The written address after its scheme, if it has a host. -/
def readHosted? (standing : Nat) (cs : List Char) : Option (List Char) := do
  let cs := cs.dropWhile fun c => c == '/' || c == '\\'
  let (authority, rest) := breakAt (fun c => c == '/' || c == '\\' || c == '?' || c == '#') cs
  let (user, place) := splitUser authority
  let (host, after) := splitHost place
  let host ← HostName.read? host
  let socket ← readSocket? standing after
  let (rest, fragment) := breakAt (· == '#') rest
  let (path, query) := breakAt (· == '?') rest
  some <| userText user ++ host ++ socket ++ pathText path
    ++ Percent.encode querySet.contains query
    ++ (fragment.take 1 ++ Percent.encode Percent.fragmentSet.contains (fragment.drop 1))

/-- Whether a host can stand behind a scheme that need not name one. -/
def isOpaqueHost (cs : List Char) : Bool :=
  match cs with
  | '[' :: _ => (HostName.read? cs).isSome
  | cs => cs.all fun c => c == '%' || 0x20 < c.toNat && !HostName.forbidden.contains c

/--
Whether what follows such a scheme can be read: its authority, if there is one, has to be in order.
-/
def isReadable : List Char → Bool
  | '/' :: '/' :: cs =>
    let authority := cs.takeWhile fun c => c != '/' && c != '?' && c != '#'
    let (_, place) := splitUser authority
    let (host, after) := splitHost place
    let named := place.length != authority.length || !after.isEmpty
    isOpaqueHost host && !(host.isEmpty && named) && (readSocket? 0 after).isSome
  | _ => true

/-- Whether the host of a file can be read, or a drive stands in its place. -/
def isReadableFile (cs : List Char) : Bool :=
  let isSlash (c : Char) : Bool := c == '/' || c == '\\'
  match cs with
  | a :: b :: cs =>
    if isSlash a && isSlash b then
      let host := cs.takeWhile fun c => !isSlash c && c != '?' && c != '#'
      match host with
      | [] => true
      | [d, s] => d.isAlpha && (s == ':' || s == '|') || (HostName.read? host).isSome
      | _ => (HostName.read? host).isSome
    else true
  | _ => true

/-- The fault of an address of another scheme: that it is, unless it cannot be read at all. -/
def otherScheme (readable : Bool) : Fault := if readable then .addressScheme else .unreadableAddress

/-- The written form of a web address. -/
def read (s : String) : Reading String :=
  let cs := (Text.trimBy isControlOrSpace s.toList).filter fun c =>
    c != '\t' && c != '\n' && c != '\r'
  match readScheme? cs with
  | none => .error .unreadableAddress
  | some (scheme, rest) => match schemes.lookup scheme, hostedSchemes.lookup scheme with
    | some standing, _ => match readHosted? standing rest with
      | some written => .ok (scheme ++ "://" ++ String.ofList written)
      | none => .error .unreadableAddress
    | none, some standing => .error (otherScheme (readHosted? standing rest).isSome)
    | none, none =>
      .error (otherScheme (if scheme = "file" then isReadableFile rest else isReadable rest))

end CurrencyLedger.WebAddress
