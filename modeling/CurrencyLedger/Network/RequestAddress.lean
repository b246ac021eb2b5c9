import CurrencyLedger.Failure
import CurrencyLedger.Network.HostName

/-!
Addresses of requests.

What a client is asked to reach is brought to one written form before it is sent: the scheme and the
host in lower case, the host in ASCII, the standing socket number of the scheme left out, and what
may not stand in an address in percent notation. A text without a scheme or a host is no full
address; its path is all that is kept of it.
-/

namespace CurrencyLedger.Network

/-- The address of a request: its parts as they are written. -/
structure RequestAddress where
  scheme : List Char
  user : List Char
  host : List Char
  socket : Option Int
  path : List Char
  query : Option (List Char)
  fragment : Option (List Char)
  deriving DecidableEq, Repr

namespace RequestAddress

/-- The most characters of an address. -/
def maxLength : Nat := 65536

/-- The socket number that a scheme has unless one is given. -/
def standingSockets : List (String × Int) :=
  [("ftp", 21), ("http", 80), ("https", 443), ("ws", 80), ("wss", 443)]

/-- A scheme and what follows its colon; it may be empty, or not there at all. -/
def splitScheme (cs : List Char) : List Char × List Char :=
  match Text.cutList ':' cs with
  | (front, some rest) =>
    let isScheme := front.head?.all Char.isAlpha
      && front.all fun c => c.isAlphanum || c == '+' || c == '.' || c == '-'
    if isScheme then (front, rest) else ([], cs)
  | _ => ([], cs)

/-- The part between two slashes and the next of a slash, a question mark and a number sign. -/
def splitAuthority : List Char → List Char × List Char
  | '/' :: '/' :: cs =>
    (cs.takeWhile fun c => c != '/' && c != '?' && c != '#',
      cs.dropWhile fun c => c != '/' && c != '?' && c != '#')
  | cs => ([], cs)

/-- The part before the last at sign, and the part after it. -/
def splitUser (authority : List Char) : List Char × List Char :=
  match (Text.splitList '@' authority).reverse with
  | place :: rest => (List.intercalate ['@'] rest.reverse, place)
  | [] => ([], [])

/-- A host, in brackets up to the last one that closes, and the socket number behind it. -/
def splitHost (place : List Char) : List Char × List Char :=
  let behind := (place.reverse.takeWhile (· != ']')).reverse
  let (host, rest) :=
    if place.head? == some '[' && place.contains ']' then
      (place.take (place.length - behind.length), behind)
    else (place.takeWhile (· != ':'), place.dropWhile (· != ':'))
  (host, if rest.head? == some ':' then rest.drop 1 else rest)

/--
Whether a host looks like an address of the fourth version: so many runs of digits more, with any
character between two of them.
-/
def looksDotted : Nat → List Char → Bool
  | 0, [c] => c.isDigit
  | k + 1, c :: d :: cs =>
    c.isDigit && (looksDotted (k + 1) (d :: cs) || looksDotted k cs)
  | 0, c :: cs => c.isDigit && looksDotted 0 cs
  | _, _ => false

/-- What may stand in a name as it is. -/
def nameSet : List Char := "-._~!$&'()*+,;=\"`\x7b\x7d%|\\".toList

/-- A name in lower case with all else in percent notation. -/
def quoteName (cs : List Char) : List Char :=
  (cs.map Char.toLower).flatMap fun c =>
    if c.isAlphanum || nameSet.contains c then [c] else Percent.char c

/-- The address in brackets, which may have a zone behind a percent sign. -/
def isBracketed (inside : List Char) : Bool :=
  let (address, zone) := Text.cutList '%' inside
  (Ipv6.read? address).isSome && zone.all fun z => !z.isEmpty && !z.contains '%'

/-- The written host. -/
def hostText? (host : List Char) : Option (List Char) :=
  if host.isEmpty then some []
  else if looksDotted 3 host then (Ipv4.readDotted? host).map fun _ => host
  else if host.head? == some '[' && host.getLast? == some ']' then
    if isBracketed (host.drop 1).dropLast then some host else none
  else if HostName.isAscii host then some (quoteName host)
  else HostName.strictText? host

/-- The socket number, unless it is the standing one of the scheme as it was written. -/
def socket? (scheme : List Char) (digits : List Char) : Option (Option Int) :=
  if digits.isEmpty then some none
  else match Text.readInteger (String.ofList digits) with
    | .ok n =>
      some (if standingSockets.lookup (String.ofList scheme) = some n then none else some n)
    | .error _ => none

/-- Resolves the segments of a path that are one dot or two. -/
def resolveDots (segments : List (List Char)) : List (List Char) :=
  (segments.foldl (fun done s =>
    if s == ['.'] then done
    else if s == ['.', '.'] then (if done == [[]] then done else done.drop 1)
    else s :: done) []).reverse

/-- A path without segments of dots. -/
def normalPath (path : List Char) : List Char :=
  let segments := Text.splitList '/' path
  if segments.contains ['.'] || segments.contains ['.', '.'] then
    List.intercalate ['/'] (resolveDots segments)
  else path

/-- A part with the character before it, if it is there. -/
def marked (c : Char) (part : Option (List Char)) : List Char :=
  match part with
  | some cs => c :: cs
  | none => []

/-- The written authority. -/
def authority (a : RequestAddress) : List Char :=
  (if a.user.isEmpty then [] else a.user ++ ['@']) ++ a.host
    ++ marked ':' (a.socket.map fun n => (Text.intText n).toList)

/-- Whether an address has a scheme and a host. -/
def isFull (a : RequestAddress) : Bool := !a.scheme.isEmpty && !a.host.isEmpty

/-- The path from the root on, whether its slash was written or not. -/
def rooted (a : RequestAddress) : List Char := '/' :: a.path.dropWhile (· == '/')

/-- The written address; of one that is not full only the path and the query. -/
def text (a : RequestAddress) : String :=
  if a.isFull then
    String.ofList (a.scheme ++ [':', '/', '/'] ++ a.authority ++ a.path ++ marked '?' a.query
      ++ marked '#' a.fragment)
  else String.ofList (a.rooted ++ marked '?' a.query)

/-- Whether a character is a control of ASCII. -/
def isControl (c : Char) : Bool := c.toNat < 0x20 || c.toNat == 0x7F

/-- The address that a text writes. -/
def read? (s : String) : Option RequestAddress := do
  let cs := s.toList
  if maxLength < cs.length || cs.any isControl then none
  else
    let (scheme, rest) := splitScheme cs
    let (authority, rest) := splitAuthority rest
    let (rest, fragment) := Text.cutList '#' rest
    let (path, query) := Text.cutList '?' rest
    let (user, place) := splitUser authority
    let (host, digits) := splitHost place
    let host ← hostText? host
    let socket ← socket? scheme digits
    let user := Percent.encode Percent.pairSet.contains user
    let isBare := scheme.isEmpty && user.isEmpty && host.isEmpty && socket.isNone
    if isBare && (path.take 2 == ['/', '/'] || path.head? == some ':') then none
    else return {
      scheme := scheme.map Char.toLower
      user, host, socket
      path := Percent.encode Percent.pathSet.contains (if isBare then path else normalPath path)
      query := query.map (Percent.encode Percent.querySet.contains)
      fragment := fragment.map (Percent.encode Percent.fragmentSet.contains) }

/-- The address that a text writes; a text that writes none is refused. -/
def read (s : String) : Except Failure RequestAddress :=
  match read? s with
  | some a => .ok a
  | none => .error .badAddress

end RequestAddress

end CurrencyLedger.Network
