import CurrencyLedger.Failure
import CurrencyLedger.Network.Folding
import CurrencyLedger.Network.Ipv6

/-!
Addresses of databases.

An address begins with a scheme, which names the kind of server, and may go on with two slashes and
an authority, which names the host. Only these two parts are looked at. An authority with brackets
has to hold an address of the sixth version of the protocol between them, and no character of an
authority may be another way to write one that divides an address.
-/

namespace CurrencyLedger.Database

/-- The scheme of an address and what follows its colon; without one the scheme is empty. -/
def splitScheme (cs : List Char) : List Char × List Char :=
  match Text.cutList ':' cs with
  | (c :: front, some rest) =>
    if c.isAlpha && front.all (fun c => c.isAlphanum || c == '+' || c == '-' || c == '.') then
      ((c :: front).map Char.toLower, rest)
    else ([], cs)
  | _ => ([], cs)

/-- The authority after two slashes; without them it is empty. -/
def authority : List Char → List Char
  | '/' :: '/' :: cs => cs.takeWhile fun c => c != '/' && c != '?' && c != '#'
  | _ => []

/-- The part after the last at sign. -/
def afterUser (authority : List Char) : List Char :=
  ((Text.splitList '@' authority).getLast?).getD []

/--
Whether a text is an address of the sixth version, with a zone behind a percent sign or without.
-/
def isBracketable (cs : List Char) : Bool :=
  let (cs, zone) := Text.cutList '%' cs
  zone.all (!·.isEmpty) && (Network.Ipv6.read? cs).isSome

/-- The fault of brackets without a partner, or in the wrong place. -/
def badBrackets : Failure := .badValue "Invalid IPv6 URL"

/-- The host of an authority and whatever else stands in it, told apart by colon or brackets. -/
def host (place : List Char) : List Char :=
  match Text.cutList '[' place with
  | (_, some inside) => (Text.cutList ']' inside).1
  | _ => (Text.cutList ':' place).1

/-- Checks the brackets of an authority. -/
def checkBrackets (authority : List Char) : Except Failure Unit :=
  let opens := authority.contains '['
  let closes := authority.contains ']'
  if opens != closes then .error badBrackets
  else if !opens then .ok ()
  else
    let place := afterUser authority
    let (before, after?) := Text.cutList '[' place
    let tail := match after? with
      | some inside => ((Text.cutList ']' inside).2).getD []
      | none => []
    let inside := host place
    if after?.isSome && (!before.isEmpty || (!tail.isEmpty && tail.head? != some ':')) then
      .error badBrackets
    else if inside.head? == some 'v' then
      match Text.cutList '.' (inside.drop 1) with
      | (digits, some (_ :: _)) =>
        if !digits.isEmpty && digits.all fun c => c.isDigit || ('a' ≤ c.toLower && c.toLower ≤ 'f')
        then .ok () else .error (.badValue "IPvFuture address is invalid")
      | _ => .error (.badValue "IPvFuture address is invalid")
    else if isBracketable inside then .ok ()
    else if (Network.Ipv4.readDotted? inside).isSome then
      .error (.badValue "An IPv4 address cannot be in brackets")
    else .error (.badValue
      (Text.quoted (String.ofList inside) ++ " does not appear to be an IPv4 or IPv6 address"))

/-- The characters that divide an address. -/
def dividers : List Char := ['/', '?', '#', '@', ':']

/-- Whether a character beyond ASCII is another way to write one that divides an address. -/
def disguisesDivider (c : Char) : Bool :=
  128 ≤ c.toNat && (Network.foldChar? c).any fun cs => cs.any dividers.contains

/-- Refuses an authority that would be divided in another way once its characters are folded. -/
def checkDisguises (authority : List Char) : Except Failure Unit :=
  if authority.any disguisesDivider then
    .error (.badValue ("netloc '" ++ String.ofList authority
      ++ "' contains invalid characters under NFKC normalization"))
  else .ok ()

/-- The parts of an address that matter here. -/
structure Address where
  scheme : String
  host : Option String
  deriving DecidableEq, Repr

/-- A host in lower case, a zone after a percent sign as it is. -/
def lowerHost (cs : List Char) : String :=
  let (name, zone) := Text.cutList '%' cs
  let zone := match zone with
    | some z => '%' :: z
    | none => []
  Text.asciiLower (String.ofList name) ++ String.ofList zone

/-- The scheme and the host of a written address. -/
def Address.read (s : String) : Except Failure Address := do
  let cs := (s.toList.dropWhile fun c => c.toNat ≤ 0x20).filter fun c =>
    c != '\t' && c != '\n' && c != '\r'
  let (scheme, rest) := splitScheme cs
  let authority := authority rest
  checkBrackets authority
  checkDisguises authority
  let name := Database.host (afterUser authority)
  let host := if name.isEmpty then none else some (lowerHost name)
  return { scheme := String.ofList scheme, host }

end CurrencyLedger.Database
