import CurrencyLedger.Network.Folding
import CurrencyLedger.Network.Ipv6
import CurrencyLedger.Network.Label
import CurrencyLedger.Network.Percent
import CurrencyLedger.Network.Punycode
import CurrencyLedger.Text.Lowercase

/-!
Hosts.

A host in an address is a name or an address of one of two versions. A name is brought to ASCII: it
is folded, and each label with other characters is written in the letters of ASCII behind a mark of
four. Two rules exist. The browsers' takes numbers for addresses of the fourth version and most
characters for parts of names; the stricter one takes letters, digits and hyphens and only full
addresses.
-/

namespace CurrencyLedger.Network.HostName

/-- What stands before a label that is written in ASCII for other characters. -/
def mark : List Char := ['x', 'n', '-', '-']

/-- What no host may hold, controls apart. -/
def forbidden : List Char := [' ', '#', '/', ':', '<', '>', '?', '@', '[', '\\', ']', '^', '|', '%']

/-- Whether a character can stand in a name. -/
def isAllowed (c : Char) : Bool := 0x20 < c.toNat && c.toNat != 0x7F && !forbidden.contains c

/-- Whether a text is in ASCII. -/
def isAscii (cs : List Char) : Bool := cs.all fun c => c.toNat < 128

/-- The label that the rest of a marked label stands for, which is folded and needs the mark. -/
def readMarked? (rest : List Char) : Option (List Char) := do
  let label := (← Punycode.decode? rest).map Text.charOf
  if !isAscii label && fold? label == some label && Label.isWellFormed label then some label
  else none

/-- A folded label, and how it is written in ASCII. -/
def readLabel? (label : List Char) : Option (List Char × List Char) :=
  if mark.isPrefixOf label then
    if isAscii label then (readMarked? (label.drop mark.length)).map (·, label) else none
  else if isAscii label then some (label, label)
  else if Label.isWellFormed label then some (label, mark ++ Punycode.encode label)
  else none

/-- A name in ASCII; if any of its labels runs to the left, each has to agree on a direction. -/
def nameText? (cs : List Char) : Option (List Char) := do
  let labels ← (Text.splitList '.' (Text.compose (← fold? cs))).mapM readLabel?
  let agrees := !labels.any (Label.isLeftward ·.1) || labels.all (Label.hasOneDirection ·.1)
  let name := List.intercalate ['.'] (labels.map (·.2))
  if name.isEmpty || !agrees || !name.all isAllowed then none else some name

/-- The written form of a host by the browsers' rule. -/
def read? (cs : List Char) : Option (List Char) :=
  match cs with
  | '[' :: rest =>
    if rest.getLast? == some ']' then
      (Ipv6.read? rest.dropLast).map fun gs => '[' :: Ipv6.text gs ++ [']']
    else none
  | cs => do
    let name ← nameText? (Percent.decode cs)
    if Ipv4.isMeant name then (Ipv4.readLoose? name).map Ipv4.text else some name

/-- The most characters of a label. -/
def maxLabel : Nat := 63

/-- The most characters of a name. -/
def maxName : Nat := 253

/-- Whether the hyphens of a label stand where they may. -/
def hasGoodHyphens (label : List Char) : Bool :=
  label.head? != some '-' && label.getLast? != some '-' && (label.drop 2).take 2 != ['-', '-']

/-- Whether a character may stand in a label by the stricter rule, if only in some places. -/
def isStrict (c : Char) : Bool :=
  isPlain c || c.isDigit || c == '-' || ('a' ≤ c && c ≤ 'z') || joiners.contains c
    || Label.needsPlace c

/-- Whether a label follows the stricter rule as it stands. -/
def isStrictLabel (label : List Char) : Bool :=
  hasGoodHyphens label && label.all isStrict && Label.isWellFormed label
    && Label.placesFit label [] label
    && (!Label.isLeftward label || Label.hasOneDirection label)

/-- The label that the rest of a marked label stands for, if it ends in no hyphen. -/
def strictMarked? (rest : List Char) : Option (List Char) :=
  if rest.isEmpty || rest.getLast? == some '-' then none
  else (Punycode.decode? rest).map (·.map Text.charOf)

/-- A label in ASCII by the stricter rule. -/
def strictLabelText? (label : List Char) : Option (List Char) :=
  let text? :=
    if !isAscii label then
      if isStrictLabel label then some (mark ++ Punycode.encode label) else none
    else if mark.isPrefixOf label then
      if (strictMarked? (label.drop mark.length)).any isStrictLabel then some label else none
    else if isStrictLabel label then some label
    else none
  text?.filter fun t => t.length ≤ maxLabel

/-- A character that separates labels. -/
def isSeparator (c : Char) : Bool := ['.', '\u3002', '\uff0e', '\uff61'].contains c

/-- The labels of a name. -/
def labels (cs : List Char) : List (List Char) :=
  Text.splitList '.' (cs.map fun c => if isSeparator c then '.' else c)

/-- A name in ASCII by the stricter rule; the last of its labels may be empty. -/
def strictText? (cs : List Char) : Option (List Char) := do
  let parts := labels (cs.flatMap Text.lowerChar)
  let trailing := 2 ≤ parts.length && parts.getLast? == some []
  let parts := if trailing then parts.dropLast else parts
  if parts.any List.isEmpty then none
  else
    let texts ← parts.mapM strictLabelText?
    let name := List.intercalate ['.'] texts ++ (if trailing then ['.'] else [])
    if maxName + (if trailing then 1 else 0) < name.length then none else some name

end CurrencyLedger.Network.HostName
