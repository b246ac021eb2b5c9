import CurrencyLedger.Network.Ipv4
import CurrencyLedger.Text.Quoted

/-!
Addresses of the sixth version.

An address is eight groups of two bytes, written in hexadecimal with colons between. One run of zero
groups may be left out, which two colons show, and the last two groups may be written as an address
of the fourth version. The written form leaves the longest run out, the first of equally long ones,
if it has two groups at least.
-/

namespace CurrencyLedger.Network.Ipv6

/-- A group: one to four hexadecimal digits. -/
def readGroup? (cs : List Char) : Option Nat :=
  if cs.isEmpty || 4 < cs.length then none else Ipv4.readDigits? 16 cs

/-- The groups of some parts, of which the last may be dotted. -/
def readParts? : List (List Char) → Option (List Nat)
  | [] => some []
  | [p] => match readGroup? p with
    | some g => some [g]
    | none => (Ipv4.readDotted? p).map fun n => [n / 65536, n % 65536]
  | p :: ps => do
    let g ← readGroup? p
    let gs ← readParts? ps
    some (g :: gs)

/-- Divides a text at two colons. -/
def cutDouble : List Char → Option (List Char × List Char)
  | ':' :: ':' :: cs => some ([], cs)
  | c :: cs => (cutDouble cs).map fun (a, b) => (c :: a, b)
  | [] => none

/-- The groups between single colons; an empty text has none. -/
def readGroups? (cs : List Char) : Option (List Nat) :=
  if cs.isEmpty then some [] else readParts? (Text.splitList ':' cs)

/-- The eight groups of a written address. -/
def read? (cs : List Char) : Option (List Nat) :=
  match cutDouble cs with
  | some (a, b) => do
    let front ← if a.contains '.' then none else readGroups? a
    let back ← readGroups? b
    if front.length + back.length ≤ 7 then
      some (front ++ List.replicate (8 - front.length - back.length) 0 ++ back)
    else none
  | none => (readGroups? cs).filter (·.length == 8)

/-- How many zeros stand at the front. -/
def zeroRun (gs : List Nat) : Nat := (gs.takeWhile (· == 0)).length

/-- The first of the longest runs of zeros: where it begins and how long it is. -/
def longestRun (gs : List Nat) : Nat × Nat :=
  go 0 gs (0, 0)
where
  /-- The run to beat is the best one before a place. -/
  go (place : Nat) : List Nat → Nat × Nat → Nat × Nat
    | [], best => best
    | g :: gs, best =>
      let run := zeroRun (g :: gs)
      go (place + 1) gs (if best.2 < run then (place, run) else best)

/-- Groups with colons between. -/
def groupsText (gs : List Nat) : List Char :=
  List.intercalate [':'] (gs.map fun g => Text.hexText 1 g)

/-- The written address. -/
def text (gs : List Nat) : List Char :=
  let (place, run) := longestRun gs
  if run < 2 then groupsText gs
  else groupsText (gs.take place) ++ [':', ':'] ++ groupsText (gs.drop (place + run))

end CurrencyLedger.Network.Ipv6
