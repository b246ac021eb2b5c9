import CurrencyLedger.Text.Numeral

/-!
Names in ASCII letters.

A label with characters beyond ASCII is also written in ASCII alone: its ASCII characters first,
then, after a hyphen, where the others are to be inserted. Each insertion is a distance from the one
before, in digits of a base of 36 whose last digit is told by a threshold; the thresholds adapt to
the distances seen so far.
-/

namespace CurrencyLedger.Network.Punycode

/-- The base of the digits. -/
def base : Nat := 36

/-- The least threshold. -/
def least : Nat := 1

/-- The largest threshold. -/
def most : Nat := 26

/-- The first code point that is inserted. -/
def firstCode : Nat := 128

/-- The bias of the first distance. -/
def firstBias : Nat := 72

/-- The digit of a value. -/
def digit (d : Nat) : Char := Char.ofNat (if d < 26 then 97 + d else 22 + d)

/-- The value of a digit, in any case. -/
def digit? (c : Char) : Option Nat :=
  let c := c.toLower
  if 'a' ≤ c ∧ c ≤ 'z' then some (c.toNat - 97)
  else if c.isDigit then some (c.toNat - 22)
  else none

/-- The threshold of the digit at a place, which counts in steps of the base. -/
def threshold (bias place : Nat) : Nat :=
  if place ≤ bias + least then least
  else if bias + most ≤ place then most
  else place - bias

/-- Shrinks a distance until it is small; the answer is the bias that it makes. -/
def shrink (steps delta : Nat) : Nat → Nat
  | 0 => steps
  | fuel + 1 =>
    if (base - least) * most / 2 < delta then shrink (steps + base) (delta / (base - least)) fuel
    else steps + (base - least + 1) * delta / (delta + 38)

/-- The bias after a distance, when so many characters are there. -/
def adapt (delta count : Nat) (isFirst : Bool) : Nat :=
  let delta := if isFirst then delta / 700 else delta / 2
  let delta := delta + delta / count
  shrink 0 delta (delta.log2 + 1)

/-- The digits of a distance; each one takes a divisor of ten or more off it. -/
def distanceText (bias place q : Nat) : Nat → List Char
  | 0 => []
  | fuel + 1 =>
    let t := threshold bias place
    if q < t then [digit q]
    else digit (t + (q - t) % (base - t))
      :: distanceText bias (place + base) ((q - t) / (base - t)) fuel

/-- What an encoder knows while it goes over a label. -/
structure Progress where
  delta : Nat := 0
  bias : Nat := firstBias
  /-- Characters that are there. -/
  count : Nat
  isFirst : Bool := true
  /-- The digits so far, in reverse. -/
  written : List Char := []

/-- Goes past one code point of the label, looking for a code point. -/
def Progress.pass (wanted : Nat) (p : Progress) (code : Nat) : Progress :=
  if code < wanted then { p with delta := p.delta + 1 }
  else if code = wanted then
    { delta := 0
      bias := adapt p.delta (p.count + 1) p.isFirst
      count := p.count + 1
      isFirst := false
      written := (distanceText p.bias base p.delta (p.delta.log2 + 2)).reverse ++ p.written }
  else p

/-- Inserts all occurrences of the code points that are left, ascending, from a code point on. -/
def insertAll (codes : List Nat) (from_ : Nat) (p : Progress) : List Nat → Progress
  | [] => p
  | wanted :: rest =>
    let p := { p with delta := p.delta + (wanted - from_) * (p.count + 1) }
    let p := codes.foldl (Progress.pass wanted) p
    insertAll codes (wanted + 1) { p with delta := p.delta + 1 } rest

/-- The label in ASCII. -/
def encode (label : List Char) : List Char :=
  let codes := label.map Char.toNat
  let ascii := label.filter fun c => c.toNat < firstCode
  let others := ((codes.filter (firstCode ≤ ·)).mergeSort (· ≤ ·)).eraseDups
  let p := insertAll codes firstCode { count := ascii.length } others
  ascii ++ (if ascii.isEmpty then [] else ['-']) ++ p.written.reverse

/-- A distance at the front of some digits, and the rest. -/
def readDistance? (bias place weight sum : Nat) : List Char → Option (Nat × List Char)
  | [] => none
  | c :: cs => do
    let d ← digit? c
    let t := threshold bias place
    let sum := sum + d * weight
    if d < t then some (sum, cs)
    else readDistance? bias (place + base) (weight * (base - t)) sum cs

/-- Carries insertions out on the code points that are there; every one takes a digit at least. -/
def insertFrom? (code index bias : Nat) (isFirst : Bool) (codes : List Nat) (digits : List Char) :
    Nat → Option (List Nat)
  | 0 => none
  | fuel + 1 =>
    if digits.isEmpty then some codes
    else do
      let (distance, rest) ← readDistance? bias base 1 0 digits
      let count := codes.length + 1
      let index := index + distance
      let code := code + index / count
      let index := index % count
      insertFrom? code (index + 1) (adapt distance count isFirst) false
        (codes.take index ++ code :: codes.drop index) rest fuel

/-- The code points of a label in ASCII. -/
def decode? (label : List Char) : Option (List Nat) :=
  let back := label.reverse
  let digits := (back.takeWhile (· != '-')).reverse
  let ascii := (back.drop (digits.length + 1)).reverse
  insertFrom? firstCode 0 firstBias true (ascii.map Char.toNat) digits (digits.length + 1)

end CurrencyLedger.Network.Punycode
