import CurrencyLedger.Binary64.Arithmetic
import CurrencyLedger.Binary64.Text
import CurrencyLedger.Calendar.Moment
import CurrencyLedger.Text.Split
import CurrencyLedger.Validation.Issue

/-!
Reading days leniently.

A query may ask for a day as a date, as a date with a time that is midnight, or as a number of
seconds or milliseconds since the epoch that falls on midnight. Of an integer of milliseconds only
the seconds count; a number with a fraction or an exponent counts to the microsecond.
-/

namespace CurrencyLedger.Validation

open CurrencyLedger.Text

/-- Numbers past this many seconds are milliseconds. -/
def maxSeconds : Nat := 20000000000

/-- Whole seconds and milliseconds of a number of either. -/
def secondsOf (n : Int) : Int × Int :=
  if n.natAbs ≤ maxSeconds then (n, 0) else (n / 1000, n % 1000)

/-- The day at a second since the epoch, which has to be midnight with nothing left over. -/
def dayAt (second : Int) (isWhole : Bool) : Reading Date :=
  match Moment.ofEpoch? second with
  | none => .error .unreadableDate
  | some m =>
    if m.hour == 0 && m.minute == 0 && m.second == 0 && isWhole then .ok m.date
    else .error .timeInDate

/-- The largest integer that is read as one; beyond it numbers are doubles. -/
def maxStamp : Nat := 9223372036854775807

/-- Digits after an optional sign, if they make an integer that is read as one. -/
def readStamp? (cs : List Char) : Option Int :=
  let (negative, digits) := splitSign cs
  if digits.isEmpty || !digits.all Char.isDigit then none
  else
    let n := ofDigits (spanDigits digits).1
    if maxStamp < n then none else some (signed negative n)

/-- Microseconds in a second. -/
def microsecondsInSecond : Int := 1000000

/-- The day at a fractional number of seconds, rounded to the microsecond, a half upward. -/
def dayOfRational (r : Rat) : Reading Date :=
  let whole := r.floor
  let rest := ((r - whole) * microsecondsInSecond + 1 / 2).floor
  let (second, milliseconds) := secondsOf whole
  let micro := rest + milliseconds * 1000
  dayAt (second + micro / microsecondsInSecond) (micro % microsecondsInSecond == 0)

/-- The day at a double of seconds or milliseconds; what is no number counts as the epoch. -/
def dayOfReal (x : Binary64) : Reading Date :=
  match x with
  | .infinite _ => .error .unreadableDate
  | .nan => dayAt 0 true
  | x =>
    let isLong := x.toRat?.any fun r => r < -(maxSeconds : Rat) || (maxSeconds : Rat) < r
    dayOfRational (((if isLong then x.divNat 1000 else x).toRat?).getD 0)

/-- The day that a number writes. -/
def readNumberDay (cs : List Char) : Reading Date :=
  match readStamp? cs with
  | some n => dayAt (secondsOf n).1 true
  | none => match Binary64.readSigned? cs with
    | some x => dayOfReal x
    | none => .error .unreadableDate

/-- The characters that may stand between a date and a time. -/
def joins : List Char := ['T', 't', ' ', '_']

/-- Two digits below a limit after a colon, and what follows them. -/
def readPart? (limit : Nat) : List Char → Option (Nat × List Char)
  | ':' :: cs => (Date.readDigits? 2 cs).filter fun (n, _) => n < limit
  | _ => none

/-- Whether the fraction of a second at the front is zero, and what follows it. -/
def readFraction : List Char → Bool × List Char
  | p :: c :: cs =>
    if (p == '.' || p == ',') && c.isDigit then
      let (ds, rest) := spanDigits (c :: cs)
      ((ds.take 6).all (· == 0), rest)
    else (true, p :: c :: cs)
  | cs => (true, cs)

/--
Whether a time of day is midnight, and what follows it: hours and minutes, and optionally seconds
with a fraction.
-/
def readMidnight? (cs : List Char) : Option (Bool × List Char) := do
  let (h, rest) ← (Date.readDigits? 2 cs).filter fun (h, _) => h < 24
  let (m, rest) ← readPart? 60 rest
  if rest.head? == some ':' then
    let (s, rest) ← readPart? 60 rest
    let (isWhole, rest) := readFraction rest
    return (h == 0 && m == 0 && s == 0 && isWhole, rest)
  else return (h == 0 && m == 0, rest)

/-- The signs before an offset. -/
def offsetSigns : List Char := ['+', '-', '\u2212']

/-- Whether a text is a zone, or empty; an offset has hours and minutes, with or without a colon. -/
def isZone : List Char → Bool
  | [] => true
  | ['Z'] => true
  | ['z'] => true
  | sign :: cs => offsetSigns.contains sign && match Date.readDigits? 2 cs with
    | none => false
    | some (h, rest) =>
      let minutes := if rest.head? == some ':' then rest.drop 1 else rest
      h < 24 && (Date.readDigits? 2 minutes).any fun (m, rest) => m < 60 && rest.isEmpty

/-- The day of a date with a time, which has to be midnight. -/
def readDated? (cs : List Char) : Option (Reading Date) :=
  match Date.read? cs with
  | some (d, []) => some (.ok d)
  | some (d, c :: rest) => match if joins.contains c then readMidnight? rest else none with
    | some (isMidnight, zone) =>
      if isZone zone then some (if isMidnight then .ok d else .error .timeInDate) else none
    | none => none
  | none => none

/-- The day that a text writes. -/
def readDay (s : String) : Reading Date :=
  match readDated? s.toList with
  | some r => r
  | none => readNumberDay s.toList

end CurrencyLedger.Validation
