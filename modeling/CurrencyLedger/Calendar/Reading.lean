import CurrencyLedger.Calendar.Moment
import CurrencyLedger.Failure
import CurrencyLedger.Text.Quoted
import CurrencyLedger.Value.Basic

/-!
Reading days and moments.

A day is written as a year, a month and a day, or as a year, a week and a day of the week; either
with hyphens between its parts or without. A moment is a day, one more character and a time of day:
an hour and optionally a minute, a second and a fraction of the last part that is there, with colons
or without; a zone may follow, `Z` or an offset. Times are taken to be universal, whatever zone is
written.

Reading goes in two steps: the form of a text gives numbers, which the calendar and the clock may
still not have. So a text without a form is refused before any number is looked at.
-/

namespace CurrencyLedger.Calendar

/-- Why a text is no day or no moment. -/
inductive Fault where
  /-- It has none of the forms. -/
  | form
  | year (y : Nat)
  | month
  | day
  | hour
  | minute
  | second
  /-- The zone is so many microseconds away from universal time. -/
  | offset (microseconds : Int)
  deriving DecidableEq, Repr

/-- A span as days, seconds and microseconds, of which only the days may be negative. -/
def spanText (microseconds : Int) : String :=
  let seconds := microseconds.fdiv 1000000
  let parts := [("days", seconds.fdiv 86400), ("seconds", seconds.fmod 86400),
    ("microseconds", microseconds.fmod 1000000)]
  ", ".intercalate ((parts.filter (·.2 != 0)).map fun p => p.1 ++ "=" ++ Text.intText p.2)

/-- What is said of a fault of a text. -/
def Fault.message (s : String) : Fault → String
  | .form => "Invalid isoformat string: " ++ Text.quoted s
  | .year y => "year " ++ Text.natText y ++ " is out of range"
  | .month => "month must be in 1..12"
  | .day => "day is out of range for month"
  | .hour => "hour must be in 0..23"
  | .minute => "minute must be in 0..59"
  | .second => "second must be in 0..59"
  | .offset n => "offset must be a timedelta strictly between -timedelta(hours=24) and "
      ++ "timedelta(hours=24), not datetime.timedelta(" ++ spanText n ++ ")."

/-- A reading that names its fault as the failure of a text. -/
def failing (s : String) : Except Fault α → Except Failure α
  | .ok a => .ok a
  | .error f => .error (.badValue (f.message s))

/-! ### Days -/

/-- Refuses numbers that are no day of the calendar. -/
def checkDay (d : Date) : Except Fault Unit :=
  if d.year < 1 ∨ Date.maxYear < d.year then .error (.year d.year)
  else if d.month < 1 ∨ 12 < d.month then .error .month
  else if d.day < 1 ∨ Date.daysInMonth d.year d.month < d.day then .error .day
  else .ok ()

/-- The weekday of the first of January, from Monday as zero on. -/
def firstWeekday (y : Nat) : Nat := Date.daysBeforeYear y % 7

/-- Whether a year has a week 53. -/
def hasLongYear (y : Nat) : Bool :=
  firstWeekday y == 3 || (firstWeekday y == 2 && Date.isLeapYear y)

/-- The days before the Monday of a year's first week, the one that has the fourth of January. -/
def daysBeforeWeeks (y : Nat) : Nat :=
  let n := Date.daysBeforeYear y
  let w := firstWeekday y
  if w ≤ 3 then n - w else n + 7 - w

/--
The numbers of a day of a week, if the year has the week. The weeks of the year 0 have no months,
and the last one of the last year runs into a year that the calendar has not.
-/
def dayOfWeek? (y w d : Nat) : Option Date :=
  if (1 ≤ w ∧ w ≤ 52 ∨ w = 53 ∧ hasLongYear y) ∧ 1 ≤ d ∧ d ≤ 7 then
    if y = 0 then some ⟨1, 0, 1⟩
    else (Date.ofCount? (daysBeforeWeeks y + 7 * (w - 1) + (d - 1))).or
      (some ⟨Date.maxYear + 1, 1, 1⟩)
  else none

/-- What follows a hyphen, if the form has hyphens. -/
def afterHyphen? (hyphens : Bool) (cs : List Char) : Option (List Char) :=
  if !hyphens then some cs
  else match cs with
    | '-' :: rest => some rest
    | _ => none

/-- The numbers of a day at the front of a text; a week without a day ends the text. -/
def readDay? (cs : List Char) : Option Date := do
  let (y, rest) ← Date.readDigits? 4 cs
  let hyphens := rest.head? == some '-'
  let rest := if hyphens then rest.drop 1 else rest
  match rest with
  | 'W' :: rest =>
    let (w, rest) ← Date.readDigits? 2 rest
    if rest.isEmpty then dayOfWeek? y w 1
    else
      let (d, _) ← Date.readDigits? 1 (← afterHyphen? hyphens rest)
      dayOfWeek? y w d
  | rest =>
    let (m, rest) ← Date.readDigits? 2 rest
    let (d, _) ← Date.readDigits? 2 (← afterHyphen? hyphens rest)
    return ⟨y, m, d⟩

/-- The sizes in bytes that the forms of a day have. -/
def daySizes : List Nat := [7, 8, 10]

/-- A written day. -/
def readDate (s : String) : Except Fault Date := do
  let cs := s.toList
  match if daySizes.contains s.utf8ByteSize then readDay? cs else none with
  | some d =>
    checkDay d
    return d
  | none => .error .form

/-- The day that a value writes, if one is given. -/
def givenDate? (v : Value) : Except Failure (Option Date) :=
  if !v.given then .ok none
  else match v with
    | .text s => some <$> failing s (readDate s)
    | _ => .error .badKind

/-! ### Times of day -/

/-- The numbers of a time of day. -/
structure TimeOfDay where
  hour : Nat
  minute : Nat := 0
  second : Nat := 0
  microsecond : Nat := 0
  deriving DecidableEq, Repr

namespace TimeOfDay

/-- Refuses numbers that are no time of the clock. -/
def check (t : TimeOfDay) : Except Fault Unit :=
  if 24 ≤ t.hour then .error .hour
  else if 60 ≤ t.minute then .error .minute
  else if 60 ≤ t.second then .error .second
  else .ok ()

/-- Microseconds since midnight. -/
def sinceMidnight (t : TimeOfDay) : Nat :=
  (3600 * t.hour + 60 * t.minute + t.second) * 1000000 + t.microsecond

/-- The time of an hour, a minute and a second, of which the last ones may be missing. -/
def ofParts (parts : List Nat) (microsecond : Nat) : TimeOfDay :=
  ⟨parts.getD 0 0, parts.getD 1 0, parts.getD 2 0, microsecond⟩

end TimeOfDay

/-- The microseconds of a fraction's digits; those after the sixth are dropped. -/
def microseconds (ds : List Nat) : Nat := Text.ofDigits ((ds ++ List.replicate 6 0).take 6)

/-- The characters that may stand before a fraction. -/
def points : List Char := ['.', ',']

/-- A fraction, and whether anything is left over; only after six digits something may be. -/
def readFraction? (cs : List Char) : Option (Nat × Bool) :=
  let (ds, rest) := Text.spanDigits cs
  if !cs.isEmpty && (rest.isEmpty || 6 ≤ ds.length) then some (microseconds ds, !rest.isEmpty)
  else none

/--
Parts of two digits, the fraction after them, and whether anything is left over. The first part
tells whether colons stand between the parts; one character of ASCII at the end is left over,
whatever it is. The fraction needs no point if three parts stand before it.
-/
def readParts? (colons : Option Bool) : Nat → List Char → Option (List Nat × Nat × Bool)
  | 0, cs => (readFraction? cs).map fun (f, more) => ([], f, more)
  | k + 1, cs => match Date.readDigits? 2 cs with
    | none => none
    | some (n, []) => some ([n], 0, false)
    | some (n, [c]) => if c.toNat < 128 then some ([n], 0, true) else none
    | some (n, c :: rest) =>
      let marked := colons.getD (c == ':')
      let next :=
        if marked && c == ':' then readParts? (some marked) k rest
        else if points.contains c then (readFraction? rest).map fun (f, more) => ([], f, more)
        else if marked then none
        else readParts? (some marked) k (c :: rest)
      next.map fun (ns, f, more) => (n :: ns, f, more)

/-- A time of day and whether anything is left over. -/
def readTime? (cs : List Char) : Option (TimeOfDay × Bool) :=
  (readParts? none 3 cs).map fun (ns, f, more) => (.ofParts ns f, more)

/-- The distance of a zone from universal time in microseconds. -/
def readZone? : List Char → Option Int
  | 'Z' :: cs => if cs.isEmpty then some 0 else none
  | sign :: cs => match readTime? cs with
    | some (t, false) => some (Text.signed (sign == '-') t.sinceMidnight)
    | _ => none
  | [] => none

/-- The characters that a zone begins with. -/
def zoneMarks : List Char := ['+', '-', 'Z']

/-- A time of day with a zone, which is zero if none is written. -/
def readZoned? (cs : List Char) : Option (TimeOfDay × Int) :=
  let zone := cs.dropWhile fun c => !zoneMarks.contains c
  match readTime? (cs.takeWhile fun c => !zoneMarks.contains c) with
  | none => none
  | some (t, more) =>
    if zone.isEmpty then (if more then none else some (t, 0))
    else (readZone? zone).map fun z => (t, z)

/-! ### Moments -/

/-- How many characters of a moment are its day. -/
def dayLength (cs : List Char) : Nat :=
  let isDigitAt (i : Nat) : Bool := (cs[i]?).any Char.isDigit
  if cs.length == 7 then 7
  else match cs.drop 4 with
    | '-' :: 'W' :: _ => if cs[8]? == some '-' && !isDigitAt 10 then 10 else 8
    | '-' :: _ => 10
    | 'W' :: _ =>
      let digits := ((cs.drop 7).takeWhile Char.isDigit).length
      if digits < 2 then 7 + digits else if digits % 2 == 1 then 7 else 8
    | _ => 8

/-- The numbers of a moment, and the distance of its zone. -/
def readMomentForm? (cs : List Char) : Option (Date × TimeOfDay × Int) :=
  let k := dayLength cs
  match readDay? (cs.take k), cs.drop k with
  | some d, [] => some (d, ⟨0, 0, 0, 0⟩, 0)
  | some d, _ :: time => (readZoned? time).map fun (t, zone) => (d, t, zone)
  | none, _ => none

/-- Microseconds in a day. -/
def microsecondsInDay : Nat := 86400000000

/-- A bound from a day alone or a moment. -/
def readBound (s : String) : Except Fault Bound := do
  match readMomentForm? s.toList with
  | some (d, t, zone) =>
    if microsecondsInDay ≤ zone.natAbs then .error (.offset zone)
    checkDay d
    t.check
    return ⟨⟨d, t.hour, t.minute, t.second⟩, t.microsecond⟩
  | none => .error .form

/-- A moment in the form that rows keep, if a text writes one. -/
def readMoment? (s : String) : Option Moment := (readBound s).toOption.map (·.moment)

end CurrencyLedger.Calendar
