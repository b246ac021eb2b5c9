import CurrencyLedger.Text.Numeral

/-!
Days of the calendar.

A day is a year, a month and a day of the month in the Gregorian calendar, from the year 1 to the
year 9999. Days are counted from the first of January of the year 1, which makes them comparable and
turns a count back into a day.
-/

namespace CurrencyLedger

/-- A day of the calendar. -/
structure Date where
  year : Nat
  month : Nat
  day : Nat
  deriving DecidableEq, Repr, Inhabited

namespace Date

/-- Every fourth year has a leap day, except that of the full centuries only every fourth has. -/
def isLeapYear (y : Nat) : Bool := y % 4 == 0 && (y % 100 != 0 || y % 400 == 0)

/-- The days of a month. -/
def daysInMonth (y m : Nat) : Nat :=
  if m = 2 then (if isLeapYear y then 29 else 28)
  else if m = 4 ∨ m = 6 ∨ m = 9 ∨ m = 11 then 30
  else 31

/-- The last year that is written with four digits. -/
def maxYear : Nat := 9999

/-- A day, if the calendar has it. -/
def of? (y m d : Nat) : Option Date :=
  if 1 ≤ y ∧ y ≤ maxYear ∧ 1 ≤ m ∧ m ≤ 12 ∧ 1 ≤ d ∧ d ≤ daysInMonth y m then some ⟨y, m, d⟩
  else none

/-- The days of all years before one. -/
def daysBeforeYear (y : Nat) : Nat :=
  let p := y - 1
  365 * p + p / 4 - p / 100 + p / 400

/-- The days of the year before one of its months. -/
def daysBeforeMonth (y m : Nat) : Nat :=
  (List.range (m - 1)).foldl (fun n i => n + daysInMonth y (i + 1)) 0

/-- The number of days before this one. -/
def count (d : Date) : Nat := daysBeforeYear d.year + daysBeforeMonth d.year d.month + (d.day - 1)

/-- The day with a number of days before it, if its year has at most four digits. -/
def ofCount? (n : Nat) : Option Date :=
  let guess := n * 400 / 146097
  match [guess + 2, guess + 1, guess].find? fun y => 1 ≤ y && daysBeforeYear y ≤ n with
  | none => none
  | some y =>
    let inYear := n - daysBeforeYear y
    let m := ((List.range 12).map (· + 1)).reverse.find? fun m => daysBeforeMonth y m ≤ inYear
    match m with
    | some m => of? y m (inYear - daysBeforeMonth y m + 1)
    | none => none

/-- Days before the epoch, the first of January 1970. -/
def epochCount : Nat := 719162

/-- Days since the epoch. -/
def sinceEpoch (d : Date) : Int := (d.count : Int) - epochCount

/-- Whether a day comes before another. -/
def isBefore (a b : Date) : Bool := a.count < b.count

/-- Four digits of the year, two of the month and two of the day. -/
def text (d : Date) : String :=
  Text.paddedNat 4 d.year ++ "-" ++ Text.paddedNat 2 d.month ++ "-" ++ Text.paddedNat 2 d.day

/-- A run of exactly `k` ASCII digits at the front, and what follows it. -/
def readDigits? (k : Nat) (cs : List Char) : Option (Nat × List Char) :=
  let ds := cs.take k
  if ds.length = k ∧ ds.all Char.isDigit then
    some (Text.ofDigits (Text.spanDigits ds).1, cs.drop k)
  else none

/-- A written day at the front of a text, and what follows it. -/
def read? (cs : List Char) : Option (Date × List Char) :=
  match readDigits? 4 cs with
  | some (y, '-' :: cs) => match readDigits? 2 cs with
    | some (m, '-' :: cs) => match readDigits? 2 cs with
      | some (d, rest) => (of? y m d).map (·, rest)
      | none => none
    | _ => none
  | _ => none

end Date

end CurrencyLedger
