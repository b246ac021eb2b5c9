import CurrencyLedger.Calendar.Date

/-!
Moments and bounds.

A `Moment` is what the ledger's clock shows and what its rows record: a day and a time of day to the
second, in universal time. A `Bound` limits a range of moments and is finer, to the microsecond.
Rows keep moments as text, and a bound is compared with that text as text: since a bound is always
written with six more digits, a moment in the very second of a bound counts as before it.
-/

namespace CurrencyLedger

/-- A day and a time of day, in universal time. -/
structure Moment where
  date : Date
  hour : Nat
  minute : Nat
  second : Nat
  deriving DecidableEq, Repr, Inhabited

namespace Moment

/-- Two digits each of the hour, the minute and the second. -/
def clockText (m : Moment) : String :=
  Text.paddedNat 2 m.hour ++ ":" ++ Text.paddedNat 2 m.minute ++ ":" ++ Text.paddedNat 2 m.second

/-- The form that rows keep. -/
def text (m : Moment) : String := m.date.text ++ " " ++ m.clockText

/-- The form that answers show. -/
def isoText (m : Moment) : String := m.date.text ++ "T" ++ m.clockText

/-- Seconds since the epoch. -/
def sinceEpoch (m : Moment) : Int :=
  m.date.sinceEpoch * 86400 + m.hour * 3600 + m.minute * 60 + m.second

/-- A moment, if the clock has it. -/
def of? (d : Date) (h m s : Nat) : Option Moment :=
  if h < 24 ∧ m < 60 ∧ s < 60 then some ⟨d, h, m, s⟩ else none

/-- The moment at a number of seconds since the epoch. -/
def ofEpoch? (n : Int) : Option Moment :=
  let days := n / 86400 + Date.epochCount
  let t := (n % 86400).toNat
  if 0 ≤ days then
    (Date.ofCount? days.toNat).map fun d => ⟨d, t / 3600, t / 60 % 60, t % 60⟩
  else none

end Moment

/-- The limit of a range of moments. -/
structure Bound where
  moment : Moment
  microsecond : Nat
  deriving DecidableEq, Repr, Inhabited

namespace Bound

/-- The form in which a bound meets the text of a row: always with its microseconds. -/
def text (b : Bound) : String := b.moment.text ++ "." ++ Text.paddedNat 6 b.microsecond

/-- The form that answers show, with the offset of universal time. -/
def isoText (b : Bound) : String :=
  b.moment.isoText ++ (if b.microsecond = 0 then "" else "." ++ Text.paddedNat 6 b.microsecond)
    ++ "+00:00"

/-- Whether a row's moment is not before the bound, as texts compare. -/
def admitsFrom (b : Bound) (m : Moment) : Bool := b.text ≤ m.text

/-- Whether a row's moment is not after the bound, as texts compare. -/
def admitsTo (b : Bound) (m : Moment) : Bool := m.text ≤ b.text

end Bound

namespace Date

/-- The first microsecond of a day. -/
def start (d : Date) : Bound := ⟨⟨d, 0, 0, 0⟩, 0⟩

/-- The last microsecond of a day. -/
def finish (d : Date) : Bound := ⟨⟨d, 23, 59, 59⟩, 999999⟩

/-- What is said of a range of days that ends before it starts. -/
def rangeRefusal : String := "end_date must be on or after start_date"

/-- Whether a range of days is in order; an open one always is. -/
def inOrder (first last : Option Date) : Bool :=
  match first, last with
  | some a, some b => !b.isBefore a
  | _, _ => true

end Date

end CurrencyLedger
