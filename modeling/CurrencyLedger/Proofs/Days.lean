import CurrencyLedger.Calendar.Moment
import Mathlib.Algebra.Order.Group.Nat
import Mathlib.Tactic.SplitIfs

/-!
Counting days.

A later month begins when all days of the earlier one have passed, and a later year when all days of
the earlier one have: so a later day of the calendar has more days before it, and two days of the
calendar with as many days before them are one. With a time of day that stays below a day, seconds
since the epoch count the same way.
-/

namespace CurrencyLedger

namespace Date

/-- A day that the calendar has. -/
structure OnCalendar (d : Date) : Prop where
  year_pos : 1 ≤ d.year
  year_le : d.year ≤ maxYear
  month_pos : 1 ≤ d.month
  month_le : d.month ≤ 12
  day_pos : 1 ≤ d.day
  day_le : d.day ≤ daysInMonth d.year d.month

instance (d : Date) : Decidable d.OnCalendar :=
  decidable_of_iff ((1 ≤ d.year ∧ d.year ≤ maxYear) ∧ (1 ≤ d.month ∧ d.month ≤ 12) ∧
    1 ≤ d.day ∧ d.day ≤ daysInMonth d.year d.month)
    ⟨fun ⟨⟨hy, hy'⟩, ⟨hm, hm'⟩, hd, hd'⟩ => ⟨hy, hy', hm, hm', hd, hd'⟩,
      fun h => ⟨⟨h.year_pos, h.year_le⟩, ⟨h.month_pos, h.month_le⟩, h.day_pos, h.day_le⟩⟩

/-- The days of a year. -/
def daysInYear (y : Nat) : Nat := if isLeapYear y then 366 else 365

section

variable {y z m n : Nat}

theorem daysBeforeYear_succ (hy : 1 ≤ y) :
    daysBeforeYear (y + 1) = daysBeforeYear y + daysInYear y := by
  obtain ⟨p, rfl⟩ : ∃ p, y = p + 1 := ⟨y - 1, by omega⟩
  have hcenturies : p / 100 ≤ p / 4 := Nat.div_le_div_left (by decide) (by decide)
  -- A year ends a span of four, a hundred or four hundred years if it is divided by that.
  have hfour := @Nat.succ_div p 4
  have hhundred := @Nat.succ_div p 100
  have hfourHundred := @Nat.succ_div p 400
  simp only [daysBeforeYear, daysInYear, isLeapYear, Bool.and_eq_true, Bool.or_eq_true,
    beq_iff_eq, bne_iff_ne, Nat.add_sub_cancel, hfour, hhundred, hfourHundred, ne_eq,
    ← Nat.dvd_iff_mod_eq_zero]
  generalize p / 4 = a at *
  generalize p / 100 = b at *
  generalize p / 400 = c at *
  split_ifs <;> omega

theorem daysBeforeYear_lt (hy : 1 ≤ y) (h : y < z) :
    daysBeforeYear y + daysInYear y ≤ daysBeforeYear z := by
  induction h with
  | refl => exact (daysBeforeYear_succ hy).ge
  | @step z hz ih =>
    have hz : y < z := hz
    rw [daysBeforeYear_succ (by omega)]
    omega

theorem daysBeforeMonth_succ (y : Nat) (hm : 1 ≤ m) :
    daysBeforeMonth y (m + 1) = daysBeforeMonth y m + daysInMonth y m := by
  obtain ⟨k, rfl⟩ : ∃ k, m = k + 1 := ⟨m - 1, by omega⟩
  simp only [daysBeforeMonth, Nat.add_sub_cancel, List.range_succ, List.foldl_append,
    List.foldl_cons, List.foldl_nil]

theorem daysBeforeMonth_lt (y : Nat) (hm : 1 ≤ m) (h : m < n) :
    daysBeforeMonth y m + daysInMonth y m ≤ daysBeforeMonth y n := by
  induction h with
  | refl => exact (daysBeforeMonth_succ y hm).ge
  | @step n hn ih =>
    have hn : m < n := hn
    rw [daysBeforeMonth_succ y (by omega)]
    omega

/-- The twelve months are the year. -/
theorem daysBeforeMonth_thirteen (y : Nat) : daysBeforeMonth y 13 = daysInYear y := by
  cases h : isLeapYear y <;> simp [daysBeforeMonth, daysInMonth, daysInYear, h, List.range_succ]

end

/-- A day comes before another by its year, then by its month, then by its day. -/
def Precedes (a b : Date) : Prop :=
  a.year < b.year ∨ a.year = b.year ∧ (a.month < b.month ∨ a.month = b.month ∧ a.day < b.day)

section

variable {a b : Date}

theorem precedes_trichotomy (a b : Date) : a.Precedes b ∨ a = b ∨ b.Precedes a := by
  rw [Precedes, Precedes, Date.mk.injEq]
  omega

/-- A day lies in its year. -/
theorem OnCalendar.count_lt (h : a.OnCalendar) :
    a.count < daysBeforeYear a.year + daysInYear a.year := by
  have hpast := daysBeforeMonth_lt a.year h.month_pos (Nat.lt_succ_of_le h.month_le)
  rw [daysBeforeMonth_thirteen] at hpast
  have := h.day_le
  have := h.day_pos
  rw [count]
  omega

theorem count_lt_of_precedes (ha : a.OnCalendar) (hb : b.OnCalendar) (h : a.Precedes b) :
    a.count < b.count := by
  have := ha.day_le
  have := ha.day_pos
  have := hb.day_pos
  rcases h with hyear | ⟨hyear, hmonth | ⟨hmonth, hday⟩⟩
  · have hpast := daysBeforeYear_lt ha.year_pos hyear
    have hcount := ha.count_lt
    have : daysBeforeYear b.year ≤ b.count := by
      rw [count]
      omega
    omega
  · have hpast := daysBeforeMonth_lt a.year ha.month_pos hmonth
    rw [count, count, ← hyear]
    omega
  · rw [count, count, ← hyear, ← hmonth]
    omega

/-- Days of the calendar are counted in their order. -/
theorem count_lt_count_iff (ha : a.OnCalendar) (hb : b.OnCalendar) :
    a.count < b.count ↔ a.Precedes b := by
  refine ⟨fun h => ?_, count_lt_of_precedes ha hb⟩
  rcases precedes_trichotomy a b with hab | rfl | hba
  · exact hab
  · omega
  · have := count_lt_of_precedes hb ha hba
    omega

/-- No two days of the calendar have the same number of days before them. -/
theorem count_eq_count_iff (ha : a.OnCalendar) (hb : b.OnCalendar) :
    a.count = b.count ↔ a = b := by
  refine ⟨fun h => ?_, congrArg count⟩
  rcases precedes_trichotomy a b with hab | heq | hba
  · have := count_lt_of_precedes ha hb hab
    omega
  · exact heq
  · have := count_lt_of_precedes hb ha hba
    omega

end

end Date

namespace Moment

/-- Seconds since midnight. -/
def sinceMidnight (m : Moment) : Nat := m.hour * 3600 + m.minute * 60 + m.second

/-- A moment that the calendar and the clock have. -/
structure OnClock (m : Moment) : Prop where
  date : m.date.OnCalendar
  hour : m.hour < 24
  minute : m.minute < 60
  second : m.second < 60

instance (m : Moment) : Decidable m.OnClock :=
  decidable_of_iff (m.date.OnCalendar ∧ m.hour < 24 ∧ m.minute < 60 ∧ m.second < 60)
    ⟨fun ⟨hd, hh, hm, hs⟩ => ⟨hd, hh, hm, hs⟩, fun h => ⟨h.date, h.hour, h.minute, h.second⟩⟩

section

variable {m n : Moment}

theorem OnClock.sinceMidnight_lt (h : m.OnClock) : m.sinceMidnight < 86400 := by
  have := h.hour
  have := h.minute
  have := h.second
  rw [sinceMidnight]
  omega

theorem sinceEpoch_eq (m : Moment) :
    m.sinceEpoch = m.date.sinceEpoch * 86400 + m.sinceMidnight := by
  rw [sinceEpoch, sinceMidnight]
  omega

/-- Moments of one second are one moment. -/
theorem eq_of_sinceEpoch_eq (hm : m.OnClock) (hn : n.OnClock)
    (h : m.sinceEpoch = n.sinceEpoch) : m = n := by
  have hm' := hm.sinceMidnight_lt
  have hn' := hn.sinceMidnight_lt
  rw [sinceEpoch_eq, sinceEpoch_eq, Date.sinceEpoch, Date.sinceEpoch] at h
  have hdate := (Date.count_eq_count_iff hm.date hn.date).1 (by omega)
  have htime : m.sinceMidnight = n.sinceMidnight := by
    rw [hdate] at h
    omega
  obtain ⟨d, h₁, m₁, s₁⟩ := m
  obtain ⟨e, h₂, m₂, s₂⟩ := n
  obtain ⟨-, hh, hmin, hs⟩ := hm
  obtain ⟨-, hh', hmin', hs'⟩ := hn
  simp only [sinceMidnight] at htime hdate hh hh' hmin hmin' hs hs'
  rw [Moment.mk.injEq]
  exact ⟨hdate, by omega, by omega, by omega⟩

end

end Moment

end CurrencyLedger
