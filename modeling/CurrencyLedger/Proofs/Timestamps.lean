import CurrencyLedger.Proofs.Days
import CurrencyLedger.Proofs.DecimalText
import Mathlib.Tactic.Tauto

/-!
How written times compare.

A row keeps its time as text, and texts are what is compared. All parts of a written time have a
width of their own and the larger ones stand in front, so two such texts compare as the moments do.
A bound is written with six more digits than a row's time: whatever these are, the time that the
rest of them says comes before the bound.
-/

namespace CurrencyLedger

namespace Text

/-! ### Numbers in places -/

section

variable {k m n p q : Nat}

/-- Of two numbers with a front and a back part the front parts are compared first. -/
theorem places_lt_iff (hp : p < k) (hq : q < k) :
    k * m + p < k * n + q ↔ m < n ∨ m = n ∧ p < q := by
  rcases Nat.lt_trichotomy m n with hlt | rfl | hgt
  · have hfront := Nat.mul_le_mul_left k (Nat.succ_le_of_lt hlt)
    rw [Nat.mul_succ] at hfront
    omega
  · omega
  · have hfront := Nat.mul_le_mul_left k (Nat.succ_le_of_lt hgt)
    rw [Nat.mul_succ] at hfront
    omega

theorem places_eq_iff (hp : p < k) (hq : q < k) : k * m + p = k * n + q ↔ m = n ∧ p = q := by
  have hlt := @places_lt_iff k m n p q hp hq
  have hgt := @places_lt_iff k n m q p hq hp
  omega

end

/-! ### Texts in places -/

/-- Texts that begin with as many characters compare by these first. -/
theorem append_lt_append_iff {xs ys us vs : List Char} (h : xs.length = ys.length) :
    xs ++ us < ys ++ vs ↔ xs < ys ∨ xs = ys ∧ us < vs := by
  induction xs generalizing ys with
  | nil =>
    obtain rfl : ys = [] := List.length_eq_zero_iff.1 h.symm
    simp
  | cons x xs ih =>
    cases ys with
    | nil => cases h
    | cons y ys =>
      have hrest := @ih ys (Nat.succ.inj h)
      simp only [List.cons_append, List.cons_lt_cons_iff, List.cons.injEq, hrest]
      tauto

/-- The first digit counts as many times as the others can be written. -/
theorem ofDigitChars_cons_places (c : Char) (ds : List Char) : Nat.ofDigitChars 10 (c :: ds) 0 =
    10 ^ ds.length * (c.toNat - 48) + Nat.ofDigitChars 10 ds 0 := by
  rw [Nat.ofDigitChars_cons, Nat.ofDigitChars_eq_ofDigitChars_zero, Nat.mul_zero, Nat.zero_add]
  rfl

/-- Digits stand for less than the power of ten that they fill. -/
theorem ofDigitChars_lt {ds : List Char} (h : ∀ c ∈ ds, c.isDigit = true) :
    Nat.ofDigitChars 10 ds 0 < 10 ^ ds.length := by
  induction ds with
  | nil => simp
  | cons c ds ih =>
    have hrest := ih fun d hd => h d (List.mem_cons_of_mem c hd)
    have hc := isDigit_iff.1 (h c List.mem_cons_self)
    have hfirst : 10 ^ ds.length * (c.toNat - 48) ≤ 10 ^ ds.length * 9 :=
      Nat.mul_le_mul_left _ (by omega)
    rw [ofDigitChars_cons_places, List.length_cons, Nat.pow_succ]
    omega

/-- As many digits compare as the numbers that they write. -/
theorem digits_lt_iff {xs ys : List Char} (hlength : xs.length = ys.length)
    (hx : ∀ c ∈ xs, c.isDigit = true) (hy : ∀ c ∈ ys, c.isDigit = true) :
    xs < ys ↔ Nat.ofDigitChars 10 xs 0 < Nat.ofDigitChars 10 ys 0 := by
  induction xs generalizing ys with
  | nil =>
    obtain rfl : ys = [] := List.length_eq_zero_iff.1 hlength.symm
    simp
  | cons x xs ih =>
    cases ys with
    | nil => cases hlength
    | cons y ys =>
      have hsame : xs.length = ys.length := Nat.succ.inj hlength
      have hx' := fun d hd => hx d (List.mem_cons_of_mem x hd)
      have hy' := fun d hd => hy d (List.mem_cons_of_mem y hd)
      have hdigit := isDigit_iff.1 (hx x List.mem_cons_self)
      have hdigit' := isDigit_iff.1 (hy y List.mem_cons_self)
      have hchar : x < y ↔ x.toNat < y.toNat := Iff.rfl
      rw [List.cons_lt_cons_iff, ih hsame hx' hy', ofDigitChars_cons_places,
        ofDigitChars_cons_places, hsame,
        places_lt_iff (hsame ▸ ofDigitChars_lt hx') (ofDigitChars_lt hy'), hchar, ← Char.toNat_inj]
      omega

/-- Two texts of one length that compare as two numbers do. -/
structure Collate (s t : String) (m n : Nat) : Prop where
  length : s.length = t.length
  lt_iff : s < t ↔ m < n
  eq_iff : s = t ↔ m = n

namespace Collate

variable {a b c d : String} {k m n p q : Nat}

/-- What stands behind decides only if what stands in front does not. -/
theorem append (hfront : Collate a b m n) (hback : Collate c d p q) (hp : p < k) (hq : q < k) :
    Collate (a ++ c) (b ++ d) (k * m + p) (k * n + q) := by
  refine ⟨?_, ?_, ?_⟩
  · rw [String.length_append, String.length_append, hfront.length, hback.length]
  · rw [places_lt_iff hp hq, ← hfront.lt_iff, ← hfront.eq_iff, ← hback.lt_iff, String.lt_iff,
      String.toList_append, String.toList_append, append_lt_append_iff hfront.length,
      String.toList_inj, ← String.lt_iff, ← String.lt_iff]
  · rw [places_eq_iff hp hq, ← hfront.eq_iff, ← hback.eq_iff]
    constructor
    · intro h
      have hlists := congrArg String.toList h
      rw [String.toList_append, String.toList_append] at hlists
      obtain ⟨hac, hbd⟩ := List.append_inj hlists hfront.length
      exact ⟨String.toList_inj.1 hac, String.toList_inj.1 hbd⟩
    · rintro ⟨rfl, rfl⟩
      rfl

/-- Numbers may be counted in another way that keeps their order. -/
theorem recount (h : Collate a b m n) (hlt : m < n ↔ p < q) (heq : m = n ↔ p = q) :
    Collate a b p q :=
  ⟨h.length, h.lt_iff.trans hlt, h.eq_iff.trans heq⟩

/-- A mark that stands behind both decides nothing. -/
theorem mark (h : Collate a b m n) (s : String) : Collate (a ++ s) (b ++ s) m n := by
  have hsame : Collate s s 0 0 := ⟨rfl, by simp, by simp⟩
  simpa using h.append hsame Nat.one_pos Nat.one_pos

end Collate

section

variable {width m n : Nat}

theorem toList_paddedNat (width n : Nat) : (paddedNat width n).toList =
    List.replicate (width - (Nat.toDigits 10 n).length) '0' ++ Nat.toDigits 10 n := by
  rw [paddedNat, String.toList_ofList]

/-- A number that is not too large for its width fills it. -/
theorem length_paddedNat (hwidth : 0 < width) (hn : n < 10 ^ width) :
    (paddedNat width n).toList.length = width := by
  have hdigits := (Nat.length_toDigits_le_iff (by decide) hwidth).2 hn
  rw [toList_paddedNat, List.length_append, List.length_replicate]
  omega

theorem isDigit_paddedNat : ∀ c ∈ (paddedNat width n).toList, c.isDigit = true := by
  intro c hc
  rw [toList_paddedNat, List.mem_append] at hc
  rcases hc with hc | hc
  · rw [List.eq_of_mem_replicate hc]
    rfl
  · exact Decimal.isDigit_toDigits n c hc

theorem ofDigitChars_paddedNat (width n : Nat) :
    Nat.ofDigitChars 10 (paddedNat width n).toList 0 = n := by
  rw [toList_paddedNat, Nat.ofDigitChars_append, Nat.ofDigitChars_replicate_zero, Nat.mul_zero,
    Nat.ofDigitChars_ten_toDigits]

/-- Numbers of one width compare as they are written. -/
theorem collate_paddedNat (hwidth : 0 < width) (hm : m < 10 ^ width) (hn : n < 10 ^ width) :
    Collate (paddedNat width m) (paddedNat width n) m n := by
  have hlength := (length_paddedNat hwidth hm).trans (length_paddedNat hwidth hn).symm
  refine ⟨hlength, ?_, ?_⟩
  · rw [String.lt_iff, digits_lt_iff hlength isDigit_paddedNat isDigit_paddedNat,
      ofDigitChars_paddedNat, ofDigitChars_paddedNat]
  · constructor
    · intro h
      rw [← ofDigitChars_paddedNat width m, h, ofDigitChars_paddedNat]
    · rintro rfl
      rfl

end

end Text

open Text

/-! ### Days and moments -/

namespace Date

/-- The numbers of a day fill their places. -/
theorem OnCalendar.places {d : Date} (h : d.OnCalendar) :
    d.year < 10 ^ 4 ∧ d.month < 10 ^ 2 ∧ d.day < 10 ^ 2 := by
  have hyear := h.year_le
  have hmonth := h.month_le
  have hday := h.day_le
  rw [maxYear] at hyear
  rw [daysInMonth] at hday
  split_ifs at hday <;> omega

/-- Written days compare as days are counted. -/
theorem collate_text {a b : Date} (ha : a.OnCalendar) (hb : b.OnCalendar) :
    Collate a.text b.text a.count b.count := by
  obtain ⟨hyear, hmonth, hday⟩ := ha.places
  obtain ⟨hyear', hmonth', hday'⟩ := hb.places
  have hyears := collate_paddedNat (by decide) hyear hyear'
  have hmonths := collate_paddedNat (by decide) hmonth hmonth'
  have hdays := collate_paddedNat (by decide) hday hday'
  have hwritten := ((((hyears.mark "-").append hmonths hmonth hmonth').mark "-").append hdays
    hday hday')
  refine hwritten.recount ?_ ?_
  · rw [count_lt_count_iff ha hb, Precedes]
    omega
  · rw [count_eq_count_iff ha hb, Date.mk.injEq]
    omega

end Date

namespace Moment

/-- The numbers of a time of day fill their places. -/
theorem OnClock.places {m : Moment} (h : m.OnClock) :
    m.hour < 10 ^ 2 ∧ m.minute < 10 ^ 2 ∧ m.second < 10 ^ 2 := by
  have hhour := h.hour
  have hminute := h.minute
  have hsecond := h.second
  omega

section

variable {m n : Moment}

/-- Written times of day compare as the seconds since midnight. -/
theorem collate_clockText (hm : m.OnClock) (hn : n.OnClock) :
    Collate m.clockText n.clockText m.sinceMidnight n.sinceMidnight := by
  obtain ⟨hhour, hminute, hsecond⟩ := hm.places
  obtain ⟨hhour', hminute', hsecond'⟩ := hn.places
  have hhours := collate_paddedNat (by decide) hhour hhour'
  have hminutes := collate_paddedNat (by decide) hminute hminute'
  have hseconds := collate_paddedNat (by decide) hsecond hsecond'
  have hwritten := ((((hhours.mark ":").append hminutes hminute hminute').mark ":").append hseconds
    hsecond hsecond')
  have := hm.minute
  have := hm.second
  have := hn.minute
  have := hn.second
  refine hwritten.recount ?_ ?_ <;> rw [sinceMidnight, sinceMidnight] <;> omega

/-- Written moments compare as the seconds of their days. -/
theorem collate_text (hm : m.OnClock) (hn : n.OnClock) : Collate m.text n.text
    (86400 * m.date.count + m.sinceMidnight) (86400 * n.date.count + n.sinceMidnight) :=
  ((Date.collate_text hm.date hn.date).mark " ").append (collate_clockText hm hn)
    hm.sinceMidnight_lt hn.sinceMidnight_lt

theorem text_lt_text_iff (hm : m.OnClock) (hn : n.OnClock) :
    m.text < n.text ↔ m.sinceEpoch < n.sinceEpoch := by
  rw [(collate_text hm hn).lt_iff, sinceEpoch_eq, sinceEpoch_eq, Date.sinceEpoch, Date.sinceEpoch]
  omega

theorem text_eq_text_iff (hm : m.OnClock) (hn : n.OnClock) :
    m.text = n.text ↔ m.sinceEpoch = n.sinceEpoch := by
  rw [(collate_text hm hn).eq_iff, sinceEpoch_eq, sinceEpoch_eq, Date.sinceEpoch, Date.sinceEpoch]
  omega

end

end Moment

/-! ### Bounds -/

namespace Bound

variable {b : Bound} {m : Moment}

theorem text_eq (b : Bound) : b.text = b.moment.text ++ ("." ++ paddedNat 6 b.microsecond) :=
  String.append_assoc

/-- A moment comes before a bound if it is not later than the second of the bound. -/
theorem text_lt_text_iff (h : m.text.length = b.moment.text.length) :
    m.text < b.text ↔ m.text < b.moment.text ∨ m.text = b.moment.text := by
  rw [text_eq, String.lt_iff, ← List.append_nil m.text.toList, String.toList_append,
    append_lt_append_iff h, String.toList_inj, ← String.lt_iff, String.toList_append]
  simp

/-- It comes after the bound if it is later than that second. -/
theorem text_lt_text_iff' (h : m.text.length = b.moment.text.length) :
    b.text < m.text ↔ b.moment.text < m.text := by
  rw [text_eq, String.lt_iff, ← List.append_nil m.text.toList, String.toList_append,
    append_lt_append_iff h.symm, ← String.lt_iff]
  simp

/-- Not before a bound are the moments that are later than its second. -/
theorem text_le_text_iff (hb : b.moment.OnClock) (hm : m.OnClock) :
    b.text ≤ m.text ↔ b.moment.sinceEpoch < m.sinceEpoch := by
  rw [← String.not_lt, text_lt_text_iff (Moment.collate_text hm hb).length,
    Moment.text_lt_text_iff hm hb, Moment.text_eq_text_iff hm hb]
  omega

/-- Not after it are those that are not later. -/
theorem text_le_text_iff' (hb : b.moment.OnClock) (hm : m.OnClock) :
    m.text ≤ b.text ↔ m.sinceEpoch ≤ b.moment.sinceEpoch := by
  rw [← String.not_lt, text_lt_text_iff' (Moment.collate_text hm hb).length,
    Moment.text_lt_text_iff hb hm]
  omega

end Bound

end CurrencyLedger
