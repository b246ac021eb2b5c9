import CurrencyLedger.UnitOfWork
import Mathlib.Algebra.Ring.Rat
import Mathlib.Tactic.SplitIfs

/-!
Limits that are numbers.

A limit that is a number stands for a rational number of seconds, whether it was given as an
integer, a double or a decimal, and so does the time that has elapsed. On rational numbers it is
plain what it means that a limit is set, and that it has passed. The doubles and decimals decide
both exactly: nothing is rounded before it is compared.

That a limit has passed is reported with the limit in the message. An integer is written as the
double next to it, so one beyond all doubles cannot be written, and that is reported instead.
-/

namespace CurrencyLedger

namespace Binary64

theorem isZero_iff {x : Binary64} {q : Rat} (h : x.toRat? = some q) :
    x.isZero = true ↔ q = 0 := by
  cases x with
  | finite s m e =>
    cases h
    have hpos := twoTo_pos e.toNat
    have hmantissa : m * twoTo e.toNat = 0 ↔ m = 0 := by
      rw [Nat.mul_eq_zero, or_iff_left hpos.ne']
    have hzero : isZero (.finite s m e) = true ↔ m = 0 := by cases m <;> simp [isZero]
    rw [hzero, ← hmantissa, Rat.mkRat_eq_zero (twoTo_pos _).ne']
    cases s
    · exact Int.natCast_eq_zero.symm
    · exact (Int.neg_eq_zero.trans Int.natCast_eq_zero).symm
  | infinite s => cases h
  | nan => cases h

theorem ratioMagnitude_one_le (n : Nat) : ratioMagnitude n 1 ≤ n.log2 := by
  have h : Nat.log2 1 = 0 := by decide
  rw [ratioMagnitude]
  split <;> simp only [h] <;> omega

/-- A ratio of a small magnitude is next to a finite double. -/
theorem ofRatio_ne_infinite {s t : Bool} {n d : Nat} (h : ratioMagnitude n d ≤ 1022) :
    ofRatio s n d ≠ .infinite t := by
  rw [ofRatio]
  split
  · simp
  · have he : max (ratioMagnitude n d - (mantissaBits - 1)) minExponent ≤ 970 := by
      simp only [mantissaBits, minExponent]
      omega
    generalize max (ratioMagnitude n d - (mantissaBits - 1)) minExponent = e at he
    dsimp only
    -- Rounding up to the next power of two adds one.
    split <;> rw [if_neg (by simp only [maxExponent]; omega)] <;> simp

theorem log2_le {n k : Nat} (h : n < twoTo k) : n.log2 ≤ k - 1 := by
  by_cases hn : n = 0
  · simp [hn]
  · have := (Nat.log2_lt hn).2 h
    omega

/-- Only an integer of at least 1024 bits is next to no finite double. -/
theorem le_of_ofInt?_eq_none {n : Int} (h : ofInt? n = none) : twoTo 1023 ≤ n.natAbs := by
  refine Nat.le_of_not_lt fun hlt => ?_
  have hlog := log2_le hlt
  have hmagnitude := ratioMagnitude_one_le n.natAbs
  rw [ofInt?, ofInt] at h
  split at h
  · rename_i heq
    exact ofRatio_ne_infinite (by omega) heq
  · cases h

end Binary64

theorem Decimal.isZero_iff {d : Decimal} {q : Rat} (h : d.toRat? = some q) :
    d.isZero = true ↔ q = 0 := by
  cases d with
  | finite s c e =>
    cases h
    have hmagnitude : (if 0 ≤ e then ((c * tenTo e.toNat : Nat) : Rat)
        else mkRat c (tenTo (-e).toNat)) = 0 ↔ c = 0 := by
      have hpos := tenTo_pos e.toNat
      split_ifs
      · rw [Rat.natCast_eq_zero_iff, Nat.mul_eq_zero, or_iff_left hpos.ne']
      · rw [Rat.mkRat_eq_zero (tenTo_pos _).ne', Int.natCast_eq_zero]
    have hzero : isZero (.finite s c e) = true ↔ c = 0 := by cases c <;> simp [isZero]
    rw [hzero, ← hmagnitude]
    cases s
    · exact Iff.rfl
    · exact neg_eq_zero.symm
  | infinite s => cases h
  | nan => cases h

namespace TimeLimit

/-- The limit as a number of seconds, if it is one. -/
def seconds? : TimeLimit → Option Rat
  | .whole n => some n
  | .real x => x.toRat?
  | .exact d => d.toRat?
  | _ => none

variable {l : TimeLimit} {q : Rat}

/-- Only zero is no limit. -/
theorem inForce_iff (h : l.seconds? = some q) : l.inForce = true ↔ q ≠ 0 := by
  cases l with
  | whole n =>
    cases h
    simp [inForce]
  | real x => simp [inForce, ← Binary64.isZero_iff h]
  | exact d => simp [inForce, ← Decimal.isZero_iff h]
  | text s => cases h
  | other => cases h

theorem isPast_eq {elapsed : Binary64} {e : Rat} (he : elapsed.toRat? = some e) (q : Rat) :
    isPast elapsed q = decide (q < e) := by
  cases elapsed with
  | finite s m k => simp [isPast, he]
  | infinite s => cases he
  | nan => cases he

/-- Whether the limit has passed is decided by the numbers alone. -/
theorem isPassed_eq (h : l.seconds? = some q) {elapsed : Binary64} {e : Rat}
    (he : elapsed.toRat? = some e) : l.isPassed elapsed = .ok (decide (q < e)) := by
  cases l with
  | whole n =>
    cases h
    rw [isPassed, isPast_eq he]
  | real x =>
    replace h : x.toRat? = some q := h
    cases x with
    | finite s m k =>
      cases elapsed with
      | finite t n j => simp only [isPassed, Binary64.isLess, h, he]
      | infinite t => cases he
      | nan => cases he
    | infinite s => cases h
    | nan => cases h
  | exact d =>
    replace h : d.toRat? = some q := h
    cases d with
    | finite s c k =>
      cases elapsed with
      | finite t n j => simp only [isPassed, h, Option.any_some, isPast_eq he]
      | infinite t => cases he
      | nan => cases he
    | infinite s => cases h
    | nan => cases h
  | text s => cases h
  | other => cases h

/-- What may be reported of a limit that has passed. -/
inductive Reports : TimeLimit → Failure → Prop
  | exceeded {l : TimeLimit} {s : String} (h : l.written = .ok s) :
    Reports l (.ledger (.saying .deadlineExceeded ("Operation exceeded its " ++ s ++ "s deadline")))
  | unwritable {n : Int} (h : Binary64.ofInt? n = none) (hlarge : twoTo 1023 ≤ n.natAbs) :
    Reports (.whole n) .integerOverflow

/-- Only an integer beyond the doubles is not written. -/
theorem reports_failure (h : l.seconds? = some q) : Reports l l.failure := by
  cases hw : l.written with
  | ok s =>
    rw [failure, hw]
    exact .exceeded hw
  | error f =>
    rw [failure, hw]
    cases l with
    | whole n =>
      simp only [written, wholeText] at hw
      split at hw
      · cases hw
      · rename_i hn
        cases hw
        exact .unwritable hn (Binary64.le_of_ofInt?_eq_none hn)
    | real x => cases hw
    | exact d => cases hw
    | text s => cases h
    | other => cases h

end TimeLimit

namespace UnitOfWork

/-- No limit, or a finite number of seconds. -/
def Numeric (limit : Option TimeLimit) : Prop := ∀ l, limit = some l → ∃ q, l.seconds? = some q

/-- A number of seconds that is not zero. -/
def IsSet (limit : Option TimeLimit) : Prop := ∃ l q, limit = some l ∧ l.seconds? = some q ∧ q ≠ 0

/-- A number of seconds that is not zero, of which more have elapsed. -/
def Passed (limit : Option TimeLimit) (elapsed : Rat) : Prop :=
  ∃ l q, limit = some l ∧ l.seconds? = some q ∧ q ≠ 0 ∧ q < elapsed

/-- A failure that reports that the limit has passed. -/
def IsReport (limit : Option TimeLimit) (f : Failure) : Prop := ∃ l, limit = some l ∧ l.Reports f

variable {limit : Option TimeLimit} {elapsed : Binary64} {e : Rat}

/-- Such a report does not come from the database. -/
theorem IsReport.isDatabase_eq_false {f : Failure} (h : IsReport limit f) :
    f.isDatabase = false := by
  obtain ⟨l, -, hreport⟩ := h
  cases hreport <;> rfl

/-- A limit that is set is in force. -/
theorem effective?_of_ne_zero {l : TimeLimit} {q : Rat} (hq : l.seconds? = some q) (hne : q ≠ 0) :
    effective? (some l) = some l := by
  simp [effective?, Option.filter, (TimeLimit.inForce_iff hq).2 hne]

/-- A number that is not set is not. -/
theorem effective?_of_not_isSet (hlimit : Numeric limit) (h : ¬IsSet limit) :
    effective? limit = none := by
  cases limit with
  | none => rfl
  | some l =>
    obtain ⟨q, hq⟩ := hlimit l rfl
    have hzero : l.inForce = false := by
      rw [← Bool.not_eq_true, TimeLimit.inForce_iff hq]
      exact fun hne => h ⟨l, q, rfl, hq, hne⟩
    simp [effective?, Option.filter, hzero]

/-- A limit that has passed is reported. -/
theorem overrun?_of_passed (he : elapsed.toRat? = some e) (h : Passed limit e) :
    ∃ f, overrun? limit elapsed = some f ∧ IsReport limit f := by
  obtain ⟨l, q, rfl, hq, hne, hlt⟩ := h
  refine ⟨l.failure, ?_, l, rfl, TimeLimit.reports_failure hq⟩
  simp [overrun?, effective?_of_ne_zero hq hne, TimeLimit.isPassed_eq hq he, hlt]

/-- One that has not passed is not. -/
theorem overrun?_of_not_passed (hlimit : Numeric limit) (he : elapsed.toRat? = some e)
    (h : ¬Passed limit e) : overrun? limit elapsed = none := by
  by_cases hset : IsSet limit
  · obtain ⟨l, q, rfl, hq, hne⟩ := hset
    have hle : ¬q < e := fun hlt => h ⟨l, q, rfl, hq, hne, hlt⟩
    simp [overrun?, effective?_of_ne_zero hq hne, TimeLimit.isPassed_eq hq he, hle]
  · simp [overrun?, effective?_of_not_isSet hlimit hset]

theorem overrun?_eq_none (hlimit : Numeric limit) (he : elapsed.toRat? = some e) :
    overrun? limit elapsed = none ↔ ¬Passed limit e := by
  refine ⟨fun hnone hpassed => ?_, overrun?_of_not_passed hlimit he⟩
  obtain ⟨f, hf, -⟩ := overrun?_of_passed he hpassed
  rw [hnone] at hf
  cases hf

/-- What does not come from the database is reported as it is. -/
theorem reported_of_not_database {f : Failure} (h : f.isDatabase = false) :
    reported limit elapsed f = f := by
  simp [reported, h]

/-- A failure of the database is blamed on a limit that cancelled a statement or has passed. -/
theorem reported_of_overrun (he : elapsed.toRat? = some e) {f : Failure} (h : f.isDatabase = true)
    (hset : IsSet limit) (hover : isCancelled f = true ∨ Passed limit e) :
    IsReport limit (reported limit elapsed f) := by
  obtain ⟨l, q, rfl, hq, hne⟩ := hset
  have heffective := effective?_of_ne_zero hq hne
  by_cases hcancelled : isCancelled f = true
  · refine ⟨l, rfl, ?_⟩
    simp only [reported, h, heffective, hcancelled, if_true]
    exact TimeLimit.reports_failure hq
  · obtain ⟨g, hg, hreport⟩ := overrun?_of_passed he (hover.resolve_left hcancelled)
    simpa [reported, h, heffective, hcancelled, hg] using hreport

/-- Otherwise nothing of it is told. -/
theorem reported_of_no_overrun (hlimit : Numeric limit) (he : elapsed.toRat? = some e)
    {f : Failure} (h : f.isDatabase = true)
    (hover : ¬(IsSet limit ∧ (isCancelled f = true ∨ Passed limit e))) :
    reported limit elapsed f = .refusal .storageFailure := by
  by_cases hset : IsSet limit
  · have hcancelled : ¬isCancelled f = true := fun hc => hover ⟨hset, .inl hc⟩
    have hnone := overrun?_of_not_passed hlimit he fun hp => hover ⟨hset, .inr hp⟩
    obtain ⟨l, q, rfl, hq, hne⟩ := hset
    simp [reported, h, effective?_of_ne_zero hq hne, hcancelled, hnone]
  · simp [reported, h, effective?_of_not_isSet hlimit hset]

end UnitOfWork

end CurrencyLedger
