import CurrencyLedger.Proofs.Sizing
import Mathlib.Algebra.Order.Field.Basic
import Mathlib.Algebra.Order.Field.Power
import Mathlib.Algebra.Order.Field.Rat
import Mathlib.Data.Nat.Cast.Field
import Mathlib.Data.Nat.Cast.Order.Field
import Mathlib.Tactic.FieldSimp
import Mathlib.Tactic.Linarith
import Mathlib.Tactic.NormNum
import Mathlib.Tactic.Ring

/-!
How far rounding goes.

A quotient of natural numbers is rounded to one of its two neighbours, so to the nearest one it is
at most a half away. On this rest a coefficient that loses digits, and a result of arithmetic, which
is rounded once: it is off by at most half a unit of its last place. With as many digits as the
precision that is a fixed fraction of the exact result, the roundoff. Only results so small that
their last digits fall below the least exponent may be off by more.
-/

namespace CurrencyLedger.Decimal

/-- The number that a decimal stands for; what stands for none counts as nothing. -/
def value (d : Decimal) : ℚ := d.toRat?.getD 0

theorem tenTo_cast (k : Nat) : (tenTo k : ℚ) = 10 ^ k := by
  rw [tenTo]
  exact Nat.cast_pow 10 k

theorem value_finite (c : Nat) (e : Int) : value (.finite false c e) = c * 10 ^ e := by
  rw [value, toRat?]
  by_cases he : 0 ≤ e
  · obtain ⟨k, rfl⟩ := Int.eq_ofNat_of_zero_le he
    simp [tenTo_cast]
  · obtain ⟨k, rfl⟩ : ∃ k : Nat, e = -k := ⟨(-e).toNat, by omega⟩
    rw [if_neg he]
    simp [tenTo_cast, Rat.mkRat_eq_div, div_eq_mul_inv]

theorem value_places (c k : Nat) : value (.finite false c (-k)) = c / 10 ^ k := by
  rw [value_finite, zpow_neg, zpow_natCast, div_eq_mul_inv]

/-! ### Whole numbers near a quotient -/

section

variable {mode : Rounding} {n d : Nat}

theorem div_eq_quotient_add (n : Nat) (hd : 0 < d) :
    (n : ℚ) / d = (n / d : Nat) + (n % d : Nat) / d := by
  have hd' : (d : ℚ) ≠ 0 := by positivity
  have hdiv : (n : ℚ) = d * (n / d : Nat) + (n % d : Nat) := by
    exact_mod_cast (Nat.div_add_mod n d).symm
  rw [hdiv, add_div, mul_div_cancel_left₀ _ hd']

theorem fraction_bounds (n : Nat) (hd : 0 < d) :
    0 ≤ ((n % d : Nat) : ℚ) / d ∧ ((n % d : Nat) : ℚ) / d ≤ 1 := by
  have hd' : (0 : ℚ) < d := by exact_mod_cast hd
  have hlt : ((n % d : Nat) : ℚ) < d := by exact_mod_cast Nat.mod_lt n hd
  exact ⟨by positivity, (div_le_one hd').2 hlt.le⟩

/-- Up goes what lies beyond the middle, down what lies before it. -/
theorem goesUp_nearest (hmode : mode ≠ .ceiling) (q r d : Nat) :
    if mode.goesUp false q r d then d ≤ 2 * r else 2 * r ≤ d := by
  cases mode with
  | ceiling => exact absurd rfl hmode
  | halfEven =>
    simp only [Rounding.goesUp, Bool.or_eq_true, Bool.and_eq_true, decide_eq_true_eq, beq_iff_eq]
    split_ifs <;> omega
  | halfUp =>
    simp only [Rounding.goesUp, Bool.and_eq_true, decide_eq_true_eq]
    split_ifs <;> omega

/-- The nearest of two neighbours is at most a half away. -/
theorem abs_divRound_sub_le (hmode : mode ≠ .ceiling) (n : Nat) (hd : 0 < d) :
    |(divRound mode false n d : ℚ) - n / d| ≤ 1 / 2 := by
  have hd' : (0 : ℚ) < d := by exact_mod_cast hd
  have hmiddle := goesUp_nearest hmode (n / d) (n % d) d
  obtain ⟨hnonneg, hone⟩ := fraction_bounds n hd
  rw [div_eq_quotient_add n hd, divRound, abs_le]
  split at hmiddle
  · rename_i hup
    have hbeyond : (d : ℚ) ≤ 2 * (n % d : Nat) := by exact_mod_cast hmiddle
    have hhalf : 1 / 2 ≤ ((n % d : Nat) : ℚ) / d := by
      rw [le_div_iff₀ hd']
      linarith
    simp only [if_pos hup, Nat.cast_add, Nat.cast_one]
    constructor <;> linarith
  · rename_i hdown
    have hbefore : 2 * ((n % d : Nat) : ℚ) ≤ d := by exact_mod_cast hmiddle
    have hhalf : ((n % d : Nat) : ℚ) / d ≤ 1 / 2 := by
      rw [div_le_iff₀ hd']
      linarith
    simp only [if_neg hdown]
    constructor <;> linarith

/-- Rounded up, a quotient gets no smaller. -/
theorem le_divRound_ceiling (n : Nat) (hd : 0 < d) :
    (n : ℚ) / d ≤ divRound .ceiling false n d := by
  obtain ⟨-, hone⟩ := fraction_bounds n hd
  rw [div_eq_quotient_add n hd, divRound]
  simp only [Rounding.goesUp, Bool.not_false, Bool.and_true, decide_eq_true_eq]
  split_ifs with hpos
  · push_cast
    linarith
  · have hzero : n % d = 0 := by omega
    simp [hzero]

end

/-! ### Digits -/

theorem lt_tenTo_digitCount (n : Nat) : n < tenTo (digitCount n) := by
  obtain ⟨k, hk⟩ : ∃ k, digitCount n = k + 1 :=
    ⟨digitCount n - 1, by have := digitCount_pos n; omega⟩
  rw [hk]
  exact (digitCount_le_iff n).1 hk.le

/-- A number has its first digit at the power of ten that its digits lead to. -/
theorem digitCount_bounds {n : Nat} (hn : 0 < n) :
    ∃ k, digitCount n = k + 1 ∧ (10 : ℚ) ^ k ≤ n ∧ (n : ℚ) < 10 ^ (k + 1) := by
  obtain ⟨k, hk⟩ : ∃ k, digitCount n = k + 1 :=
    ⟨digitCount n - 1, by have := digitCount_pos n; omega⟩
  have hlt : n < tenTo (k + 1) := hk ▸ lt_tenTo_digitCount n
  have hle : tenTo k ≤ n := by
    cases k with
    | zero => exact hn
    | succ k =>
      by_contra h
      have := (digitCount_le_iff n).2 (Nat.lt_of_not_le h)
      omega
  refine ⟨k, hk, ?_, ?_⟩
  · rw [← tenTo_cast]
    exact_mod_cast hle
  · rw [← tenTo_cast]
    exact_mod_cast hlt

/-- A power of ten is a quotient of two with natural exponents. -/
theorem ten_zpow (k : Int) : (10 : ℚ) ^ k = tenTo k.toNat / tenTo (-k).toNat := by
  rcases Int.le_total 0 k with hk | hk
  · obtain ⟨m, rfl⟩ := Int.eq_ofNat_of_zero_le hk
    simp [tenTo_cast, tenTo_zero]
  · obtain ⟨m, rfl⟩ : ∃ m : Nat, k = -m := ⟨(-k).toNat, by omega⟩
    simp [tenTo_cast, tenTo_zero]

theorem tenTo_toNat {k : Int} (hk : 0 ≤ k) : (tenTo k.toNat : ℚ) = 10 ^ k := by
  rw [tenTo_cast, ← zpow_natCast, Int.toNat_of_nonneg hk]

/-- A quotient has its first digit at its magnitude. -/
theorem quotientMagnitude_bounds {n d : Nat} (hn : 0 < n) (hd : 0 < d) :
    (10 : ℚ) ^ quotientMagnitude n d ≤ n / d ∧
      (n : ℚ) / d < 10 ^ (quotientMagnitude n d + 1) := by
  have hd' : (0 : ℚ) < d := by exact_mod_cast hd
  obtain ⟨a, ha, hna, hnb⟩ := digitCount_bounds hn
  obtain ⟨b, hb, hda, hdb⟩ := digitCount_bounds hd
  have hk : ((digitCount n : Int) - digitCount d) = (a : Int) - b := by omega
  have htest : d * tenTo ((a : Int) - b).toNat ≤ n * tenTo (-((a : Int) - b)).toNat ↔
      (10 : ℚ) ^ ((a : Int) - b) ≤ n / d := by
    rw [ten_zpow, div_le_div_iff₀ (by exact_mod_cast tenTo_pos _) hd', mul_comm]
    exact_mod_cast Iff.rfl
  simp only [quotientMagnitude, hk]
  split_ifs with h
  · refine ⟨htest.1 h, ?_⟩
    rw [div_lt_iff₀ hd']
    calc (n : ℚ) < 10 ^ (a + 1) := hnb
      _ = 10 ^ ((a : Int) - b + 1) * 10 ^ b := by
        rw [← zpow_natCast, ← zpow_natCast, ← zpow_add₀ (by norm_num)]
        congr 1
        push_cast
        ring
      _ ≤ 10 ^ ((a : Int) - b + 1) * d := by gcongr
  · rw [Int.sub_add_cancel]
    refine ⟨?_, lt_of_not_ge (mt htest.2 h)⟩
    rw [le_div_iff₀ hd']
    calc (10 : ℚ) ^ ((a : Int) - b - 1) * d ≤ 10 ^ ((a : Int) - b - 1) * 10 ^ (b + 1) := by gcongr
      _ = 10 ^ a := by
        rw [← zpow_natCast, ← zpow_natCast, ← zpow_add₀ (by norm_num)]
        congr 1
        push_cast
        ring
      _ ≤ n := hna

/-! ### Dropped digits -/

/--
Dropping digits drops all that were asked for, or so many that less than a tenth of a unit is left.
-/
theorem dropped_cases (c k : Nat) :
    min k (digitCount c + 1) = k ∨
      min k (digitCount c + 1) ≤ k ∧ (c : ℚ) / tenTo (min k (digitCount c + 1)) ≤ 1 / 10 := by
  rcases Nat.le_total k (digitCount c + 1) with hk | hk
  · exact .inl (Nat.min_eq_left hk)
  · rw [Nat.min_eq_right hk]
    have hlt : (c : ℚ) < tenTo (digitCount c) := by exact_mod_cast lt_tenTo_digitCount c
    refine .inr ⟨hk, ?_⟩
    rw [div_le_iff₀ (by exact_mod_cast tenTo_pos _), tenTo_succ]
    push_cast
    linarith

/-- To drop more digits is to leave less. -/
theorem div_ten_pow_le (c : Nat) {j k : Nat} (h : j ≤ k) : (c : ℚ) / 10 ^ k ≤ c / tenTo j := by
  rw [tenTo_cast]
  gcongr
  norm_num

/-- Nothing but zero is a whole number within a half and a tenth of zero. -/
theorem eq_zero_of_near {q : Nat} {x : ℚ} (hx : x ≤ 1 / 10) (h : (q : ℚ) - x ≤ 1 / 2) : q = 0 := by
  have : (q : ℚ) < 1 := by linarith
  exact Nat.lt_one_iff.1 (by exact_mod_cast this)

/-- A coefficient without its last digits is at most a half away from what they made of it. -/
theorem abs_dropDigits_sub_le {mode : Rounding} (hmode : mode ≠ .ceiling) (c k : Nat) :
    |(dropDigits mode false c k : ℚ) - c / 10 ^ k| ≤ 1 / 2 := by
  have hround := abs_divRound_sub_le hmode c (tenTo_pos (min k (digitCount c + 1)))
  rw [← dropDigits] at hround
  rcases dropped_cases c k with hj | ⟨hj, hsmall⟩
  · rwa [hj, tenTo_cast] at hround
  · have hle := div_ten_pow_le c hj
    have hnonneg : (0 : ℚ) ≤ c / 10 ^ k := by positivity
    rw [eq_zero_of_near hsmall (abs_le.1 hround).2, abs_le]
    constructor <;> push_cast <;> linarith

theorem le_dropDigits_ceiling (c k : Nat) :
    (c : ℚ) / 10 ^ k ≤ dropDigits .ceiling false c k :=
  (div_ten_pow_le c (Nat.min_le_left ..)).trans (le_divRound_ceiling c (tenTo_pos _))

/-! ### Results of arithmetic -/

/-- A coefficient that gives a digit back stays the same number. -/
theorem value_of_settle {c : Nat} {e : Int} {r : Decimal} (h : settle false c e = .ok r) :
    r.value = c * 10 ^ e := by
  simp only [settle] at h
  split_ifs at h with hc hbig hbig
  · cases h
    rw [hc, value_finite, tenTo_cast, tenTo_cast, precision, zpow_add₀ (by norm_num)]
    ring
  · cases h
    exact value_finite c e

/-- Dropping zeros that stand behind a coefficient keeps the number. -/
theorem value_stripZeros (ideal : Int) (c : Nat) (e : Int) (fuel : Nat) :
    ((stripZeros ideal c e fuel).1 : ℚ) * 10 ^ (stripZeros ideal c e fuel).2 = c * 10 ^ e := by
  induction fuel generalizing c e with
  | zero => rfl
  | succ fuel ih =>
    rw [stripZeros]
    split_ifs with h
    · have hc : (c : ℚ) = (c / 10 : Nat) * 10 := by
        exact_mod_cast (Nat.div_mul_cancel (Nat.dvd_of_mod_eq_zero h.2)).symm
      rw [ih, hc, zpow_add₀ (by norm_num)]
      ring
    · rfl

/-- What drops zeros never goes to a lower place. -/
theorem le_stripZeros (ideal : Int) (c : Nat) (e : Int) (fuel : Nat) :
    e ≤ (stripZeros ideal c e fuel).2 := by
  induction fuel generalizing c e with
  | zero => exact Int.le_refl e
  | succ fuel ih =>
    rw [stripZeros]
    split_ifs
    · exact (Int.le_add_of_nonneg_right (by decide)).trans (ih (c / 10) (e + 1))
    · exact Int.le_refl e

/-- The power of ten of the first digit of `n / d` times a power of ten. -/
def firstPlace (n d : Nat) (ideal : Int) : Int := ideal + quotientMagnitude n d

/-- The power of ten of the last digit that a result of arithmetic may have. -/
def lastPlace (n d : Nat) (ideal : Int) : Int :=
  max (firstPlace n d ideal - (precision - 1)) tinyExponent

section

variable {n d : Nat} {ideal : Int}

theorem ten_zpow_firstPlace_le (hn : 0 < n) (hd : 0 < d) :
    (10 : ℚ) ^ firstPlace n d ideal ≤ n / d * 10 ^ ideal := by
  rw [firstPlace, zpow_add₀ (by norm_num), mul_comm]
  have := (quotientMagnitude_bounds hn hd).1
  gcongr

theorem lt_ten_zpow_firstPlace (hn : 0 < n) (hd : 0 < d) :
    (n : ℚ) / d * 10 ^ ideal < 10 ^ (firstPlace n d ideal + 1) := by
  rw [firstPlace, add_assoc, zpow_add₀ (by norm_num), mul_comm]
  have := (quotientMagnitude_bounds hn hd).2
  gcongr

end

/-- A quotient at a higher place is that of a greater numerator at a lower one. -/
theorem shifted_up (n d : Nat) {low high : Int} (h : low ≤ high) :
    ((n * tenTo (high - low).toNat : Nat) : ℚ) / d * 10 ^ low = n / d * 10 ^ high := by
  rw [Nat.cast_mul, tenTo_toNat (by omega), mul_div_right_comm, mul_assoc,
    ← zpow_add₀ (by norm_num), Int.sub_add_cancel]

/-- A quotient at a lower place is that of a greater denominator at a higher one. -/
theorem shifted_down (n d : Nat) {low high : Int} (h : low ≤ high) :
    (n : ℚ) / (d * tenTo (high - low).toNat : Nat) * 10 ^ high = n / d * 10 ^ low := by
  rw [Nat.cast_mul, tenTo_toNat (by omega), ← div_div, div_mul_eq_mul_div, mul_div_assoc,
    ← zpow_sub₀ (by norm_num), Int.sub_sub_self]

/-- To be off by a half is to be off by half a unit at any place. -/
theorem abs_scaled_sub_le {p q : ℚ} (h : |p - q| ≤ 1 / 2) (e : Int) :
    |p * 10 ^ e - q * 10 ^ e| ≤ 1 / 2 * 10 ^ e := by
  rw [← sub_mul, abs_mul, abs_of_pos (by positivity : (0 : ℚ) < 10 ^ e)]
  gcongr

/--
A result of arithmetic is a coefficient that is settled at a place. It is exact, or it stands at the
last place and is a quotient that was rounded to even there.
-/
theorem placed_of_ofQuotient {n d : Nat} {ideal : Int} (hn : 0 < n) (hd : 0 < d) :
    ∃ (c : Nat) (e : Int), ofQuotient false n d ideal = settle false c e ∧
      lastPlace n d ideal ≤ e ∧
      ((c : ℚ) * 10 ^ e = n / d * 10 ^ ideal ∨ e = lastPlace n d ideal ∧
        ∃ m k : Nat, 0 < k ∧ c = divRound .halfEven false m k ∧
          (m : ℚ) / k * 10 ^ e = n / d * 10 ^ ideal) := by
  have hd' : (d : ℚ) ≠ 0 := by positivity
  have hbelow := @lt_ten_zpow_firstPlace n d ideal hn hd
  have hlast : lastPlace n d ideal =
    max (firstPlace n d ideal - (precision - 1)) tinyExponent := rfl
  simp only [ofQuotient, if_neg hn.ne']
  rw [show ideal + quotientMagnitude n d = firstPlace n d ideal from rfl, ← hlast]
  generalize lastPlace n d ideal = last
  split_ifs with hle hdvd hdvd' hsmall
  · refine ⟨_, _, rfl, hle, .inl ?_⟩
    rw [Nat.cast_div (Nat.dvd_of_mod_eq_zero hdvd) hd']
  · have hsame := value_stripZeros ideal (n * tenTo (ideal - last).toNat / d) last precision
    rw [Nat.cast_div (Nat.dvd_of_mod_eq_zero hdvd') hd', shifted_up n d hle] at hsame
    exact ⟨_, _, rfl, le_stripZeros .., .inl hsame⟩
  · exact ⟨_, _, rfl, le_rfl, .inr ⟨rfl, _, d, hd, rfl, shifted_up n d hle⟩⟩
  · -- Nothing of so small a number is left: it is less than a tenth of a unit of the place.
    have hshift := shifted_down n d (Int.le_of_not_le hle)
    have hpos := Nat.mul_pos hd (tenTo_pos (last - ideal).toNat)
    refine ⟨0, last, rfl, le_rfl, .inr ⟨rfl, n, _, hpos, (eq_zero_of_near ?_
      (abs_le.1 (abs_divRound_sub_le (by decide) n hpos)).2).symm, hshift⟩⟩
    have hplace : (10 : ℚ) ^ (firstPlace n d ideal + 1) ≤ 10 ^ (last - 1) :=
      zpow_le_zpow_right₀ (by norm_num) (by omega)
    rw [zpow_sub_one₀ (by norm_num)] at hplace
    have hunit : (0 : ℚ) < 10 ^ last := by positivity
    refine le_of_mul_le_mul_right ?_ hunit
    linarith
  · exact ⟨_, _, rfl, le_rfl, .inr ⟨rfl, n, _, Nat.mul_pos hd (tenTo_pos _), rfl,
      shifted_down n d (Int.le_of_not_le hle)⟩⟩

/--
It is off by at most half a unit of the last place, and stands above that only if it is exact.
-/
theorem settled_of_ofQuotient {n d : Nat} {ideal : Int} (hn : 0 < n) (hd : 0 < d) :
    ∃ (c : Nat) (e : Int), ofQuotient false n d ideal = settle false c e ∧
      |(c : ℚ) * 10 ^ e - n / d * 10 ^ ideal| ≤ 1 / 2 * 10 ^ lastPlace n d ideal ∧
      ((c : ℚ) * 10 ^ e = n / d * 10 ^ ideal ∨ e = lastPlace n d ideal) ∧
      lastPlace n d ideal ≤ e := by
  obtain ⟨c, e, hsettle, hplace, hexact | ⟨rfl, m, k, hk, rfl, hshift⟩⟩ :=
    @placed_of_ofQuotient n d ideal hn hd
  · refine ⟨c, e, hsettle, ?_, .inl hexact, hplace⟩
    rw [hexact, sub_self, abs_zero]
    positivity
  · refine ⟨_, _, hsettle, ?_, .inr rfl, hplace⟩
    rw [← hshift]
    exact abs_scaled_sub_le (abs_divRound_sub_le (by decide) m hk) _

/-- A result of arithmetic is off by at most half a unit of its last place. -/
theorem ofQuotient_error {n d : Nat} {ideal : Int} {r : Decimal} (hn : 0 < n) (hd : 0 < d)
    (h : ofQuotient false n d ideal = .ok r) :
    |r.value - n / d * 10 ^ ideal| ≤ 1 / 2 * 10 ^ lastPlace n d ideal := by
  obtain ⟨c, e, hsettle, hnear, -⟩ := @settled_of_ofQuotient n d ideal hn hd
  rw [value_of_settle (hsettle.symm.trans h)]
  exact hnear

/-- Half a unit of the last digit of the precision, as a fraction of the least number with it. -/
def roundoff : ℚ := 1 / 2 / 10 ^ (precision - 1)

theorem roundoff_eq : roundoff = 5 / 10 ^ 28 := by
  rw [roundoff, precision]
  norm_num

theorem roundoff_pos : 0 < roundoff := by
  rw [roundoff_eq]
  norm_num

/-- Off by a roundoff at most. -/
def Near (v x : ℚ) : Prop := |v - x| ≤ roundoff * x

/-- Of a size at which arithmetic keeps all digits of the precision. -/
def Normal (x : ℚ) : Prop := 10 ^ (minExponent + 1) ≤ x

/-- Numbers that occur are far larger than the least that keep all digits. -/
theorem normal_of_le {x : ℚ} (h : 1 / 10 ^ 40 ≤ x) : Normal x := by
  have : (10 : ℚ) ^ (minExponent + 1) ≤ 10 ^ (-40 : Int) :=
    zpow_le_zpow_right₀ (by norm_num) (by decide)
  rw [Normal]
  refine this.trans (le_trans (le_of_eq ?_) h)
  norm_num

/-- Half a unit of the last of all digits is at most a roundoff. -/
theorem half_unit_le {k : Int} {x : ℚ} (h : 10 ^ k ≤ x) :
    1 / 2 * 10 ^ (k - (precision - 1)) ≤ roundoff * x := by
  have hunit : (1 : ℚ) / 2 * 10 ^ (k - (precision - 1)) = roundoff * 10 ^ k := by
    rw [roundoff, precision, zpow_sub₀ (by norm_num)]
    norm_num
    ring
  have hpos := roundoff_pos
  rw [hunit]
  gcongr

/-- A result of arithmetic is off by a roundoff, unless it is too small to have all its digits. -/
theorem near_of_ofQuotient {n d : Nat} {ideal : Int} {r : Decimal} (hd : 0 < d)
    (h : ofQuotient false n d ideal = .ok r)
    (hnormal : Normal (n / d * 10 ^ ideal) ∨ Normal r.value) :
    Near r.value (n / d * 10 ^ ideal) := by
  rcases Nat.eq_zero_or_pos n with rfl | hn
  · rw [ofQuotient_zero] at h
    cases h
    simp [Near, zeroAt, value_finite]
  have herror := ofQuotient_error hn hd h
  have hfirst := @ten_zpow_firstPlace_le n d ideal hn hd
  generalize (n : ℚ) / d * 10 ^ ideal = x at *
  rw [lastPlace] at herror
  rcases le_total tinyExponent (firstPlace n d ideal - (precision - 1)) with hlast | hlast
  · rw [max_eq_left hlast] at herror
    exact herror.trans (half_unit_le hfirst)
  · rw [max_eq_right hlast] at herror
    refine herror.trans (half_unit_le ?_)
    have htiny : (10 : ℚ) ^ tinyExponent ≤ 10 ^ minExponent :=
      zpow_le_zpow_right₀ (by norm_num) (by decide)
    have hten : (10 : ℚ) ^ (minExponent + 1) = 10 ^ minExponent * 10 :=
      zpow_add_one₀ (by norm_num) _
    have hpos : (0 : ℚ) < 10 ^ minExponent := by positivity
    rw [Normal, Normal, hten] at hnormal
    rcases hnormal with hx | hv
    · linarith
    · have := (abs_le.1 herror).2
      linarith

theorem Near.le {v x : ℚ} (h : Near v x) : v ≤ x * (1 + roundoff) := by
  have := (abs_le.1 h).2
  linarith

theorem Near.ge {v x : ℚ} (h : Near v x) : x * (1 - roundoff) ≤ v := by
  have := (abs_le.1 h).1
  linarith

end CurrencyLedger.Decimal
