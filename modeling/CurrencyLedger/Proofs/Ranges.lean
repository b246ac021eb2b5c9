import CurrencyLedger.Proofs.Pricing

/-!
How far arithmetic reaches.

A result of arithmetic is refused only if its first digit would stand beyond the greatest exponent,
and nothing is left of it only if it is smaller than a unit of the least place; in between, products
and quotients of positive numbers are positive.
-/

namespace CurrencyLedger.Decimal

/-- A coefficient is refused for where its first digit stands. -/
theorem settle_eq_error {c : Nat} {e : Int} {s : Signal} (h : settle false c e = .error s) :
    s = .overflow ∧ (c = 0 ∧ maxExponent < e ∨ (10 : ℚ) ^ (maxExponent + 1) ≤ c * 10 ^ e) := by
  simp only [settle] at h
  split_ifs at h with hc hbig hbig
  all_goals dsimp only at hbig
  · cases h
    refine ⟨rfl, .inr ?_⟩
    have hdigits : digitCount (tenTo (precision - 1)) = precision := by decide +kernel
    rw [hdigits] at hbig
    have hplace : (10 : ℚ) ^ (maxExponent + 1) ≤ 10 ^ ((precision : Int) + e) :=
      zpow_le_zpow_right₀ (by norm_num) (by omega)
    rwa [zpow_add₀ (by norm_num) (precision : Int), zpow_natCast, ← tenTo_cast, ← hc] at hplace
  · cases h
    refine ⟨rfl, ?_⟩
    rcases Nat.eq_zero_or_pos c with rfl | hpos
    · have hdigits : digitCount 0 = 1 := by decide +kernel
      exact .inl ⟨rfl, by omega⟩
    · obtain ⟨k, hk, hlow, -⟩ := digitCount_bounds hpos
      refine .inr ?_
      calc (10 : ℚ) ^ (maxExponent + 1) ≤ 10 ^ ((k : Int) + e) :=
            zpow_le_zpow_right₀ (by norm_num) (by omega)
        _ = 10 ^ k * 10 ^ e := by rw [zpow_add₀ (by norm_num), zpow_natCast]
        _ ≤ c * 10 ^ e := by gcongr

section

variable {n d : Nat} {ideal : Int}

/-- A tenth of a number reaches beyond half a unit of its last place, unless that is the least. -/
theorem half_unit_lt (hn : 0 < n) (hd : 0 < d) (hlast : lastPlace n d ideal ≠ tinyExponent) :
    1 / 2 * (10 : ℚ) ^ lastPlace n d ideal < 1 / 10 * (n / d * 10 ^ ideal) := by
  have hplace : lastPlace n d ideal = firstPlace n d ideal - (precision - 1) := by
    rw [lastPlace] at hlast ⊢
    omega
  have hpos : (0 : ℚ) < n / d * 10 ^ ideal := by positivity
  have hround := half_unit_le (@ten_zpow_firstPlace_le n d ideal hn hd)
  rw [hplace]
  rw [roundoff_eq] at hround
  linarith

/-- A result is refused only if the number itself is beyond what exponents reach. -/
theorem overflow_of_ofQuotient (hn : 0 < n) (hd : 0 < d) {s : Signal}
    (h : ofQuotient false n d ideal = .error s) :
    s = .overflow ∧ (10 : ℚ) ^ maxExponent ≤ n / d * 10 ^ ideal := by
  obtain ⟨c, e, hsettle, hnear, hplace, -⟩ := @settled_of_ofQuotient n d ideal hn hd
  obtain ⟨rfl, hbeyond⟩ := settle_eq_error (hsettle.symm.trans h)
  refine ⟨rfl, ?_⟩
  have hx : (0 : ℚ) < n / d * 10 ^ ideal := by positivity
  have hclose := (abs_le.1 hnear).2
  by_cases hlast : lastPlace n d ideal = tinyExponent
  · have htiny : (10 : ℚ) ^ tinyExponent ≤ 10 ^ maxExponent :=
      zpow_le_zpow_right₀ (by norm_num) (by decide)
    rcases hbeyond with ⟨rfl, hhigh⟩ | hbeyond
    · rw [Nat.cast_zero, zero_mul] at hplace
      rw [hplace.resolve_left hx.ne, hlast] at hhigh
      exact absurd hhigh (by decide)
    · have hpos : (0 : ℚ) < 10 ^ maxExponent := by positivity
      rw [hlast] at hclose
      rw [zpow_add_one₀ (by norm_num)] at hbeyond
      linarith
  · have hunit := half_unit_lt hn hd hlast
    rcases hbeyond with ⟨rfl, -⟩ | hbeyond
    · -- What is left of a number cannot be nothing if all its digits are kept.
      have := (abs_le.1 hnear).1
      rw [Nat.cast_zero, zero_mul] at this
      linarith
    · rw [zpow_add_one₀ (by norm_num)] at hbeyond
      linarith

/-- Something is left of a number that is not smaller than a unit of the least place. -/
theorem isPositive_of_ofQuotient (hn : 0 < n) (hd : 0 < d) {r : Decimal}
    (h : ofQuotient false n d ideal = .ok r)
    (hx : (10 : ℚ) ^ tinyExponent ≤ n / d * 10 ^ ideal) : r.isPositive = true := by
  obtain ⟨c, e, rfl⟩ := ofQuotient_eq_ok h
  have herror := ofQuotient_error hn hd h
  have hpos : (0 : ℚ) < n / d * 10 ^ ideal := by positivity
  rcases Nat.eq_zero_or_pos c with rfl | hc
  · exfalso
    have hclose := (abs_le.1 herror).1
    rw [value_finite, Nat.cast_zero, zero_mul] at hclose
    by_cases hlast : lastPlace n d ideal = tinyExponent
    · rw [hlast] at hclose
      linarith
    · have := half_unit_lt hn hd hlast
      linarith
  · exact isPositive_iff.2 ⟨c, e, hc, rfl⟩

end

/-- What is settled has its first digit within the exponents, and stands no lower than it was. -/
theorem settle_bounds {c c' : Nat} {e e' : Int} (h : settle false c e = .ok (.finite false c' e')) :
    e ≤ e' ∧ e' + digitCount c' - 1 ≤ maxExponent := by
  simp only [settle] at h
  split_ifs at h with hc hbig hbig
  · cases h
    exact ⟨by omega, Int.not_lt.1 hbig⟩
  · cases h
    exact ⟨Int.le_refl _, Int.not_lt.1 hbig⟩

section

variable {n d : Nat} {ideal e : Int} {c : Nat}

/-- So does a result of arithmetic, and no digit of it stands lower than the least place. -/
theorem ofQuotient_bounds (hn : 0 < n) (hd : 0 < d)
    (h : ofQuotient false n d ideal = .ok (.finite false c e)) :
    tinyExponent ≤ e ∧ e + digitCount c - 1 ≤ maxExponent := by
  obtain ⟨c₁, e₁, hsettle, -, -, hplace⟩ := @settled_of_ofQuotient n d ideal hn hd
  obtain ⟨hle, hmax⟩ := settle_bounds (hsettle.symm.trans h)
  exact ⟨(le_max_right ..).trans (hplace.trans hle), hmax⟩

/-- A result of arithmetic can be written and read again. -/
theorem representable_of_ofQuotient (hn : 0 < n) (hd : 0 < d)
    (h : ofQuotient false n d ideal = .ok (.finite false c e)) : representable c e = true := by
  obtain ⟨htiny, hmax⟩ := ofQuotient_bounds hn hd h
  have hlow : minWrittenExponent ≤ tinyExponent := by decide
  have hhigh : maxExponent ≤ maxWrittenExponent := by decide
  simp only [representable, Bool.and_eq_true, decide_eq_true_eq]
  exact ⟨hlow.trans htiny, hmax.trans hhigh⟩

/-- No result of arithmetic goes beyond the exponents. -/
theorem value_lt_of_ofQuotient (hn : 0 < n) (hd : 0 < d)
    (h : ofQuotient false n d ideal = .ok (.finite false c e)) :
    value (.finite false c e) < 10 ^ (maxExponent + 1) := by
  have hmax := (ofQuotient_bounds hn hd h).2
  have hdigits : (c : ℚ) < 10 ^ digitCount c := by
    rw [← tenTo_cast]
    exact_mod_cast lt_tenTo_digitCount c
  calc value (.finite false c e) = c * 10 ^ e := value_finite c e
    _ < 10 ^ digitCount c * 10 ^ e := by gcongr
    _ = 10 ^ ((digitCount c : Int) + e) := by rw [zpow_add₀ (by norm_num), zpow_natCast]
    _ ≤ 10 ^ (maxExponent + 1) := zpow_le_zpow_right₀ (by norm_num) (by omega)

end

/-- How an operation on positive numbers ends whose exact result is `x`. -/
inductive Reached (x : ℚ) : Except Signal Decimal → Prop
  | within {d : Decimal} (h : d.isPositive = true) : Reached x (.ok d)
  | vanished {e : Int} (h : x < 10 ^ tinyExponent) : Reached x (.ok (.finite false 0 e))
  | beyond (h : (10 : ℚ) ^ maxExponent ≤ x) : Reached x (.error .overflow)

theorem reached_ofQuotient {n d : Nat} (hn : 0 < n) (hd : 0 < d) (ideal : Int) :
    Reached (n / d * 10 ^ ideal) (ofQuotient false n d ideal) := by
  cases h : ofQuotient false n d ideal with
  | error s =>
    obtain ⟨rfl, hx⟩ := overflow_of_ofQuotient hn hd h
    exact .beyond hx
  | ok r =>
    by_cases hx : (10 : ℚ) ^ tinyExponent ≤ n / d * 10 ^ ideal
    · exact .within (isPositive_of_ofQuotient hn hd h hx)
    · obtain ⟨c, e, rfl⟩ := ofQuotient_eq_ok h
      rcases Nat.eq_zero_or_pos c with rfl | hc
      · exact .vanished (lt_of_not_ge hx)
      · exact .within (isPositive_iff.2 ⟨c, e, hc, rfl⟩)

section

variable {a b : Decimal}

theorem reached_div (ha : a.isPositive = true) (hb : b.isPositive = true) :
    Reached (a.value / b.value) (a.div b) := by
  obtain ⟨c, e, hc, rfl⟩ := isPositive_iff.1 ha
  obtain ⟨c', e', hc', rfl⟩ := isPositive_iff.1 hb
  rw [value_div_value, div_finite c hc']
  exact reached_ofQuotient hc hc' (e - e')

theorem reached_mul (ha : a.isPositive = true) (hb : b.isPositive = true) :
    Reached (a.value * b.value) (a.mul b) := by
  obtain ⟨c, e, hc, rfl⟩ := isPositive_iff.1 ha
  obtain ⟨c', e', hc', rfl⟩ := isPositive_iff.1 hb
  rw [value_mul_value, mul_finite]
  exact reached_ofQuotient (Nat.mul_pos hc hc') Nat.one_pos (e + e')

end

/-- Placing a number at a power of ten is refused only if it has too many digits there. -/
theorem quantize_eq_error {mode : Rounding} (hmode : mode ≠ .ceiling) {place : Int} {c : Nat}
    {e : Int} {s : Signal} (h : quantize mode place (.finite false c e) = .error s) :
    s = .invalidOperation ∧
      (10 : ℚ) ^ precision - 1 / 2 ≤ value (.finite false c e) / 10 ^ place := by
  have hshift : value (.finite false c e) / 10 ^ place = c * 10 ^ (e - place) := by
    rw [value_finite, mul_div_assoc, zpow_sub₀ (by norm_num)]
  rw [hshift]
  simp only [quantize] at h
  split_ifs at h with hc hplace hlong hlong
  · cases h
    refine ⟨rfl, ?_⟩
    obtain ⟨k, hk, hlow, -⟩ := digitCount_bounds (Nat.pos_of_ne_zero hc)
    calc (10 : ℚ) ^ precision - 1 / 2 ≤ 10 ^ (precision : Int) := by
          rw [zpow_natCast]
          norm_num
      _ ≤ 10 ^ ((k : Int) + (e - place)) := zpow_le_zpow_right₀ (by norm_num) (by omega)
      _ = 10 ^ k * 10 ^ (e - place) := by rw [zpow_add₀ (by norm_num), zpow_natCast]
      _ ≤ c * 10 ^ (e - place) := by gcongr
  · cases h
    refine ⟨rfl, ?_⟩
    have hround := (abs_le.1 (abs_dropDigits_sub_le hmode c (place - e).toNat)).2
    rw [← value_places, value_finite, Int.toNat_of_nonneg (by omega), Int.neg_sub] at hround
    have hlarge : tenTo precision ≤ dropDigits mode false c (place - e).toNat :=
      Nat.le_of_not_lt fun hlt => Nat.not_le_of_lt hlong ((digitCount_le_iff _).2 hlt)
    have hlarge' : (10 : ℚ) ^ precision ≤ dropDigits mode false c (place - e).toNat := by
      rw [← tenTo_cast]
      exact_mod_cast hlarge
    linarith

/-- A result of arithmetic is at most a tenth and a unit above the number. -/
theorem ofQuotient_le {n d : Nat} {ideal : Int} (hn : 0 < n) (hd : 0 < d) {r : Decimal}
    (h : ofQuotient false n d ideal = .ok r) : r.value ≤ 11 / 10 * (n / d * 10 ^ ideal) + 1 := by
  have hclose := (abs_le.1 (ofQuotient_error hn hd h)).2
  have hx : (0 : ℚ) < n / d * 10 ^ ideal := by positivity
  by_cases hlast : lastPlace n d ideal = tinyExponent
  · have htiny : (10 : ℚ) ^ tinyExponent ≤ 10 ^ (0 : Int) :=
      zpow_le_zpow_right₀ (by norm_num) (by decide)
    rw [zpow_zero] at htiny
    rw [hlast] at hclose
    linarith
  · have := half_unit_lt hn hd hlast
    linarith

theorem divRound_le (mode : Rounding) (n d : Nat) : (divRound mode false n d : ℚ) ≤ n / d + 1 := by
  have hfloor := Nat.cast_div_le (α := ℚ) (m := n) (n := d)
  rw [divRound]
  split_ifs <;> push_cast <;> linarith

theorem dropDigits_le (mode : Rounding) (c k : Nat) :
    (dropDigits mode false c k : ℚ) ≤ c / 10 ^ k + 1 := by
  have hround := divRound_le mode c (tenTo (min k (digitCount c + 1)))
  rw [← dropDigits] at hround
  rcases dropped_cases c k with hj | ⟨-, hsmall⟩
  · rwa [hj, tenTo_cast] at hround
  · have hone : dropDigits mode false c k ≤ 1 := by
      have : (dropDigits mode false c k : ℚ) < 2 := by linarith
      exact Nat.lt_succ_iff.1 (by exact_mod_cast this)
    calc (dropDigits mode false c k : ℚ) ≤ 1 := by exact_mod_cast hone
      _ ≤ c / 10 ^ k + 1 := le_add_of_nonneg_left (by positivity)

/-- A number rounded up to a whole one is at most one above it. -/
theorem truncate_le_of_ceiling {c c' : Nat} {e e' : Int}
    (h : toIntegral .ceiling (.finite false c e) = .ok (.finite false c' e')) :
    (truncate false c' e' : ℚ) ≤ value (.finite false c e) + 1 := by
  have hnonneg : 0 ≤ value (.finite false c e) := by
    rw [value_finite]
    positivity
  simp only [toIntegral] at h
  split_ifs at h with he hc
  · cases h
    exact (truncate_le c e).trans (by linarith)
  · cases h
    rw [truncate_zero, Int.cast_zero]
    linarith
  · cases h
    have hround := dropDigits_le .ceiling c (-e).toNat
    rw [← value_places, Int.toNat_of_nonneg (by omega), Int.neg_neg] at hround
    rwa [truncate_of_nonneg _ le_rfl, value_finite _ 0, zpow_zero, mul_one]

end CurrencyLedger.Decimal

namespace CurrencyLedger.Amount

open Decimal

theorem ten_pow_le_maxExponent : (10 : ℚ) ^ 40 ≤ 10 ^ maxExponent :=
  calc (10 : ℚ) ^ 40 = 10 ^ (40 : Int) := (zpow_natCast 10 40).symm
    _ ≤ 10 ^ maxExponent := zpow_le_zpow_right₀ (by norm_num) (by decide)

/-- Major units are turned into smallest units unless these have too many digits. -/
theorem toMinor_eq_error {c : Nat} {e : Int} {f : Failure}
    (h : toMinor (.finite false c e) = .error f) :
    f = .arithmetic .invalidOperation ∧ 10 ^ 28 - 1 / 2 ≤ 100 * value (.finite false c e) := by
  simp only [toMinor, bind_eq_error, ofSignal_eq_error, ofSignal_eq_ok] at h
  rcases h with ⟨s, hs, rfl⟩ | ⟨placed, hplaced, h⟩
  · obtain ⟨rfl, hlarge⟩ := quantize_eq_error (by decide) hs
    rw [div_ten_minorPlace, precision] at hlarge
    exact ⟨rfl, hlarge⟩
  · exfalso
    obtain ⟨k, rfl, hk, -⟩ := quantize_nearest (by decide) (by decide) (by decide) hplaced
    rcases h with ⟨s, hs, -⟩ | ⟨units, hunits, hwhole⟩
    · rcases Nat.eq_zero_or_pos k with rfl | hpos
      · cases hs
      · have hbeyond := (overflow_of_ofQuotient (Nat.mul_pos hpos (by decide)) Nat.one_pos hs).2
        rw [← value_mul_value k 100 minorPlace 0] at hbeyond
        have hfew : (k : ℚ) < 10 ^ 28 := by exact_mod_cast (digitCount_le_iff k).1 hk
        have hscaled := value_minor_mul k
        have := ten_pow_le_maxExponent
        rw [minorUnits, scaled] at hscaled
        linarith
    · obtain ⟨c', e', rfl⟩ := finite_of_mul hunits
      cases hwhole

/-- Smallest units are turned into major units unless they are beyond all exponents. -/
theorem toMajor_eq_error {n : Nat} (hn : 1 ≤ n) {s : Signal} (h : toMajor n = .error s) :
    10 ^ maxExponent ≤ (n : ℚ) / 100 := by
  have hreached := @reached_div (.finite false n 0) minorUnits (isPositive_iff.2 ⟨n, 0, hn, rfl⟩)
    (by decide)
  rw [toMajor, ofInt_natCast] at h
  rw [h, value_minorUnits, value_finite n 0, zpow_zero, mul_one] at hreached
  cases hreached with
  | beyond hlarge => exact hlarge

/-- A conversion is refused only for numbers that are too large. -/
theorem convert_eq_error {n : Nat} {rate : Decimal} (hn : 1 ≤ n) (hrate : rate.isPositive = true)
    {f : Failure} (h : convert n rate = .error f) :
    ∃ s, f = .arithmetic s ∧ (10 ^ maxExponent ≤ (n : ℚ) / 100 ∨ 5 * 10 ^ 27 ≤ n * rate.value) := by
  have hn' : (1 : ℚ) ≤ n := by exact_mod_cast hn
  have hpos := value_pos hrate
  have hfar := ten_pow_le_maxExponent
  obtain ⟨c', e', hc', rfl⟩ := isPositive_iff.1 hrate
  simp only [convert, bind_eq_error, ofSignal_eq_error, ofSignal_eq_ok] at h
  rcases h with ⟨s, hs, rfl⟩ | ⟨major, hmajor, h⟩
  · exact ⟨s, rfl, .inl (toMajor_eq_error hn hs)⟩
  obtain ⟨c, e, rfl, hnear⟩ := near_of_toMajor hn hmajor
  -- Whatever is too large on the way, the exact product is not much smaller.
  have hmajor_le : value (.finite false c e) * value (.finite false c' e') ≤
      n / 100 * (1 + roundoff) * value (.finite false c' e') := by
    gcongr
    exact hnear.le
  rw [roundoff_eq] at hmajor_le
  rcases h with ⟨s, hs, rfl⟩ | ⟨product, hproduct, h⟩
  · have hpositive : 0 < c := by
      refine Nat.pos_of_ne_zero ?_
      rintro rfl
      have hmajor_ge := hnear.ge
      rw [value_finite, Nat.cast_zero, zero_mul, roundoff_eq] at hmajor_ge
      linarith
    have hreached := @reached_mul (.finite false c e) (.finite false c' e')
      (isPositive_iff.2 ⟨c, e, hpositive, rfl⟩) hrate
    rw [hs] at hreached
    cases hreached with
    | beyond hlarge => exact ⟨_, rfl, .inr (by linarith)⟩
  · obtain ⟨c₂, e₂, rfl⟩ := finite_of_mul hproduct
    obtain ⟨rfl, hlarge⟩ := toMinor_eq_error h
    have hproduct_le := (near_of_mul hproduct (.inr (normal_of_le (by linarith)))).le
    rw [roundoff_eq] at hproduct_le
    exact ⟨_, rfl, .inr (by linarith)⟩

/-- So is the search for an amount that covers another. -/
theorem cover_eq_error {n : Nat} {rate : Decimal} (hn : 1 ≤ n) (hrate : rate.isPositive = true)
    {f : Failure} (h : cover n rate = .error f) :
    ∃ s, f = .arithmetic s ∧ 10 ^ maxExponent ≤ n / rate.value := by
  have hreached := @reached_div (.finite false n 0) rate (isPositive_iff.2 ⟨n, 0, hn, rfl⟩) hrate
  obtain ⟨c', e', hc', rfl⟩ := isPositive_iff.1 hrate
  simp only [cover, bind_eq_error, ofSignal_eq_error, ofSignal_eq_ok, ofInt_natCast] at h
  rcases h with ⟨s, hs, rfl⟩ | ⟨quotient, hquotient, h⟩
  · rw [hs, value_finite n 0, zpow_zero, mul_one] at hreached
    cases hreached with
    | beyond hlarge => exact ⟨_, rfl, hlarge⟩
  · obtain ⟨c, e, rfl⟩ := finite_of_div hc' hquotient
    exfalso
    rcases h with ⟨s, hs, -⟩ | ⟨whole, hwhole, h⟩
    · simp only [toIntegral] at hs
      split_ifs at hs
    · obtain ⟨c₂, e₂, rfl, -⟩ := toIntegral_ceiling hwhole
      cases h

/-- What covers an amount is not much more than the quotient. -/
theorem cover_le {n : Nat} {rate : Decimal} (hn : 1 ≤ n) (hrate : rate.isPositive = true) {m : Int}
    (h : cover n rate = .ok m) : (m : ℚ) ≤ 11 / 10 * (n / rate.value) + 2 := by
  obtain ⟨c', e', hc', rfl⟩ := isPositive_iff.1 hrate
  simp only [cover, bind_eq_ok, ofSignal_eq_ok, ofInt_natCast] at h
  obtain ⟨quotient, hquotient, whole, hwhole, h⟩ := h
  obtain ⟨c, e, rfl⟩ := finite_of_div hc' hquotient
  obtain ⟨c₂, e₂, rfl, -⟩ := toIntegral_ceiling hwhole
  cases h
  have hceiling := truncate_le_of_ceiling hwhole
  have hquotient_le : value (.finite false c e) ≤
      11 / 10 * (value (.finite false n 0) / value (.finite false c' e')) + 1 := by
    rw [div_finite n hc'] at hquotient
    rw [value_div_value]
    exact ofQuotient_le hn hc' hquotient
  rw [value_finite n 0, zpow_zero, mul_one] at hquotient_le
  linarith

end CurrencyLedger.Amount

namespace CurrencyLedger.Rate

open Decimal

/-- A rate is recorded unless it has too many digits. -/
theorem format_eq_error {d : Decimal} (hd : d.isPositive = true) (hread : ofText? d.text = some d)
    {s : Signal} (h : format (.decimal d) = .error s) : 10 ^ 19 ≤ d.value := by
  obtain ⟨c, e, hc, rfl⟩ := isPositive_iff.1 hd
  simp only [format, Value.plain, hread, bind_eq_error] at h
  rcases h with h | ⟨rounded, -, h⟩
  · have hlarge := (quantize_eq_error (by decide) h).2
    have heighth : value (.finite false c e) / 10 ^ recordedPlace =
        10 ^ 8 * value (.finite false c e) := by
      rw [recordedPlace]
      norm_num
      ring
    rw [heighth, precision] at hlarge
    linarith
  · cases h

end CurrencyLedger.Rate
