import CurrencyLedger.Proofs.Wholes

/-!
What a conversion comes to.

An amount is turned into major units, multiplied by the rate and placed on the smallest unit; each
of the first two steps keeps what the precision keeps, and the last takes the nearest whole number.
No other rounding is made, so what is received depends on the amount and on the value of the rate
alone. It does not fall when either of them rises, nor does a conversion that was refused become
possible; what covers an amount rises with the amount and falls with the rate. However large or
small the numbers are, what is received is the exact price but for half a smallest unit and the
tolerance: where digits would be lost that matter, the conversion is refused.
-/

namespace CurrencyLedger.Amount

open Decimal

/-- What an amount comes to at a rate, before it is placed on the smallest unit. -/
def proceeds (n rate : ℚ) : ℚ := 100 * rounded (rounded (n / 100) * rate)

/-- What is received for an amount at a rate, if all numbers on the way can be held. -/
structure Receives (n : Nat) (rate : ℚ) (m : Int) : Prop where
  major : Fits (n / 100)
  product : Fits (rounded (n / 100) * rate)
  digits : m < tenTo precision
  nearest : m = round (proceeds n rate)

section

variable {n c : Nat} {e m : Int} {rate : ℚ}

theorem rounds_toMajor (n : Nat) : Rounds (n / 100) (toMajor n) := by
  have h := rounds_div n 0 0 (by decide : 0 < 100)
  rw [show Decimal.finite false 100 0 = minorUnits from rfl, value_minorUnits, value_finite,
    zpow_zero, mul_one] at h
  rw [toMajor, ofInt_natCast]
  exact h

/-- Whole smallest units are a hundred times what they are in major units. -/
theorem exists_units_of_placed {q : Nat} (hq : q < tenTo precision) :
    ∃ c e, (Decimal.finite false q minorPlace).mul minorUnits = .ok (.finite false c e) ∧
      truncate false c e = q := by
  have hrounds := rounds_mul q 100 minorPlace 0
  rw [show Decimal.finite false 100 0 = minorUnits from rfl, value_minor_mul] at hrounds
  have hfew : q ≤ 10 ^ 40 := hq.le.trans (by decide)
  obtain ⟨c, e, hunits, hvalue⟩ :=
    hrounds.of_fits (fits_of_le (by positivity) (by exact_mod_cast hfew))
  refine ⟨c, e, hunits, ?_⟩
  rw [truncate_eq_floor, hvalue, rounded_natCast hq, Int.floor_natCast]

/-- Major units are as many smallest units as are nearest, if these have few enough digits. -/
theorem toMinor_finite (c : Nat) (e : Int) :
    toMinor (.finite false c e) =
      if round (100 * value (.finite false c e)) < tenTo precision then
        .ok (round (100 * value (.finite false c e)))
      else .error (.arithmetic .invalidOperation) := by
  obtain ⟨q, hq, hplaced⟩ := @quantize_halfUp minorPlace (by decide) (by decide) c e
  rw [div_ten_minorPlace] at hq
  rw [← hq, toMinor, hplaced]
  by_cases hfew : q < tenTo precision
  · obtain ⟨c', e', hunits, hwhole⟩ := exists_units_of_placed hfew
    rw [if_pos hfew, if_pos (by exact_mod_cast hfew)]
    show (do wholePart (← ofSignal ((Decimal.finite false q minorPlace).mul minorUnits))) = _
    rw [hunits, ← hwhole]
    rfl
  · rw [if_neg hfew, if_neg (by exact_mod_cast hfew)]
    rfl

/-- A conversion succeeds if all numbers on the way can be held. -/
theorem convert_eq_ok_iff :
    convert n (.finite false c e) = .ok m ↔ Receives n (value (.finite false c e)) m := by
  simp only [convert, bind_eq_ok, ofSignal_eq_ok]
  constructor
  · rintro ⟨major, hmajor, product, hproduct, hminor⟩
    obtain ⟨hfits, c₁, e₁, rfl, hvalue⟩ := (hmajor ▸ rounds_toMajor n).of_ok
    obtain ⟨hfits', c₂, e₂, rfl, hvalue'⟩ := (hproduct ▸ rounds_mul c₁ c e₁ e).of_ok
    rw [hvalue] at hfits' hvalue'
    rw [toMinor_finite, hvalue'] at hminor
    split_ifs at hminor with hfew
    cases hminor
    exact ⟨hfits, hfits', hfew, rfl⟩
  · rintro ⟨hfits, hfits', hfew, rfl⟩
    obtain ⟨c₁, e₁, hmajor, hvalue⟩ := (rounds_toMajor n).of_fits hfits
    rw [← hvalue] at hfits'
    obtain ⟨c₂, e₂, hproduct, hvalue'⟩ := (rounds_mul c₁ c e₁ e).of_fits hfits'
    refine ⟨_, hmajor, _, hproduct, ?_⟩
    rw [proceeds] at hfew
    rw [toMinor_finite, hvalue', hvalue, if_pos hfew, proceeds]

/-- So does the search for an amount that covers another. -/
theorem cover_eq_ok_iff (hc : 0 < c) : cover n (.finite false c e) = .ok m ↔
    Fits (n / value (.finite false c e)) ∧ m = ⌈rounded (n / value (.finite false c e))⌉ := by
  have hquotient := rounds_div n 0 e hc
  rw [value_finite n 0, zpow_zero, mul_one] at hquotient
  constructor
  · intro h
    obtain ⟨c', e', hdiv, rfl⟩ := eq_ceil_of_cover (isPositive_iff.2 ⟨c, e, hc, rfl⟩) h
    obtain ⟨hfits, _, _, hsame, hvalue⟩ := (hdiv ▸ hquotient).of_ok
    rw [hsame, hvalue]
    exact ⟨hfits, rfl⟩
  · rintro ⟨hfits, rfl⟩
    obtain ⟨c', e', hdiv, hvalue⟩ := hquotient.of_fits hfits
    obtain ⟨whole, hwhole⟩ : ∃ d, toIntegral .ceiling (.finite false c' e') = .ok d := by
      simp only [toIntegral]
      split_ifs <;> exact ⟨_, rfl⟩
    obtain ⟨c'', e'', rfl, hceil⟩ := truncate_of_ceiling hwhole
    simp only [cover, bind_eq_ok, ofSignal_eq_ok, ofInt_natCast]
    refine ⟨_, hdiv, _, hwhole, ?_⟩
    rw [wholePart, hceil, hvalue]

/-! ### More for more -/

/-- A smaller amount at a lower rate can be converted as well, and yields no more. -/
theorem Receives.mono {a b : Nat} {r s : ℚ} (h : Receives b s m) (hab : a ≤ b) (hr : 0 ≤ r)
    (hrs : r ≤ s) : ∃ k, Receives a r k ∧ k ≤ m := by
  have hmajor : (a : ℚ) / 100 ≤ b / 100 := by gcongr
  have hfirst := rounded_mono (by positivity) hmajor
  have hnonneg := rounded_nonneg (by positivity : (0 : ℚ) ≤ a / 100)
  have hproduct : rounded (a / 100) * r ≤ rounded (b / 100) * s :=
    mul_le_mul hfirst hrs hr (hnonneg.trans hfirst)
  have hsecond := rounded_mono (mul_nonneg hnonneg hr) hproduct
  have hle : round (proceeds a r) ≤ m := by
    rw [h.nearest, proceeds, proceeds]
    exact round_mono (by linarith)
  exact ⟨_, ⟨h.major.mono (by positivity) hmajor, h.product.mono (mul_nonneg hnonneg hr) hproduct,
    hle.trans_lt h.digits, rfl⟩, hle⟩

/--
Converting more, or at a better rate, is refused if converting less was, and yields no less; buying
less, or at a better rate, is possible if buying more was, and costs no more.
-/
theorem sizing_is_monotone {a b : Int} {r s : Decimal} (ha : 0 ≤ a) (hab : a ≤ b)
    (hr : r.isPositive = true) (hs : s.isPositive = true) (hrs : r.value ≤ s.value) :
    (∀ m, convert b s = .ok m → ∃ k, convert a r = .ok k ∧ k ≤ m) ∧
      ∀ m, cover b r = .ok m → ∃ k, cover a s = .ok k ∧ k ≤ m := by
  obtain ⟨a, rfl⟩ := Int.eq_ofNat_of_zero_le ha
  obtain ⟨b, rfl⟩ := Int.eq_ofNat_of_zero_le (ha.trans hab)
  have hab' : a ≤ b := by exact_mod_cast hab
  have hrpos := value_pos hr
  obtain ⟨c, e, hc, rfl⟩ := isPositive_iff.1 hr
  obtain ⟨c', e', hc', rfl⟩ := isPositive_iff.1 hs
  constructor
  · intro m h
    obtain ⟨k, hk, hle⟩ := (convert_eq_ok_iff.1 h).mono hab' hrpos.le hrs
    exact ⟨k, convert_eq_ok_iff.2 hk, hle⟩
  · intro m h
    obtain ⟨hfits, rfl⟩ := (cover_eq_ok_iff hc).1 h
    have hquotient : (a : ℚ) / value (.finite false c' e') ≤ b / value (.finite false c e) := by
      gcongr
    have hnonneg : (0 : ℚ) ≤ a / value (.finite false c' e') :=
      div_nonneg (by positivity) (hrpos.le.trans hrs)
    exact ⟨_, (cover_eq_ok_iff hc').2 ⟨hfits.mono hnonneg hquotient, rfl⟩,
      Int.ceil_le_ceil (rounded_mono hnonneg hquotient)⟩

/-- Fifteen hundred for one, with eight places. -/
def lowRate : Decimal := .finite false 66667 (-8)

/-- A better rate. -/
def highRate : Decimal := .finite false 7 (-4)

/-- Less is converted into less at the lower rate, and bought for less at the higher one. -/
theorem sizes_at_two_rates : (∃ k, convert 49999 lowRate = .ok k ∧ k ≤ 35) ∧
    ∃ k, cover 49999 highRate = .ok k ∧ k ≤ 74999626 := by
  have hrates : lowRate.value ≤ highRate.value := by
    rw [lowRate, highRate, value_finite, value_finite]
    norm_num
  have hconvert : convert 50000 highRate = .ok 35 := by decide +kernel
  have hcover : cover 50000 lowRate = .ok 74999626 := by decide +kernel
  obtain ⟨hless, hcheaper⟩ :=
    sizing_is_monotone (a := 49999) (b := 50000) (by decide) (by decide) rfl rfl hrates
  exact ⟨hless 35 hconvert, hcheaper 74999626 hcover⟩

/-! ### Right or refused -/

/-- What an amount comes to is its price, but for two roundoffs. -/
theorem abs_proceeds_sub_le (hn : 1 ≤ n) (hrate : 0 ≤ rate) :
    |proceeds n rate - n * rate| ≤ 11 / 10 ^ 28 * (n * rate) + 1 / 10 ^ 57 := by
  have hn' : (1 : ℚ) ≤ n := by exact_mod_cast hn
  have hmajor : Near (rounded (n / 100)) (n / 100) := near_rounded (normal_of_le (by linarith))
  have hlow := mul_le_mul_of_nonneg_right hmajor.ge hrate
  have hhigh := mul_le_mul_of_nonneg_right hmajor.le hrate
  have hnonneg := mul_nonneg (rounded_nonneg (by positivity : (0 : ℚ) ≤ n / 100)) hrate
  have hprice : 0 ≤ n * rate := by positivity
  have hdust := dust_le
  obtain ⟨hbelow, habove⟩ := abs_le.1 (abs_rounded_sub_le hnonneg)
  rw [roundoff_eq] at hlow hhigh hbelow habove
  rw [proceeds, abs_le]
  constructor <;> linarith

theorem proceeds_zero (rate : ℚ) : proceeds (0 : Nat) rate = 0 := by
  rw [proceeds, Nat.cast_zero, zero_div, rounded_zero, zero_mul, rounded_zero, mul_zero]

/-- What is received is the price, but for half a smallest unit and the tolerance. -/
theorem Receives.abs_sub_le (h : Receives n rate m) (hrate : 0 ≤ rate) :
    |(m : ℚ) - n * rate| ≤ 1 / 2 + tolerance * (n * rate) := by
  rcases Nat.eq_zero_or_pos n with rfl | hn
  · rw [h.nearest, proceeds_zero, round_zero, Nat.cast_zero, zero_mul, mul_zero]
    norm_num
  have hprice : 0 ≤ n * rate := by positivity
  obtain ⟨hlow, hhigh⟩ := abs_le.1 (abs_proceeds_sub_le hn hrate)
  rw [h.nearest, tolerance]
  rcases le_or_gt (1 / 10 ^ 20) (n * rate) with hlarge | hsmall
  · obtain ⟨hbelow, habove⟩ := abs_le.1 (abs_sub_round (proceeds n rate))
    rw [abs_le]
    constructor <;> linarith
  · -- So little is nothing, and that is near enough.
    have hzero : round (proceeds n rate) = 0 := by
      rw [round_eq_zero_iff]
      constructor <;> linarith
    rw [hzero, Int.cast_zero, zero_sub, abs_neg, abs_of_nonneg hprice]
    linarith

/-- A conversion that is refused is refused by the arithmetic. -/
theorem convert_cases (n : Nat) {rate : Decimal} (hrate : rate.isPositive = true) :
    (∃ s, convert n rate = .error (.arithmetic s)) ∨ ∃ m, convert n rate = .ok m := by
  cases h : convert n rate with
  | ok m => exact .inr ⟨m, rfl⟩
  | error f =>
    rcases Nat.eq_zero_or_pos n with rfl | hn
    · exact absurd ((convert_zero hrate).symm.trans h) nofun
    · obtain ⟨s, rfl, -⟩ := convert_eq_error hn hrate h
      exact .inl ⟨s, rfl⟩

/-! ### At par -/

/-- An amount of few enough digits has them all in major units. -/
theorem rounded_hundredth (hn : n < tenTo precision) : rounded (n / 100) = n / 100 := by
  have hplaces : (n : ℚ) * 10 ^ (-2 : ℤ) = n / 100 := by norm_num [div_eq_mul_inv]
  rw [← hplaces]
  exact rounded_of_digits hn (by decide)

/-- One of more digits comes to at least the least such amount. -/
theorem le_rounded_hundredth (hn : tenTo precision ≤ n) : 10 ^ 26 ≤ rounded ((n : ℚ) / 100) := by
  have hn' : (10 : ℚ) ^ 28 ≤ n := by exact_mod_cast hn
  have hten : rounded (10 ^ 26) = 10 ^ 26 := rounded_ten_zpow (k := 26) (by decide)
  rw [← hten]
  exact rounded_mono (by positivity) (by linarith)

theorem tenTo_precision_le_round {x : ℚ} (h : 10 ^ 26 ≤ x) : tenTo precision ≤ round (100 * x) := by
  have hlarge : ((tenTo precision : ℤ) : ℚ) ≤ 100 * x := by
    rw [show ((tenTo precision : ℤ) : ℚ) = 10 ^ 28 by norm_num [tenTo_cast, precision]]
    linarith
  rw [← round_intCast (α := ℚ) (tenTo precision : ℤ)]
  exact round_mono hlarge

/-- At par as many units are received as are given up. -/
theorem receives_at_par (hn : n < tenTo precision) : Receives n 1 n := by
  have hn' : (n : ℚ) ≤ 10 ^ 28 := by exact_mod_cast hn.le
  have hfits : Fits ((n : ℚ) / 100) := fits_of_le (by positivity) (by linarith)
  have hproceeds : proceeds n 1 = n := by
    rw [proceeds, rounded_hundredth hn, mul_one, rounded_hundredth hn,
      mul_div_cancel₀ _ (by norm_num)]
  refine ⟨hfits, ?_, by exact_mod_cast hn, ?_⟩
  · rwa [rounded_hundredth hn, mul_one]
  · rw [hproceeds, round_natCast]

theorem not_receives_at_par (hn : tenTo precision ≤ n) : ¬ Receives n 1 m := by
  intro h
  have hten : rounded (10 ^ 26) = 10 ^ 26 := rounded_ten_zpow (k := 26) (by decide)
  have hkept : 10 ^ 26 ≤ rounded (rounded ((n : ℚ) / 100) * 1) := by
    rw [← hten, mul_one]
    exact rounded_mono (by positivity) (le_rounded_hundredth hn)
  have hlarge := tenTo_precision_le_round hkept
  rw [← proceeds, ← h.nearest] at hlarge
  exact absurd h.digits (not_lt.2 hlarge)

theorem toMinor_toMajor (hn : n < tenTo precision) :
    (do toMinor (← ofSignal (toMajor n))) = .ok (n : Int) := by
  obtain ⟨c, e, hmajor, hvalue⟩ := (rounds_toMajor n).of_fits (receives_at_par hn).major
  rw [hmajor]
  show toMinor (.finite false c e) = _
  rw [toMinor_finite, hvalue, rounded_hundredth hn, mul_div_cancel₀ _ (by norm_num), round_natCast,
    if_pos (by exact_mod_cast hn)]

theorem toMinor_toMajor_eq_error (hn : tenTo precision ≤ n) :
    ∃ s, (do toMinor (← ofSignal (toMajor n))) = .error (.arithmetic s) := by
  cases h : toMajor n with
  | error s => exact ⟨s, rfl⟩
  | ok d =>
    obtain ⟨-, c, e, rfl, hvalue⟩ := (h ▸ rounds_toMajor n).of_ok
    have hlarge := tenTo_precision_le_round (le_rounded_hundredth hn)
    rw [← hvalue] at hlarge
    refine ⟨.invalidOperation, ?_⟩
    show toMinor (.finite false c e) = _
    rw [toMinor_finite, if_neg (not_lt.2 hlarge)]

/--
A conversion is refused by the arithmetic, or what is received is the price but for half a smallest
unit and the tolerance. At par it gives an amount of few enough digits back, as turning it into
major units and back does, and refuses every greater one.
-/
theorem conversion_is_right_or_refused {a : Int} {rate : Decimal} (ha : 0 ≤ a)
    (hrate : rate.isPositive = true) :
    ((∃ s, convert a rate = .error (.arithmetic s)) ∨ ∃ m, convert a rate = .ok m ∧
      |(m : ℚ) - a * rate.value| ≤ 1 / 2 + a * rate.value / 10 ^ 26) ∧
    (rate.value = 1 → a < 10 ^ 28 →
      convert a rate = .ok a ∧ (do toMinor (← ofSignal (toMajor a))) = .ok a) ∧
    (rate.value = 1 → 10 ^ 28 ≤ a → (∃ s, convert a rate = .error (.arithmetic s)) ∧
      ∃ s, (do toMinor (← ofSignal (toMajor a))) = .error (.arithmetic s)) := by
  obtain ⟨n, rfl⟩ := Int.eq_ofNat_of_zero_le ha
  have hcases := convert_cases n hrate
  have hpos := value_pos hrate
  obtain ⟨c, e, -, rfl⟩ := isPositive_iff.1 hrate
  refine ⟨?_, fun hpar hfew => ?_, fun hpar hmany => ?_⟩
  · refine hcases.imp_right fun ⟨m, h⟩ => ⟨m, h, ?_⟩
    have hnear := (convert_eq_ok_iff.1 h).abs_sub_le hpos.le
    rwa [tolerance, one_div_mul_eq_div] at hnear
  · have hn : n < tenTo precision := by exact_mod_cast hfew
    refine ⟨convert_eq_ok_iff.2 ?_, toMinor_toMajor hn⟩
    rw [hpar]
    exact receives_at_par hn
  · have hn : tenTo precision ≤ n := by exact_mod_cast hmany
    refine ⟨hcases.resolve_right ?_, toMinor_toMajor_eq_error hn⟩
    rintro ⟨m, h⟩
    exact not_receives_at_par hn (hpar ▸ convert_eq_ok_iff.1 h)

/-- All of twenty-eight nines come back at par, and one more is refused. -/
theorem greatest_amount_at_par :
    (∃ m, convert (10 ^ 28 - 1) .one = .ok m ∧ |(m : ℚ) - (10 ^ 28 - 1 : Int) * one.value| ≤
      1 / 2 + (10 ^ 28 - 1 : Int) * one.value / 10 ^ 26) ∧
    convert (10 ^ 28 - 1) .one = .ok (10 ^ 28 - 1) ∧
    (do toMinor (← ofSignal (toMajor (10 ^ 28 - 1)))) = .ok (10 ^ 28 - 1) ∧
    ∃ s, convert (10 ^ 28) .one = .error (.arithmetic s) := by
  have hpar : one.value = 1 := by
    rw [one, scaled, value_finite]
    norm_num
  obtain ⟨hright, hkept, -⟩ :=
    @conversion_is_right_or_refused (10 ^ 28 - 1) .one (by decide) rfl
  obtain ⟨-, -, hrefused⟩ :=
    @conversion_is_right_or_refused (10 ^ 28) .one (by decide) rfl
  obtain ⟨hsame, hthrough⟩ := hkept hpar (by decide)
  refine ⟨hright.resolve_left ?_, hsame, hthrough, (hrefused hpar le_rfl).1⟩
  rintro ⟨s, hs⟩
  rw [hsame] at hs
  cases hs

end

end CurrencyLedger.Amount
