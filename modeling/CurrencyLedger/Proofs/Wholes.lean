import CurrencyLedger.Proofs.Nearest

/-!
Whole numbers.

A whole number of no more digits than the precision is kept as it is, and a greater number is not
rounded to a smaller one. So no whole number comes between a result and the number that it was
rounded from: what is at most a whole number is so after rounding. The covering amount is therefore
the quotient rounded up, once for all its digits, and an amount that is received is the whole number
of smallest units nearest to the product.
-/

namespace CurrencyLedger.Decimal

/-- No greater whole numbers need to keep all their digits. -/
def wholeLimit : ℚ := 10 ^ 27

section

variable {n d : Nat} {ideal : Int} {r : Decimal}

theorem lt_tenTo_precision {m : Nat} (hm : m ≤ wholeLimit) : m < tenTo precision := by
  have hm' : m ≤ 10 ^ 27 := by
    rw [wholeLimit] at hm
    exact_mod_cast hm
  exact hm'.trans_lt (by decide)

/-- What is at most a whole number is so after rounding. -/
theorem value_le_natCast (hd : 0 < d) (h : ofQuotient false n d ideal = .ok r) {m : Nat}
    (hm : m ≤ wholeLimit) (hle : (n : ℚ) / d * 10 ^ ideal ≤ m) : r.value ≤ m := by
  rw [value_of_ofQuotient hd h, ← rounded_natCast (lt_tenTo_precision hm)]
  exact rounded_mono (by positivity) hle

/-- What is at least a whole number is so after rounding. -/
theorem natCast_le_value (hd : 0 < d) (h : ofQuotient false n d ideal = .ok r) {m : Nat}
    (hm : m ≤ wholeLimit) (hle : (m : ℚ) ≤ n / d * 10 ^ ideal) : m ≤ r.value := by
  rw [value_of_ofQuotient hd h, ← rounded_natCast (lt_tenTo_precision hm)]
  exact rounded_mono (Nat.cast_nonneg m) hle

end

/-! ### Rounding up -/

/-- Rounded up, a quotient gets less than one greater. -/
theorem divRound_ceiling_lt (n : Nat) {d : Nat} (hd : 0 < d) :
    (divRound .ceiling false n d : ℚ) < n / d + 1 := by
  have hd' : (0 : ℚ) < d := by exact_mod_cast hd
  have hfloor := Nat.cast_div_le (α := ℚ) (m := n) (n := d)
  rw [divRound]
  split_ifs with hup
  · have hrest : 0 < n % d := by simpa [Rounding.goesUp] using hup
    have hfraction : (0 : ℚ) < (n % d : Nat) / d := by positivity
    have hsplit := div_eq_quotient_add n hd
    push_cast
    linarith
  · linarith

theorem dropDigits_ceiling_lt (c k : Nat) :
    (dropDigits .ceiling false c k : ℚ) < c / 10 ^ k + 1 := by
  have hround := divRound_ceiling_lt c (tenTo_pos (min k (digitCount c + 1)))
  rw [← dropDigits] at hround
  rcases dropped_cases c k with hj | ⟨-, hsmall⟩
  · rwa [hj, tenTo_cast] at hround
  · rcases Nat.eq_zero_or_pos c with rfl | hc
    · have hzero : dropDigits .ceiling false 0 k = 0 := by
        simp [dropDigits, divRound, Rounding.goesUp]
      rw [hzero]
      norm_num
    · have hone : dropDigits .ceiling false c k ≤ 1 := by
        have : (dropDigits .ceiling false c k : ℚ) < 2 := by linarith
        exact Nat.lt_succ_iff.1 (by exact_mod_cast this)
      calc (dropDigits .ceiling false c k : ℚ) ≤ 1 := by exact_mod_cast hone
        _ < c / 10 ^ k + 1 := lt_add_of_pos_left _ (by positivity)

/-- The digits before the point, rounded up, are the number rounded up. -/
theorem dropDigits_ceiling (c k : Nat) :
    (dropDigits .ceiling false c k : Int) = ⌈value (.finite false c (-k))⌉ := by
  rw [value_places, eq_comm, Int.ceil_eq_iff]
  have := dropDigits_ceiling_lt c k
  have := le_dropDigits_ceiling c k
  push_cast
  constructor <;> linarith

/-- The integer part is the number rounded down. -/
theorem truncate_eq_floor (c : Nat) (e : Int) :
    truncate false c e = ⌊value (.finite false c e)⌋ := by
  rw [eq_comm, Int.floor_eq_iff]
  refine ⟨truncate_le c e, ?_⟩
  by_cases he : 0 ≤ e
  · rw [truncate_of_nonneg c he]
    exact lt_add_one _
  · obtain ⟨k, rfl⟩ : ∃ k : Nat, e = -k := ⟨(-e).toNat, by omega⟩
    let j := min k (digitCount c + 1)
    have hpart : truncate false c (-k) = (c / tenTo j : Nat) := by
      rw [truncate, if_neg Bool.false_ne_true, if_neg he, Int.neg_neg, Int.toNat_natCast]
    have hlt : (c : ℚ) / tenTo j < (c / tenTo j : Nat) + 1 := by
      rw [div_lt_iff₀ (by exact_mod_cast tenTo_pos j), mul_comm]
      exact_mod_cast Nat.lt_mul_div_succ c (tenTo_pos j)
    rw [hpart, Int.cast_natCast, value_places]
    exact (div_ten_pow_le c (Nat.min_le_left ..)).trans_lt hlt

/-- A number rounded up is that whole number, whichever way it is written. -/
theorem truncate_of_ceiling {c : Nat} {e : Int} {d : Decimal}
    (h : toIntegral .ceiling (.finite false c e) = .ok d) :
    ∃ c' e', d = .finite false c' e' ∧ truncate false c' e' = ⌈value (.finite false c e)⌉ := by
  have hwhole {c : Nat} {e : Int} (he : 0 ≤ e) :
      truncate false c e = ⌈value (.finite false c e)⌉ := by
    rw [← truncate_of_nonneg c he, Int.ceil_intCast]
  simp only [toIntegral] at h
  split_ifs at h with he hc
  · cases h
    exact ⟨c, e, rfl, hwhole he⟩
  · cases h
    refine ⟨0, 0, rfl, ?_⟩
    rw [truncate_zero, hc, value_finite, Nat.cast_zero, zero_mul, Int.ceil_zero]
  · cases h
    refine ⟨_, 0, rfl, ?_⟩
    have hround := dropDigits_ceiling c (-e).toNat
    rw [Int.toNat_of_nonneg (by omega), Int.neg_neg] at hround
    rw [hwhole le_rfl, value_finite, zpow_zero, mul_one, Int.ceil_natCast, hround]

end CurrencyLedger.Decimal

namespace CurrencyLedger.Amount

open Decimal

/-- What covers an amount is the quotient, rounded to its digits and then up. -/
theorem eq_ceil_of_cover {n : Nat} {rate : Decimal} (hrate : rate.isPositive = true) {m : Int}
    (h : cover n rate = .ok m) :
    ∃ c e, (Decimal.finite false n 0).div rate = .ok (.finite false c e) ∧
      m = ⌈value (.finite false c e)⌉ := by
  obtain ⟨c', e', hc', rfl⟩ := isPositive_iff.1 hrate
  simp only [cover, bind_eq_ok, ofSignal_eq_ok, ofInt_natCast] at h
  obtain ⟨quotient, hquotient, whole, hwhole, h⟩ := h
  obtain ⟨c, e, rfl⟩ := finite_of_div hc' hquotient
  obtain ⟨c₂, e₂, rfl, hceil⟩ := truncate_of_ceiling hwhole
  cases h
  exact ⟨c, e, hquotient, hceil⟩

/-- If the exact quotient is at most a whole number, no more than that is needed. -/
theorem cover_le_of_quotient_le {n : Nat} {rate : Decimal} (hrate : rate.isPositive = true)
    {m : Int} (h : cover n rate = .ok m) {k : Nat} (hk : k ≤ wholeLimit)
    (hle : n / rate.value ≤ k) : m ≤ k := by
  obtain ⟨c, e, hquotient, rfl⟩ := eq_ceil_of_cover hrate h
  obtain ⟨c', e', hc', rfl⟩ := isPositive_iff.1 hrate
  have hexact := value_div_value n c' 0 e'
  rw [value_finite n 0, zpow_zero, mul_one] at hexact
  rw [hexact] at hle
  rw [div_finite n hc'] at hquotient
  exact Int.ceil_le.2 (value_le_natCast hc' hquotient hk hle)

/-- An amount that is received is a whole number of smallest units, the nearest. -/
theorem abs_sub_le_of_toMinor {c : Nat} {e : Int} {m : Int}
    (h : toMinor (.finite false c e) = .ok m) (hm : m < wholeLimit) :
    |(m : ℚ) - 100 * value (.finite false c e)| ≤ 1 / 2 := by
  simp only [toMinor, bind_eq_ok, ofSignal_eq_ok] at h
  obtain ⟨placed, hplaced, units, hunits, hwhole⟩ := h
  obtain ⟨k, rfl, -, hnearest⟩ := quantize_nearest (by decide) (by decide) (by decide) hplaced
  obtain ⟨c', e', rfl⟩ := finite_of_mul hunits
  cases hwhole
  have hexact := value_mul_value k 100 minorPlace 0
  rw [show Decimal.finite false 100 0 = minorUnits from rfl, value_minor_mul] at hexact
  rw [truncate_eq_floor] at hm ⊢
  have hunits' : ofQuotient false (k * 100) 1 (minorPlace + 0) = .ok (.finite false c' e') := hunits
  rcases le_or_gt (k : ℚ) wholeLimit with hk | hk
  · -- So few units are all digits of the product.
    have hvalue : value (.finite false c' e') = k :=
      le_antisymm (value_le_natCast Nat.one_pos hunits' hk hexact.ge)
        (natCast_le_value Nat.one_pos hunits' hk hexact.le)
    rwa [hvalue, Int.floor_natCast, Int.cast_natCast, ← div_ten_minorPlace]
  · exfalso
    have hlimit : ((10 ^ 27 : Nat) : ℚ) = wholeLimit := by norm_num [wholeLimit]
    have hlarge := natCast_le_value Nat.one_pos hunits' hlimit.le
      (hlimit.le.trans (hk.le.trans hexact.le))
    have : ((10 ^ 27 : Nat) : Int) ≤ ⌊value (.finite false c' e')⌋ := Int.le_floor.2 hlarge
    rw [← hlimit] at hm
    exact absurd (this.trans_lt (by exact_mod_cast hm)) (lt_irrefl _)

end CurrencyLedger.Amount
