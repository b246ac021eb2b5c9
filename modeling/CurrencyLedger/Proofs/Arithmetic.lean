import CurrencyLedger.Proofs.Rounding
import CurrencyLedger.Decimal.Arithmetic

/-!
How exact arithmetic is.

Products and quotients of numbers that are not negative are off by a roundoff. A number placed at a
power of ten is at most half of it away from what it was; rounded up to a whole number it gets no
smaller, and its integer part is no greater.
-/

namespace CurrencyLedger.Decimal

theorem value_pos {d : Decimal} (h : d.isPositive = true) : 0 < d.value := by
  obtain ⟨c, e, hc, rfl⟩ := isPositive_iff.1 h
  rw [value_finite]
  positivity

section

variable {c c' : Nat} {e e' : Int} {r : Decimal}

theorem finite_of_mul (h : mul (.finite false c e) (.finite false c' e') = .ok r) :
    ∃ k i, r = .finite false k i :=
  ofQuotient_eq_ok h

theorem finite_of_div (hc : 0 < c')
    (h : div (.finite false c e) (.finite false c' e') = .ok r) : ∃ k i, r = .finite false k i := by
  rw [div_finite c hc] at h
  exact ofQuotient_eq_ok h

/-- The exact product of two numbers, as arithmetic computes it. -/
theorem value_mul_value (c c' : Nat) (e e' : Int) :
    value (.finite false c e) * value (.finite false c' e') =
      (c * c' : Nat) / (1 : Nat) * 10 ^ (e + e') := by
  rw [value_finite, value_finite, zpow_add₀ (by norm_num)]
  push_cast
  ring

/-- Their exact quotient. -/
theorem value_div_value (c c' : Nat) (e e' : Int) :
    value (.finite false c e) / value (.finite false c' e') = c / c' * 10 ^ (e - e') := by
  rw [value_finite, value_finite, zpow_sub₀ (by norm_num)]
  field_simp

/-- A product is off by a roundoff. -/
theorem near_of_mul (h : mul (.finite false c e) (.finite false c' e') = .ok r)
    (hnormal : Normal (value (.finite false c e) * value (.finite false c' e')) ∨
      Normal r.value) :
    Near r.value (value (.finite false c e) * value (.finite false c' e')) := by
  rw [value_mul_value] at hnormal ⊢
  exact near_of_ofQuotient Nat.one_pos h hnormal

/-- A quotient is off by a roundoff. -/
theorem near_of_div (hc : 0 < c') (h : div (.finite false c e) (.finite false c' e') = .ok r)
    (hnormal : Normal (value (.finite false c e) / value (.finite false c' e')) ∨
      Normal r.value) :
    Near r.value (value (.finite false c e) / value (.finite false c' e')) := by
  rw [div_finite c hc] at h
  rw [value_div_value] at hnormal ⊢
  exact near_of_ofQuotient hc h hnormal

end

/-- A number without places is its own integer part. -/
theorem truncate_of_nonneg (c : Nat) {e : Int} (he : 0 ≤ e) :
    (truncate false c e : ℚ) = value (.finite false c e) := by
  rw [value_finite]
  simp [truncate, he, tenTo_toNat he]

/-- The integer part is at most the number. -/
theorem truncate_le (c : Nat) (e : Int) :
    (truncate false c e : ℚ) ≤ value (.finite false c e) := by
  by_cases he : 0 ≤ e
  · exact (truncate_of_nonneg c he).le
  · obtain ⟨k, rfl⟩ : ∃ k : Nat, e = -k := ⟨(-e).toNat, by omega⟩
    have hpart : truncate false c (-k) = (c / tenTo (min k (digitCount c + 1)) : Nat) := by
      rw [truncate, if_neg Bool.false_ne_true, if_neg he, Int.neg_neg, Int.toNat_natCast]
    have hfloor := Nat.cast_div_le (α := ℚ) (m := c) (n := tenTo (min k (digitCount c + 1)))
    rw [value_places, hpart, Int.cast_natCast]
    rcases dropped_cases c k with hj | ⟨hj, hsmall⟩
    · rw [hj, tenTo_cast] at hfloor
      rwa [hj]
    · have hzero : c / tenTo (min k (digitCount c + 1)) = 0 :=
        eq_zero_of_near (x := 0) (by norm_num) (by linarith)
      rw [hzero, Nat.cast_zero]
      positivity

/-- A number placed at a power of ten is at most half of it away from what it was. -/
theorem quantize_nearest {mode : Rounding} (hmode : mode ≠ .ceiling) {place : Int}
    (hlow : tinyExponent ≤ place) (hhigh : place ≤ maxExponent) {c : Nat} {e : Int} {d : Decimal}
    (h : quantize mode place (.finite false c e) = .ok d) :
    ∃ q, d = .finite false q place ∧ digitCount q ≤ precision ∧
      |(q : ℚ) - value (.finite false c e) / 10 ^ place| ≤ 1 / 2 := by
  obtain ⟨q, rfl, hq⟩ := quantize_finite_eq_ok hlow hhigh h
  refine ⟨q, rfl, hq, ?_⟩
  have hshift : value (.finite false c e) / 10 ^ place = c * 10 ^ (e - place) := by
    rw [value_finite, mul_div_assoc, zpow_sub₀ (by norm_num)]
  rw [hshift]
  simp only [quantize] at h
  split_ifs at h with hc hplace hlong hlong
  · obtain ⟨-, rfl, -⟩ := Decimal.finite.inj (Except.ok.inj h)
    simp [hc]
  · cases h
    rw [Nat.cast_mul, tenTo_toNat (by omega), sub_self, abs_zero]
    norm_num
  · cases h
    have hround := abs_dropDigits_sub_le hmode c (place - e).toNat
    rwa [← value_places, value_finite, Int.toNat_of_nonneg (by omega), Int.neg_sub] at hround

/-- A number rounded up to a whole one gets no smaller. -/
theorem toIntegral_ceiling {c : Nat} {e : Int} {d : Decimal}
    (h : toIntegral .ceiling (.finite false c e) = .ok d) :
    ∃ c' e', d = .finite false c' e' ∧ 0 ≤ e' ∧ value (.finite false c e) ≤ d.value := by
  simp only [toIntegral] at h
  split_ifs at h with he hc
  · cases h
    exact ⟨c, e, rfl, he, le_rfl⟩
  · cases h
    refine ⟨0, 0, rfl, le_rfl, ?_⟩
    rw [hc, value_finite, value_finite]
    simp
  · cases h
    refine ⟨_, 0, rfl, le_rfl, ?_⟩
    have hround := le_dropDigits_ceiling c (-e).toNat
    rw [← value_places, Int.toNat_of_nonneg (by omega), Int.neg_neg] at hround
    rw [value_finite _ 0, zpow_zero, mul_one]
    exact hround

end CurrencyLedger.Decimal
