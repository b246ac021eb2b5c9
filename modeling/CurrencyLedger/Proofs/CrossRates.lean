import CurrencyLedger.Proofs.Providers
import CurrencyLedger.Proofs.Quotes

/-!
Rates across a third currency.

A table prices three currencies by three numbers, so the quotient of two of them is the product of
the quotients on the way over the third. What a provider quotes is each quotient but for a roundoff
of its own: going over the third currency makes two of them, going straight one more. All three
together stay below two units of the 27th place. A currency against itself is quoted at one without
a division, which is the quotient exactly.
-/

namespace CurrencyLedger

namespace Decimal

/-- Of a size that results of arithmetic have with all their digits. -/
structure InRange (x : ℚ) : Prop where
  normal : 10 ^ minExponent ≤ x
  fits : Fits x

/-- Numbers that occur are far from both ends. -/
theorem inRange_of_bounds {x : ℚ} (hlow : 1 / 10 ^ 40 ≤ x) (hhigh : x ≤ 10 ^ 40) : InRange x := by
  have hnormal : (10 : ℚ) ^ minExponent ≤ 10 ^ (-40 : ℤ) :=
    zpow_le_zpow_right₀ (by norm_num) (by decide)
  have hpos : (0 : ℚ) ≤ x := le_trans (by norm_num) hlow
  refine ⟨hnormal.trans (le_trans (le_of_eq ?_) hlow), fits_of_le hpos hhigh⟩
  norm_num

/-- Within the range a division succeeds, and is off by a roundoff. -/
theorem InRange.exists_div {a b : Decimal} (h : InRange (a.value / b.value))
    (ha : a.isPositive = true) (hb : b.isPositive = true) :
    ∃ d, a.div b = .ok d ∧ d.isPositive = true ∧ Near d.value (a.value / b.value) := by
  obtain ⟨c, e, -, rfl⟩ := isPositive_iff.1 ha
  obtain ⟨c', e', hc', rfl⟩ := isPositive_iff.1 hb
  obtain ⟨k, j, hdiv, hvalue⟩ := (rounds_div c e e' hc').of_fits h.fits
  have hnormal := h.normal
  have hnear := near_rounded_of_le hnormal
  rw [← hvalue] at hnear
  refine ⟨_, hdiv, isPositive_iff.2 ⟨k, j, ?_, rfl⟩, hnear⟩
  generalize value (.finite false c e) / value (.finite false c' e') = x at hnormal hnear
  by_contra hzero
  have hleast : (0 : ℚ) < 10 ^ minExponent := by positivity
  have hkept := hnear.ge
  rw [Nat.eq_zero_of_not_pos hzero, value_finite, Nat.cast_zero, zero_mul, roundoff_eq] at hkept
  linarith

/-- Two roundoffs on the one side and one on the other. -/
theorem Near.abs_mul_sub_le {v w z x y : ℚ} (hx : 0 ≤ x) (hy : 0 ≤ y) (hv : Near v x)
    (hw : Near w y) (hz : Near z (x * y)) : |v * w - z| ≤ 2 / 10 ^ 27 * z := by
  have hroundoff : 0 ≤ 1 - roundoff := by
    rw [roundoff_eq]
    norm_num
  have hxy : 0 ≤ x * y := mul_nonneg hx hy
  have hv_nonneg : 0 ≤ v := (mul_nonneg hx hroundoff).trans hv.ge
  have hw_nonneg : 0 ≤ w := (mul_nonneg hy hroundoff).trans hw.ge
  have hmost : v * w ≤ x * y * (1 + roundoff) ^ 2 :=
    calc v * w ≤ x * (1 + roundoff) * (y * (1 + roundoff)) := by
          gcongr
          · exact hv_nonneg.trans hv.le
          · exact hv.le
          · exact hw.le
      _ = x * y * (1 + roundoff) ^ 2 := by ring
  have hleast : x * y * (1 - roundoff) ^ 2 ≤ v * w :=
    calc x * y * (1 - roundoff) ^ 2 = x * (1 - roundoff) * (y * (1 - roundoff)) := by ring
      _ ≤ v * w := by
          gcongr
          · exact hv.ge
          · exact hw.ge
  have hz_le := hz.le
  have hz_ge := hz.ge
  rw [roundoff_eq] at hmost hleast hz_le hz_ge
  rw [abs_le]
  constructor <;> linarith

theorem value_one : value .one = 1 := by
  rw [one, scaled, value_finite]
  norm_num

end Decimal

namespace Rate

open Decimal

namespace Provider

/--
At what a provider quotes a currency in another while it prices from a table, however their codes
are spelled.
-/
structure Quotes (p : Provider) (τ : Type) [TimeScale τ] (table : Table) (base target : String)
    (rate : Decimal) : Prop where
  positive : rate.isPositive = true
  answered : ∀ (m m' : Market τ) (b t : Value), Currency.spelling b = base →
    Currency.spelling t = target → p.table.on m = (.ok table, m') →
      ((p.rate b t).on m).1 = .ok rate

section

variable {τ : Type} [TimeScale τ] {table : Table} {base target : String} {b t : Decimal}

/-- A provider quotes a quotient of the table but for a roundoff, also of a currency and itself. -/
theorem exists_quotes (p : Provider) (htable : table.Positive) (hb : table.lookup base = some b)
    (ht : table.lookup target = some t) (h : InRange (t.value / b.value)) :
    ∃ rate, p.Quotes τ table base target rate ∧ Near rate.value (t.value / b.value) := by
  have hbpos := htable.lookup hb
  by_cases hsame : base = target
  · subst hsame
    obtain rfl : b = t := Option.some.inj (hb.symm.trans ht)
    refine ⟨.one, ⟨rfl, fun m m' v w hv hw _ => ?_⟩, ?_⟩
    · rw [on_rate_of_eq (hv.trans hw.symm)]
    · rw [value_one, div_self (value_pos hbpos).ne', Near, sub_self, abs_zero, mul_one]
      exact roundoff_pos.le
  · obtain ⟨rate, hdiv, hpositive, hnear⟩ := h.exists_div (htable.lookup ht) hbpos
    refine ⟨rate, ⟨hpositive, fun m m' v w hv hw hm => ?_⟩, hnear⟩
    have hquote := Table.quote_of_lookup hb ht hbpos (htable.lookup ht)
    rw [hdiv] at hquote
    have hne : Currency.spelling v ≠ Currency.spelling w := by rwa [hv, hw]
    rw [on_rate_of_ne hne, hm, hv, hw]
    exact hquote

end

/--
The rates over a third currency multiply to the rate across but for two units of the 27th place, and
a rate and the one back to one, as long as no quotient is out of the range of arithmetic. In which
case and with which blanks the codes are written makes no difference.
-/
theorem cross_rates_consistent (p : Provider) (τ : Type) [TimeScale τ] {table : Table}
    {first second third : String} {a b c : Decimal} (htable : table.Positive)
    (ha : table.lookup first = some a) (hb : table.lookup second = some b)
    (hc : table.lookup third = some c) (hab : InRange (b.value / a.value)) :
    (InRange (c.value / b.value) → InRange (c.value / a.value) →
      ∃ ab bc ac, p.Quotes τ table first second ab ∧ p.Quotes τ table second third bc ∧
        p.Quotes τ table first third ac ∧
        |ab.value * bc.value - ac.value| ≤ 2 / 10 ^ 27 * ac.value) ∧
    (InRange (a.value / b.value) →
      ∃ ab ba, p.Quotes τ table first second ab ∧ p.Quotes τ table second first ba ∧
        |ab.value * ba.value - 1| ≤ 2 / 10 ^ 27) := by
  have hapos := value_pos (htable.lookup ha)
  have hbpos := value_pos (htable.lookup hb)
  have hcpos := value_pos (htable.lookup hc)
  obtain ⟨ab, hquotes, hnear⟩ := p.exists_quotes (τ := τ) htable ha hb hab
  have hx : 0 ≤ b.value / a.value := by positivity
  refine ⟨fun hbc hac => ?_, fun hba => ?_⟩
  · obtain ⟨bc, hquotes', hnear'⟩ := p.exists_quotes (τ := τ) htable hb hc hbc
    obtain ⟨ac, hquotes'', hnear''⟩ := p.exists_quotes (τ := τ) htable ha hc hac
    have hacross : b.value / a.value * (c.value / b.value) = c.value / a.value := by field_simp
    exact ⟨ab, bc, ac, hquotes, hquotes', hquotes'',
      hnear.abs_mul_sub_le hx (by positivity) hnear' (hacross.symm ▸ hnear'')⟩
  · obtain ⟨ba, hquotes', hnear'⟩ := p.exists_quotes (τ := τ) htable hb ha hba
    have hback : b.value / a.value * (a.value / b.value) = 1 := by field_simp
    have hone : Near 1 (b.value / a.value * (a.value / b.value)) := by
      rw [hback, Near, sub_self, abs_zero, mul_one]
      exact roundoff_pos.le
    have hclose := hnear.abs_mul_sub_le hx (by positivity) hnear' hone
    rw [mul_one] at hclose
    exact ⟨ab, ba, hquotes, hquotes', hclose⟩

/-- Three euros and seven naira for a dollar: both a third and a seventh have to be rounded. -/
def crossTable : Table := [("USD", .ofInt 1), ("EUR", .ofInt 3), ("NGN", .ofInt 7)]

theorem positive_crossTable : crossTable.Positive := by
  intro entry hentry
  simp only [crossTable, List.mem_cons, List.not_mem_nil, or_false] at hentry
  rcases hentry with rfl | rfl | rfl <;> rfl

theorem inRange_crossTable (n m : Nat) (hn : 1 ≤ n ∧ n ≤ 7) (hm : 1 ≤ m ∧ m ≤ 7) :
    InRange (value (.ofInt n) / value (.ofInt m)) := by
  rw [Exchange.value_ofInt_natCast, Exchange.value_ofInt_natCast]
  have hn' : (1 : ℚ) ≤ n ∧ (n : ℚ) ≤ 7 := by exact_mod_cast hn
  have hm' : (1 : ℚ) ≤ m ∧ (m : ℚ) ≤ 7 := by exact_mod_cast hm
  have hpos : (0 : ℚ) < m := by linarith
  refine inRange_of_bounds ?_ ?_
  · rw [le_div_iff₀ hpos]
    linarith
  · rw [div_le_iff₀ hpos]
    linarith

/-- From euros over dollars to naira, and from euros to dollars and back, in any spelling. -/
theorem euro_over_dollar_consistent :
    (∃ ab bc ac, (fixed crossTable).Quotes ℚ crossTable "EUR" "USD" ab ∧
      (fixed crossTable).Quotes ℚ crossTable "USD" "NGN" bc ∧
      (fixed crossTable).Quotes ℚ crossTable "EUR" "NGN" ac ∧
      (((fixed crossTable).rate (.text " eur ") (.text "ngn")).on (Market.fresh (τ := ℚ))).1 =
        .ok ac ∧
      |ab.value * bc.value - ac.value| ≤ 2 / 10 ^ 27 * ac.value) ∧
    ∃ ab ba, (fixed crossTable).Quotes ℚ crossTable "EUR" "USD" ab ∧
      (fixed crossTable).Quotes ℚ crossTable "USD" "EUR" ba ∧
      |ab.value * ba.value - 1| ≤ 2 / 10 ^ 27 := by
  have heuro : crossTable.lookup "EUR" = some (.ofInt 3) := rfl
  have hdollar : crossTable.lookup "USD" = some (.ofInt 1) := rfl
  have hnaira : crossTable.lookup "NGN" = some (.ofInt 7) := rfl
  obtain ⟨hover, hback⟩ := cross_rates_consistent (fixed crossTable) ℚ positive_crossTable heuro
    hdollar hnaira (inRange_crossTable 1 3 (by decide) (by decide))
  obtain ⟨ab, bc, ac, hab, hbc, hac, hclose⟩ := hover
    (inRange_crossTable 7 1 (by decide) (by decide))
    (inRange_crossTable 7 3 (by decide) (by decide))
  refine ⟨⟨ab, bc, ac, hab, hbc, hac, ?_, hclose⟩,
    hback (inRange_crossTable 3 1 (by decide) (by decide))⟩
  exact hac.answered _ _ _ _ (by decide +kernel) (by decide +kernel) rfl

end Provider

end Rate

end CurrencyLedger
