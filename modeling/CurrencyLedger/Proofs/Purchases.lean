import CurrencyLedger.Proofs.Wholes

/-!
What a purchase costs.

A table prices a currency exactly: an amount costs the quotient of two entries, rounded up. A
purchase divides by a rate instead that is itself a quotient, rounded to the precision, and rounds
once more. Being off by two roundoffs the result is on the same side of every whole number as the
price, unless the price is nearly whole. A price that is whole may be missed: at a rate that was
rounded down the quotient lies above it, and a whole unit more is spent.
-/

namespace CurrencyLedger

/-- A quotient of positive numbers that serves as a rate. -/
structure Rate.Quotient (x : ℚ) (r : Decimal) : Prop where
  positive : r.isPositive = true
  /-- It is used as it was computed. -/
  kept : normalize (.decimal r) = .ok r
  bounded : r.value < 10 ^ (Decimal.maxExponent + 1)
  near : Decimal.Normal x → Decimal.Near r.value x

theorem Rate.Quotient.of_div {a b r : Decimal} (ha : a.isPositive = true)
    (hb : b.isPositive = true) (hr : r.isPositive = true) (h : a.div b = .ok r) :
    Rate.Quotient (a.value / b.value) r := by
  obtain ⟨c, e, hc, rfl⟩ := Decimal.isPositive_iff.1 ha
  obtain ⟨c', e', hc', rfl⟩ := Decimal.isPositive_iff.1 hb
  obtain ⟨c₁, e₁, -, rfl⟩ := Decimal.isPositive_iff.1 hr
  have hquotient := h
  rw [Decimal.div_finite c hc'] at hquotient
  have hread := Decimal.ofText?_text false c₁ e₁
  rw [if_pos (Decimal.representable_of_ofQuotient hc hc' hquotient)] at hread
  exact {
    positive := hr
    kept := by simp only [normalize, Value.plain, hread, hr, if_true]
    bounded := Decimal.value_lt_of_ofQuotient hc hc' hquotient
    near := fun hnormal => Decimal.near_of_div hc' h (.inl hnormal) }

namespace Amount

open Decimal

/-- What is spent for an amount that has an exact price. -/
structure Meets (price : ℚ) (spend : Int) : Prop where
  within_one : |spend - ⌈price⌉| ≤ 1
  /-- Only a price that is near to a whole number can be missed. -/
  exact_if_far : (∀ k : Int, tolerance * price < |price - k|) → spend = ⌈price⌉
  enough_if_whole : ∀ k : Int, price = k → k ≤ spend

/-- Rounding up a number that is near to a price of not too many digits meets the price. -/
theorem Meets.of_near {v price : ℚ} (hmax : price ≤ 10 ^ 19)
    (h : |v - price| ≤ tolerance * price) : Meets price ⌈v⌉ := by
  obtain ⟨hbelow, habove⟩ := abs_le.1 h
  have hsmall : tolerance * price ≤ 1 / 2 := by
    rw [tolerance]
    linarith
  have hprice_le := Int.le_ceil price
  have hprice_lt := Int.ceil_lt_add_one price
  have hv_le := Int.le_ceil v
  have hv_lt := Int.ceil_lt_add_one v
  refine ⟨?_, fun hfar => ?_, ?_⟩
  · have hlow : (⌈price⌉ : ℚ) < ⌈v⌉ + 2 := by linarith
    have hhigh : (⌈v⌉ : ℚ) < ⌈price⌉ + 2 := by linarith
    have hlow' : ⌈price⌉ < ⌈v⌉ + 2 := by exact_mod_cast hlow
    have hhigh' : ⌈v⌉ < ⌈price⌉ + 2 := by exact_mod_cast hhigh
    rw [abs_le]
    omega
  · -- A whole number between the two would be near to the price.
    refine le_antisymm (Int.ceil_le.2 ?_) (Int.ceil_le.2 ?_)
    · have hfar := lt_abs.1 (hfar ⌈price⌉)
      rcases hfar with hfar | hfar <;> linarith
    · have hfar := lt_abs.1 (hfar ⌈v⌉)
      rcases hfar with hfar | hfar <;> linarith
  · rintro k rfl
    refine Int.sub_one_lt_iff.1 (Int.lt_ceil.2 ?_)
    push_cast
    linarith

/-- A price of less than half a smallest unit is met by one. -/
theorem Meets.of_small {price : ℚ} (hpos : 0 < price) (hsmall : price < 1 / 2) :
    Meets price 1 := by
  have hceil : ⌈price⌉ = 1 := by
    rw [Int.ceil_eq_iff]
    constructor <;> push_cast <;> linarith
  refine ⟨by rw [hceil, sub_self, abs_zero]; exact Int.one_nonneg, fun _ => hceil.symm, ?_⟩
  rintro k rfl
  exact Int.lt_add_one_iff.1 (by exact_mod_cast hsmall.trans (by norm_num : (1 : ℚ) / 2 < 1 + 1))

section

variable {a : Nat} {rate : Decimal} {spend : Int}

/-- The quotient by a rate that is off is off as much, and a roundoff more. -/
theorem abs_quotient_sub_le {v x y : ℚ} (hx : 0 < x) (ha : 1 ≤ a) (hrate : Near y x)
    (hv : Near v (a / y)) : |v - a / x| ≤ tolerance * (a / x) := by
  have ha' : (1 : ℚ) ≤ a := by exact_mod_cast ha
  have hbelow := hrate.ge
  have habove := hrate.le
  have hv_ge := hv.ge
  have hv_le := hv.le
  have hpos := roundoff_pos
  have hy : 0 < y := by
    refine lt_of_lt_of_le (mul_pos hx ?_) hbelow
    rw [roundoff_eq]
    norm_num
  have hhigh : a / y * (1 - roundoff) ≤ a / x := by
    rw [div_mul_eq_mul_div, div_le_div_iff₀ hy hx]
    calc a * (1 - roundoff) * x = a * (x * (1 - roundoff)) := by ring
      _ ≤ a * y := by gcongr
  have hlow : a / x ≤ a / y * (1 + roundoff) := by
    rw [div_mul_eq_mul_div, div_le_div_iff₀ hx hy]
    calc a * y ≤ a * (x * (1 + roundoff)) := by gcongr
      _ = a * (1 + roundoff) * x := by ring
  have hprice : 0 < a / x := by positivity
  rw [roundoff_eq] at hhigh hlow hv_ge hv_le
  rw [tolerance, abs_le]
  constructor <;> linarith

/-- However small the exact quotient is, something is left of it. -/
theorem one_le_cover (ha : 1 ≤ a) (hrate : rate.isPositive = true)
    (hmax : rate.value < 10 ^ (maxExponent + 1)) (h : cover a rate = .ok spend) : 1 ≤ spend := by
  obtain ⟨c, e, hquotient, rfl⟩ := eq_ceil_of_cover hrate h
  have hpos := value_pos hrate
  have ha' : (1 : ℚ) ≤ a := by exact_mod_cast ha
  have htiny : (10 : ℚ) ^ tinyExponent ≤ a / rate.value :=
    calc (10 : ℚ) ^ tinyExponent ≤ 10 ^ (-(maxExponent + 1)) :=
          zpow_le_zpow_right₀ (by norm_num) (by decide)
      _ = 1 / 10 ^ (maxExponent + 1) := by rw [zpow_neg, one_div]
      _ ≤ a / rate.value := by gcongr
  have hreached := reached_div (a := .finite false a 0) (isPositive_iff.2 ⟨a, 0, ha, rfl⟩) hrate
  rw [hquotient, value_finite a 0, zpow_zero, mul_one] at hreached
  cases hreached with
  | within hleft => exact Int.one_le_ceil_iff.2 (value_pos hleft)
  | vanished hlost => exact absurd hlost (not_lt.2 htiny)

/-- An amount of a price within reach is covered. -/
theorem exists_cover {x : ℚ} (hx : 0 < x) (ha : 1 ≤ a) (hmax : a / x ≤ 10 ^ 19)
    (hrate : rate.isPositive = true) (hnear : Near rate.value x) :
    ∃ spend, cover a rate = .ok spend := by
  cases h : cover a rate with
  | ok spend => exact ⟨spend, rfl⟩
  | error f =>
    exfalso
    obtain ⟨-, -, hbeyond⟩ := cover_eq_error ha hrate h
    have hbelow := hnear.ge
    have hfar := ten_pow_le_maxExponent
    have hlarge : 10 ^ 40 ≤ a / rate.value := hfar.trans hbeyond
    rw [le_div_iff₀ (value_pos hrate)] at hlarge
    rw [div_le_iff₀ hx] at hmax
    rw [roundoff_eq] at hbelow
    linarith

/-- What covers an amount at a rate that is off by a roundoff meets the exact price. -/
theorem meets_of_cover {x : ℚ} (hx : 0 < x) (ha : 1 ≤ a) (hmax : a / x ≤ 10 ^ 19)
    (hrate : Rate.Quotient x rate) (hnear : Near rate.value x) (h : cover a rate = .ok spend) :
    Meets (a / x) spend := by
  have ha' : (1 : ℚ) ≤ a := by exact_mod_cast ha
  have hpos := value_pos hrate.positive
  have hprice : 0 < a / x := by positivity
  rcases lt_or_ge (a / x) (1 / 2) with hsmall | hlarge
  · -- The quotient may be too small for all its digits, but it is less than one.
    have hone : spend ≤ 1 := by
      refine cover_le_of_quotient_le hrate.positive h (k := 1) (by rw [wholeLimit]; norm_num) ?_
      have hbelow := hnear.ge
      rw [div_lt_iff₀ hx] at hsmall
      rw [Nat.cast_one, div_le_one hpos]
      rw [roundoff_eq] at hbelow
      linarith
    obtain rfl := le_antisymm hone (one_le_cover ha hrate.positive hrate.bounded h)
    exact .of_small hprice hsmall
  · obtain ⟨c, e, hquotient, rfl⟩ := eq_ceil_of_cover hrate.positive h
    obtain ⟨c', e', hc', rfl⟩ := isPositive_iff.1 hrate.positive
    have hexact : value (.finite false a 0) / value (.finite false c' e') =
        a / value (.finite false c' e') := by
      rw [value_finite a 0, zpow_zero, mul_one]
    have hnormal : Normal (a / value (.finite false c' e')) := by
      refine normal_of_le ?_
      have habove := hnear.le
      rw [le_div_iff₀ hx] at hlarge
      rw [le_div_iff₀ hpos]
      rw [roundoff_eq] at habove
      linarith
    have hv : Near (value (.finite false c e)) (a / value (.finite false c' e')) := by
      rw [← hexact] at hnormal ⊢
      exact near_of_div hc' hquotient (.inl hnormal)
    exact .of_near hmax (abs_quotient_sub_le hx ha hnear hv)

/-- At a rate that is not too low no more than the price is spent, rounded up. -/
theorem cover_le_ceil {x : ℚ} (hx : 0 < x) (hmax : a / x ≤ 10 ^ 19)
    (hrate : rate.isPositive = true) (hle : x ≤ rate.value) (h : cover a rate = .ok spend) :
    spend ≤ ⌈(a : ℚ) / x⌉ := by
  obtain ⟨k, hk⟩ := Int.eq_ofNat_of_zero_le (Int.ceil_nonneg (by positivity : (0 : ℚ) ≤ a / x))
  have hceil_lt := Int.ceil_lt_add_one ((a : ℚ) / x)
  have hle_ceil := Int.le_ceil ((a : ℚ) / x)
  rw [hk, Int.cast_natCast] at hceil_lt hle_ceil
  rw [hk]
  refine cover_le_of_quotient_le hrate h ?_ (le_trans ?_ hle_ceil)
  · rw [wholeLimit]
    linarith
  · gcongr

end

end Amount

namespace Exchange

section

variable {table : Rate.Table} {base quote : String} {b q : Decimal} {a : Nat}

/--
At the rate that a table quotes, unless decimals do not reach that far, an amount is covered by what
it exactly costs, rounded up, or by one unit more or less. It is exactly that unless the price is
nearly whole. A whole price is never fallen short of, nor exceeded at a rate that was not rounded
down.
-/
theorem spend_meets_price (hbase : Currency.isCode base = true)
    (hquote : Currency.isCode quote = true) (hne : quote ≠ base)
    (hb : table.lookup base = some b) (hq : table.lookup quote = some q)
    (hbpos : b.isPositive = true) (hqpos : q.isPositive = true) (ha : 1 ≤ a)
    (hmax : a * q.value / b.value ≤ Column.maxInteger) :
    (tableRates table quote base = .error (.arithmetic .overflow) ∧
      10 ^ Decimal.maxExponent ≤ b.value / q.value) ∨
    ∃ (rate : Decimal) (spend : Int), tableRates table quote base = .ok (.decimal rate) ∧
      Rate.normalize (.decimal rate) = .ok rate ∧ Amount.cover a rate = .ok spend ∧
      Amount.Meets (a * q.value / b.value) spend ∧
      (b.value / q.value ≤ rate.value → spend ≤ ⌈a * q.value / b.value⌉) := by
  have ha' : (1 : ℚ) ≤ a := by exact_mod_cast ha
  have hb' := Decimal.value_pos hbpos
  have hq' := Decimal.value_pos hqpos
  have hexact : a * q.value / b.value = a / (b.value / q.value) := by field_simp
  have hmax' : a / (b.value / q.value) ≤ 10 ^ 19 := by
    rw [← hexact]
    exact hmax.trans (by norm_num [Column.maxInteger])
  have hx : 0 < b.value / q.value := by positivity
  have hlow : 1 / 10 ^ 19 ≤ b.value / q.value := by
    rw [div_le_iff₀ hx] at hmax'
    linarith
  rw [tableRates_eq table hquote hbase hne, Rate.Table.quote_of_lookup hq hb hqpos hbpos, hexact]
  have hreached := Decimal.reached_div hbpos hqpos
  cases hrate : b.div q with
  | error s =>
    rw [hrate] at hreached
    cases hreached with
    | beyond hbeyond => exact .inl ⟨rfl, hbeyond⟩
  | ok rate =>
    have hpositive : rate.isPositive = true := by
      rw [hrate] at hreached
      cases hreached with
      | within hleft => exact hleft
      | vanished hlost =>
        have htiny : (10 : ℚ) ^ Decimal.tinyExponent ≤ 10 ^ (-19 : Int) :=
          zpow_le_zpow_right₀ (by norm_num) (by decide)
        norm_num at htiny hlow
        linarith
    have hquotient := Rate.Quotient.of_div hbpos hqpos hpositive hrate
    have hnear := hquotient.near (Decimal.normal_of_le (by linarith))
    obtain ⟨spend, hspend⟩ := Amount.exists_cover hx ha hmax' hpositive hnear
    exact .inr ⟨rate, spend, rfl, hquotient.kept, hspend,
      Amount.meets_of_cover hx ha hmax' hquotient hnear hspend,
      fun hle => Amount.cover_le_ceil hx hmax' hpositive hle hspend⟩

/-- Nine euros for a dollar. -/
def nineTable : Rate.Table := [("USD", .ofInt 1), ("EUR", .ofInt 9)]

/-- A ninth, as it is quoted: it is rounded down. -/
def quotedNinth : Decimal := .finite false 1111111111111111111111111111 (-28)

theorem tableRates_nineTable : tableRates nineTable "EUR" "USD" = .ok (.decimal quotedNinth) := by
  rw [tableRates_eq nineTable (by decide) (by decide) (by decide), map_eq_ok]
  exact ⟨quotedNinth, by decide +kernel, rfl⟩

/-- A hundred dollar cents cost nine hundred of the euro, and one more at most is spent. -/
theorem hundred_at_nine_met : ∃ spend, Amount.cover 100 quotedNinth = .ok spend ∧
    Amount.Meets (100 * 9 / 1) spend := by
  have hone : Decimal.value (.ofInt 1) = 1 := by
    rw [show Decimal.ofInt 1 = .finite false 1 0 from rfl, Decimal.value_finite]
    norm_num
  have hnine : Decimal.value (.ofInt 9) = 9 := by
    rw [show Decimal.ofInt 9 = .finite false 9 0 from rfl, Decimal.value_finite]
    norm_num
  have hprice : ((100 : Nat) : ℚ) * Decimal.value (.ofInt 9) / Decimal.value (.ofInt 1) ≤
      Column.maxInteger := by
    rw [hone, hnine]
    norm_num [Column.maxInteger]
  have hdollar : nineTable.lookup "USD" = some (.ofInt 1) := rfl
  have heuro : nineTable.lookup "EUR" = some (.ofInt 9) := rfl
  rcases spend_meets_price (by decide) (by decide) (by decide) hdollar heuro rfl rfl (by decide)
    hprice with ⟨hoverflow, -⟩ | ⟨rate, spend, hquoted, -, hcover, hmeets, -⟩
  · rw [tableRates_nineTable] at hoverflow
    cases hoverflow
  · rw [tableRates_nineTable] at hquoted
    cases hquoted
    rw [hone, hnine] at hmeets
    exact ⟨spend, hcover, hmeets⟩

/--
The price is not always what is spent: dividing by the ninth that was rounded down gives a little
more than nine hundred, and a unit is added for it.
-/
theorem whole_price_is_missed : ¬ ∀ (table : Rate.Table) (base quote : String)
    (b q rate : Decimal) (a : Nat), table.lookup base = some b → table.lookup quote = some q →
      b.isPositive = true → q.isPositive = true → 1 ≤ a →
      a * q.value / b.value ≤ Column.maxInteger →
      tableRates table quote base = .ok (.decimal rate) →
      (do Amount.cover a (← ofLedger (Rate.normalize (.decimal rate)))) =
        .ok ⌈a * q.value / b.value⌉ := by
  intro h
  have hspend := h nineTable "USD" "EUR" (.ofInt 1) (.ofInt 9) quotedNinth 100 rfl rfl rfl rfl
    (by decide) (by decide +kernel) tableRates_nineTable
  exact absurd hspend (by decide +kernel)

end

end Exchange

end CurrencyLedger
