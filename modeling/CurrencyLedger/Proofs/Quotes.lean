import CurrencyLedger.Proofs.Conversions
import CurrencyLedger.Proofs.Purchases

/-!
What is received at a quoted rate.

A table prices an amount exactly, by the quotient of two entries. A provider quotes what the
precision keeps of the quotient, or answers with nothing or a refusal where the exponents do not
reach it. What is received at the quote is the exact price, rounded half-up, unless the price lies
so near to the middle between two units that the digits which are not kept decide: at a rate that
was rounded down a price of a half and no more may be rounded down too. Converting there and back
the half unit that was rounded away is worth as many units as the rate back says, and half a unit is
rounded away once more; all other digits are too small to count.
-/

namespace CurrencyLedger

namespace Exchange

/-- What a table answers for two currencies whose entries have the quotient `x`. -/
inductive Quoted (x : ℚ) : Except Failure Value → Prop
  | usable {rate : Decimal} (hrate : rate.isPositive = true)
      (hvalue : rate.value = Decimal.rounded x)
      (hkept : Rate.normalize (.decimal rate) = .ok rate) : Quoted x (.ok (.decimal rate))
  | vanished {e : Int} (h : x < 10 ^ Decimal.tinyExponent) :
      Quoted x (.ok (.decimal (.finite false 0 e)))
  | refused (h : (10 : ℚ) ^ Decimal.maxExponent ≤ x) : Quoted x (.error (.arithmetic .overflow))

theorem quoted_div {a b : Decimal} (ha : a.isPositive = true) (hb : b.isPositive = true) :
    Quoted (a.value / b.value) (Value.decimal <$> ofSignal (a.div b)) := by
  have hreached := Decimal.reached_div ha hb
  cases h : a.div b with
  | error s =>
    rw [h] at hreached
    cases hreached with
    | beyond hlarge => exact .refused hlarge
  | ok rate =>
    rw [h] at hreached
    cases hreached with
    | vanished hlost => exact .vanished hlost
    | within hrate =>
      refine .usable hrate ?_ (Rate.Quotient.of_div ha hb hrate h).kept
      obtain ⟨c, e, -, rfl⟩ := Decimal.isPositive_iff.1 ha
      obtain ⟨c', e', hc', rfl⟩ := Decimal.isPositive_iff.1 hb
      obtain ⟨-, _, _, rfl, hvalue⟩ := (h ▸ Decimal.rounds_div c e e' hc').of_ok
      exact hvalue

theorem quoted_one : Quoted 1 (.ok (.decimal .one)) := by
  refine .usable rfl ?_ (by decide +kernel)
  have hone : Decimal.rounded 1 = 1 := Decimal.rounded_ten_zpow (k := 0) (by decide)
  rw [hone, Decimal.one, Decimal.scaled, Decimal.value_finite]
  norm_num

section

variable {table : Rate.Table} {base target : String} {b t : Decimal}

/-- Between numbers that occur a quotient is quoted. -/
theorem Quoted.exists_usable {x : ℚ} {answer : Except Failure Value} (h : Quoted x answer)
    (hlow : 1 / 10 ^ 40 ≤ x) (hhigh : x < 10 ^ 40) : ∃ rate : Decimal,
      answer = .ok (.decimal rate) ∧ rate.isPositive = true ∧ rate.value = Decimal.rounded x := by
  cases h with
  | usable hrate hvalue => exact ⟨_, rfl, hrate, hvalue⟩
  | vanished hlost =>
    have htiny : (10 : ℚ) ^ Decimal.tinyExponent ≤ 10 ^ (-40 : ℤ) :=
      zpow_le_zpow_right₀ (by norm_num) (by decide)
    norm_num at htiny hlow
    linarith
  | refused hlarge =>
    have hfar := Amount.ten_pow_le_maxExponent
    linarith

/-- A currency against itself is quoted at one, which is the quotient too. -/
theorem quoted_tableRates (hb : table.lookup (Currency.spelling (.text base)) = some b)
    (ht : table.lookup (Currency.spelling (.text target)) = some t)
    (hbpos : b.isPositive = true) (htpos : t.isPositive = true) :
    Quoted (t.value / b.value) (tableRates table base target) := by
  rw [tableRates, providerRates, Rate.Provider.rate]
  by_cases hsame : Currency.spelling (.text base) = Currency.spelling (.text target)
  · rw [← hsame, hb] at ht
    obtain rfl := Option.some.inj ht
    rw [if_pos hsame, div_self (Decimal.value_pos hbpos).ne']
    exact quoted_one
  · rw [if_neg hsame]
    show Quoted _ (Value.decimal <$> table.quote _ _)
    rw [Rate.Table.quote_of_lookup hb ht hbpos htpos]
    exact quoted_div htpos hbpos

end

end Exchange

namespace Amount

open Decimal

/-- What is received for an amount that has an exact price. -/
structure Yields (price : ℚ) (received : Int) : Prop where
  near : |received - price| ≤ 1 / 2 + tolerance * price
  within_one : |received - round price| ≤ 1
  /-- Only a price that is near to the middle between two units can be missed. -/
  exact_if_far : (∀ k : Int, tolerance * price < |price - (k + 1 / 2)|) → received = round price

/-- The nearest unit to a number that is near to a price of not too many digits. -/
theorem Yields.of_near {v price : ℚ} (hmax : price ≤ 10 ^ 19)
    (h : |v - price| ≤ tolerance * price) : Yields price (round v) := by
  obtain ⟨hbelow, habove⟩ := abs_le.1 h
  have hsmall : tolerance * price ≤ 1 / 2 := by
    rw [tolerance]
    linarith
  have hv_lt := sub_half_lt_round v
  have hv_le := round_le_add_half v
  have hprice_lt := sub_half_lt_round price
  have hprice_le := round_le_add_half price
  refine ⟨?_, ?_, fun hfar => ?_⟩
  · rw [abs_le]
    constructor <;> linarith
  · have hlow : (round price : ℚ) < round v + 2 := by linarith
    have hhigh : (round v : ℚ) < round price + 2 := by linarith
    have hlow' : round price < round v + 2 := by exact_mod_cast hlow
    have hhigh' : round v < round price + 2 := by exact_mod_cast hhigh
    rw [abs_le]
    omega
  · -- A middle between the two would be near to the price.
    by_contra hne
    rcases lt_or_gt_of_ne hne with hlt | hgt
    · have hfar := lt_abs.1 (hfar (round v))
      have hsucc : (round v : ℚ) + 1 ≤ round price := by exact_mod_cast hlt
      rcases hfar with hfar | hfar <;> linarith
    · have hfar := lt_abs.1 (hfar (round price))
      have hsucc : (round price : ℚ) + 1 ≤ round v := by exact_mod_cast hgt
      rcases hfar with hfar | hfar <;> linarith

/-- Of a price of less than half a unit nothing is received. -/
theorem Yields.of_small {v price : ℚ} (hprice : 0 ≤ price) (hsmall : price < 1 / 2) (hv : 0 ≤ v)
    (hv' : v < 1 / 2) : Yields price (round v) := by
  have hzero {x : ℚ} (hx : 0 ≤ x) (hx' : x < 1 / 2) : round x = 0 := by
    rw [round_eq_zero_iff]
    constructor <;> linarith
  rw [hzero hv hv']
  have htolerance : 0 ≤ tolerance * price := mul_nonneg (by norm_num [tolerance]) hprice
  refine ⟨?_, ?_, fun _ => (hzero hprice hsmall).symm⟩
  · rw [Int.cast_zero, zero_sub, abs_neg, abs_of_nonneg hprice]
    linarith
  · rw [hzero hprice hsmall, sub_self, abs_zero]
    exact Int.one_nonneg

section

variable {n : Nat} {x : ℚ}

theorem proceeds_nonneg {rate : ℚ} (hrate : 0 ≤ rate) : 0 ≤ proceeds n rate :=
  mul_nonneg (by norm_num)
    (rounded_nonneg (mul_nonneg (rounded_nonneg (by positivity)) hrate))

/-- At a quoted rate an amount comes to its exact price, but for three roundoffs. -/
theorem abs_proceeds_rounded_sub_le (hn : 1 ≤ n) (hmax : (n : ℚ) ≤ 10 ^ 19) (hx : 0 ≤ x) :
    |proceeds n (rounded x) - n * x| ≤ 17 / 10 ^ 28 * (n * x) + 1 / 10 ^ 40 := by
  have hdust := dust_le
  have hprice : 0 ≤ n * x := by positivity
  obtain ⟨hbelow, habove⟩ := abs_le.1 (abs_proceeds_sub_le hn (rounded_nonneg hx))
  obtain ⟨hlow, hhigh⟩ := abs_le.1 (abs_rounded_sub_le hx)
  have hlow' : n * (x - (roundoff * x + 1 / 10 ^ 60)) ≤ n * rounded x := by
    gcongr
    linarith
  have hhigh' : n * rounded x ≤ n * (x + (roundoff * x + 1 / 10 ^ 60)) := by
    gcongr
    linarith
  rw [roundoff_eq] at hlow' hhigh'
  rw [abs_le]
  constructor <;> linarith

/-- What is received at a quoted rate is what the exact price yields. -/
theorem yields_of_receives {m : Int} (hn : 1 ≤ n) (hmax : (n : ℚ) ≤ 10 ^ 19) (hx : 0 ≤ x)
    (hprice : n * x ≤ 10 ^ 19) (h : Receives n (rounded x) m) : Yields (n * x) m := by
  have hnear := abs_proceeds_rounded_sub_le hn hmax hx
  have hnonneg : 0 ≤ n * x := by positivity
  obtain ⟨hbelow, habove⟩ := abs_le.1 hnear
  rw [h.nearest]
  rcases lt_or_ge (n * x) (1 / 4) with hsmall | hlarge
  · exact .of_small hnonneg (by linarith) (proceeds_nonneg (rounded_nonneg hx)) (by linarith)
  · refine .of_near hprice (hnear.trans ?_)
    rw [tolerance]
    linarith

/-- At a rate that is not too low no less is received than the price, rounded half-up. -/
theorem round_le_of_receives {rate : ℚ} {m : Int} (hmax : (n : ℚ) ≤ 10 ^ 19) (hx : 0 ≤ x)
    (hprice : n * x ≤ 10 ^ 19) (hle : x ≤ rate) (h : Receives n rate m) : round (n * x) ≤ m := by
  have hn : n < tenTo precision := by
    have : n ≤ 10 ^ 19 := by exact_mod_cast hmax
    exact this.trans_lt (by decide)
  have hnonneg : 0 ≤ n * x := by positivity
  rw [h.nearest]
  rcases le_or_gt (round (n * x)) 0 with hzero | hpos
  · refine hzero.trans ?_
    rw [← round_zero (α := ℚ)]
    exact round_mono (proceeds_nonneg (hx.trans hle))
  · -- The middle below the price rounded half-up is kept, in major units.
    obtain ⟨k, hk⟩ : ∃ k : Nat, round (n * x) = k + 1 := ⟨(round (n * x) - 1).toNat, by omega⟩
    have hmiddle : (k : ℚ) + 1 / 2 ≤ n * x := by
      have := round_le_add_half (n * x)
      rw [hk] at this
      push_cast at this
      linarith
    have hfew : 10 * k + 5 < tenTo precision := by
      have : (k : ℚ) ≤ 10 ^ 19 := by linarith
      have : k ≤ 10 ^ 19 := by exact_mod_cast this
      have : (10 : Nat) * 10 ^ 19 + 5 < tenTo precision := by decide
      omega
    have hplaces : ((10 * k + 5 : Nat) : ℚ) * 10 ^ (-3 : ℤ) = (k + 1 / 2) / 100 := by
      push_cast
      norm_num
      ring
    have hkept := rounded_of_digits hfew (k := -3) (by decide)
    have hproduct : ((10 * k + 5 : Nat) : ℚ) * 10 ^ (-3 : ℤ) ≤ n / 100 * rate :=
      calc ((10 * k + 5 : Nat) : ℚ) * 10 ^ (-3 : ℤ) = (k + 1 / 2) / 100 := hplaces
        _ ≤ n * x / 100 := by gcongr
        _ ≤ n * rate / 100 := by gcongr
        _ = n / 100 * rate := by ring
    have hreached := rounded_mono (by positivity) hproduct
    rw [hkept, hplaces] at hreached
    rw [hk, round_eq, Int.le_floor, proceeds, rounded_hundredth hn]
    push_cast
    linarith

/-- Amounts and prices that can be stored are not too large to be converted. -/
theorem exists_convert {rate : Decimal} (hn : 1 ≤ n) (hmax : (n : ℚ) ≤ 10 ^ 19)
    (hrate : rate.isPositive = true) (hprice : n * rate.value < 5 * 10 ^ 27) :
    ∃ m, convert n rate = .ok m := by
  refine (convert_cases n hrate).resolve_left ?_
  rintro ⟨s, h⟩
  have hfar := ten_pow_le_maxExponent
  obtain ⟨-, -, hlarge | hlarge⟩ := convert_eq_error hn hrate h <;> linarith

theorem exists_convert_rounded {rate : Decimal} (hn : 1 ≤ n) (hmax : (n : ℚ) ≤ 10 ^ 19)
    (hrate : rate.isPositive = true) (hvalue : rate.value = rounded x) (hx : 0 ≤ x)
    (hprice : n * x ≤ 10 ^ 20) : ∃ m, convert n rate = .ok m := by
  have hdust := dust_le
  have hclose := (abs_le.1 (abs_rounded_sub_le hx)).2
  have hle : n * rounded x ≤ n * (x + (roundoff * x + 1 / 10 ^ 60)) := by
    gcongr
    linarith
  refine exists_convert hn hmax hrate ?_
  rw [roundoff_eq] at hle
  rw [hvalue]
  linarith

/-! ### There and back -/

variable {a y : Nat} {u : ℚ}

/-- If something is received for an amount, it is priced back near to the amount. -/
theorem price_back (ha : 1 ≤ a) (hmax : (a : ℚ) ≤ 10 ^ 19) (hx : 0 < x) (hxu : x * u = 1)
    (hy : 1 ≤ y) (h : Receives a (rounded x) y) :
    u ≤ 3 * 10 ^ 19 ∧ |y * u - a| ≤ u / 2 + 1 / 10 ^ 7 := by
  have hu : 0 ≤ u := nonneg_of_mul_nonneg_right (zero_le_one.trans hxu.ge) hx
  have hback : a * x * u = a := by rw [mul_assoc, hxu, mul_one]
  obtain ⟨hbelow, habove⟩ := abs_le.1 (abs_proceeds_rounded_sub_le ha hmax hx.le)
  obtain ⟨hlow, hhigh⟩ := abs_le.1 (abs_sub_round (proceeds a (rounded x)))
  rw [← h.nearest, Int.cast_natCast] at hlow hhigh
  have hy' : (1 : ℚ) ≤ y := by exact_mod_cast hy
  have hprice : 49 / 100 ≤ a * x := by linarith
  have hlarge := mul_le_mul_of_nonneg_right hprice hu
  rw [hback] at hlarge
  have hleast : (a * x - (1 / 2 + 17 / 10 ^ 28 * (a * x) + 1 / 10 ^ 40)) * u ≤ y * u := by
    gcongr
    linarith
  have hmost : y * u ≤ (a * x + (1 / 2 + 17 / 10 ^ 28 * (a * x) + 1 / 10 ^ 40)) * u := by
    gcongr
    linarith
  refine ⟨by linarith, ?_⟩
  rw [abs_le]
  constructor <;> linarith

/-- Two half units are rounded away, the first of which is worth what the rate back says. -/
theorem abs_round_trip_sub_le {z : Int} (ha : 1 ≤ a) (hmax : (a : ℚ) ≤ 10 ^ 19) (hx : 0 < x)
    (hxu : x * u = 1) (hy : 1 ≤ y) (hymax : (y : ℚ) ≤ 10 ^ 19) (hthere : Receives a (rounded x) y)
    (hback : Receives y (rounded u) z) : |(z : ℚ) - a| ≤ (1 + rounded u) / 2 + 1 / 10 ^ 6 := by
  have hu : 0 ≤ u := nonneg_of_mul_nonneg_right (zero_le_one.trans hxu.ge) hx
  obtain ⟨hfew, hprice⟩ := price_back ha hmax hx hxu hy hthere
  obtain ⟨hlow, hhigh⟩ := abs_le.1 hprice
  obtain ⟨hbelow, habove⟩ := abs_le.1 (abs_proceeds_rounded_sub_le hy hymax hu)
  obtain ⟨hdown, hup⟩ := abs_le.1 (abs_sub_round (proceeds y (rounded u)))
  have hkept := (abs_le.1 (abs_rounded_sub_le hu)).1
  have hdust := dust_le
  rw [roundoff_eq] at hkept
  rw [hback.nearest, abs_le]
  constructor <;> linarith

end

end Amount

namespace Exchange

section

variable {table : Rate.Table} {base target : String} {b t : Decimal} {a : Nat}

/-- What is received at a quoted rate is received at what is kept of the quotient. -/
theorem Quoted.receives {x : ℚ} {rate : Decimal} (h : Quoted x (.ok (.decimal rate))) {m : Int}
    (hm : Amount.convert a rate = .ok m) (hone : 1 ≤ m) :
    Amount.Receives a (Decimal.rounded x) m := by
  cases h with
  | usable hrate hvalue =>
    obtain ⟨c, e, -, rfl⟩ := Decimal.isPositive_iff.1 hrate
    rw [← hvalue]
    exact Amount.convert_eq_ok_iff.1 hm
  | @vanished e hlost =>
    -- At a rate of zero nothing is received.
    have hnearest := (Amount.convert_eq_ok_iff.1 hm).nearest
    rw [Decimal.value_finite, Nat.cast_zero, zero_mul, Amount.proceeds, mul_zero,
      Decimal.rounded_zero, mul_zero, round_zero] at hnearest
    exact absurd (hnearest ▸ hone) (by decide)

theorem normalize_vanished (e : Int) :
    Rate.normalize (.decimal (.finite false 0 e)) = .error Rate.unavailable := by
  simp only [Rate.normalize, Value.plain, Decimal.ofText?_text]
  split_ifs <;> rfl

theorem le_of_le_maxInteger {k : Int} (h : k ≤ Column.maxInteger) : (k : ℚ) ≤ 10 ^ 19 := by
  have : k ≤ 10 ^ 19 := h.trans (by decide)
  exact_mod_cast this

/--
At the rate that a table quotes, unless so little is left of it that it is refused, an amount yields
its exact price rounded half-up, or one unit more or less. It is exactly that unless the price is
nearly a whole number and a half. At a rate that was not rounded down it is never less.
-/
theorem conversion_meets_price (hb : table.lookup (Currency.spelling (.text base)) = some b)
    (ht : table.lookup (Currency.spelling (.text target)) = some t)
    (hbpos : b.isPositive = true) (htpos : t.isPositive = true) (ha : 1 ≤ a)
    (hmax : a ≤ Column.maxInteger) (hprice : a * t.value / b.value ≤ Column.maxInteger) :
    (t.value / b.value < 10 ^ Decimal.tinyExponent ∧ ∃ rate,
      tableRates table base target = .ok (.decimal rate) ∧
      Rate.normalize (.decimal rate) = .error Rate.unavailable) ∨
    ∃ (rate : Decimal) (m : Int), tableRates table base target = .ok (.decimal rate) ∧
      Rate.normalize (.decimal rate) = .ok rate ∧ Amount.convert a rate = .ok m ∧
      Amount.Yields (a * t.value / b.value) m ∧
      (t.value / b.value ≤ rate.value → round (a * t.value / b.value) ≤ m) := by
  have ha' : (1 : ℚ) ≤ a := by exact_mod_cast ha
  have hbvalue := Decimal.value_pos hbpos
  have htvalue := Decimal.value_pos htpos
  have hx : 0 < t.value / b.value := by positivity
  have hmax' : (a : ℚ) ≤ 10 ^ 19 := by exact_mod_cast le_of_le_maxInteger hmax
  have hprice' : a * (t.value / b.value) ≤ 10 ^ 19 := by
    rw [← mul_div_assoc]
    exact hprice.trans (le_of_le_maxInteger le_rfl)
  have hquoted := quoted_tableRates hb ht hbpos htpos
  rw [mul_div_assoc]
  generalize t.value / b.value = x at *
  cases hrates : tableRates table base target with
  | error f =>
    rw [hrates] at hquoted
    cases hquoted with
    | refused hlarge =>
      have hfar := Amount.ten_pow_le_maxExponent
      have hone : 1 * x ≤ a * x := by gcongr
      linarith
  | ok v =>
    rw [hrates] at hquoted
    cases hquoted with
    | vanished hlost => exact .inl ⟨hlost, _, rfl, normalize_vanished _⟩
    | @usable rate hrate hvalue hkept =>
      obtain ⟨m, hm⟩ := Amount.exists_convert_rounded ha hmax' hrate hvalue hx.le (by linarith)
      refine .inr ⟨rate, m, rfl, hkept, hm, ?_⟩
      obtain ⟨c, e, -, rfl⟩ := Decimal.isPositive_iff.1 hrate
      have hreceives := Amount.convert_eq_ok_iff.1 hm
      refine ⟨?_, fun hle => Amount.round_le_of_receives hmax' hx.le hprice' hle hreceives⟩
      rw [hvalue] at hreceives
      exact Amount.yields_of_receives ha hmax' hx.le hprice' hreceives

/-- Ninety euros for a dollar. -/
def ninetyTable : Rate.Table := [("USD", .ofInt 1), ("EUR", .ofInt 90)]

/-- A ninetieth, as it is quoted: it is rounded down. -/
def quotedNinetieth : Decimal := .finite false 1111111111111111111111111111 (-29)

theorem tableRates_ninetyTable :
    tableRates ninetyTable "EUR" "USD" = .ok (.decimal quotedNinetieth) := by
  rw [tableRates_eq ninetyTable (by decide) (by decide) (by decide), map_eq_ok]
  exact ⟨quotedNinetieth, by decide +kernel, rfl⟩

theorem lookup_dollar :
    ninetyTable.lookup (Currency.spelling (.text "USD")) = some (.ofInt 1) := by decide +kernel

theorem lookup_euro :
    ninetyTable.lookup (Currency.spelling (.text "EUR")) = some (.ofInt 90) := by decide +kernel

theorem value_ofInt_natCast (n : Nat) : Decimal.value (.ofInt n) = n := by
  rw [Decimal.ofInt_natCast, Decimal.value_finite, zpow_zero, mul_one]

/-- Of nine and a half cents nine are received, or ten. -/
theorem half_cent_at_ninety_met : ∃ m, Amount.convert 855 quotedNinetieth = .ok m ∧
    Amount.Yields (855 * 1 / 90) m := by
  have hone : Decimal.value (.ofInt 1) = 1 := by exact_mod_cast value_ofInt_natCast 1
  have hninety : Decimal.value (.ofInt 90) = 90 := by exact_mod_cast value_ofInt_natCast 90
  have hprice : ((855 : Nat) : ℚ) * Decimal.value (.ofInt 1) / Decimal.value (.ofInt 90) ≤
      Column.maxInteger := by
    rw [hone, hninety]
    norm_num [Column.maxInteger]
  rcases conversion_meets_price lookup_euro lookup_dollar rfl rfl (by decide) (by decide) hprice
    with ⟨hlost, -⟩ | ⟨rate, m, hquoted, -, hm, hyields, -⟩
  · have hfar : (10 : ℚ) ^ Decimal.tinyExponent ≤ 10 ^ (-60 : ℤ) :=
      zpow_le_zpow_right₀ (by norm_num) (by decide)
    rw [hone, hninety] at hlost
    norm_num at hlost hfar
    linarith
  · rw [tableRates_ninetyTable] at hquoted
    cases hquoted
    rw [hone, hninety] at hyields
    exact ⟨m, hm, hyields⟩

/--
A price of a half is not always rounded up: the ninetieth that was rounded down takes it below the
half, and the precision keeps the digits that say so.
-/
theorem half_is_rounded_down : ¬ ∀ (table : Rate.Table) (base target : String)
    (b t rate : Decimal) (a : Nat), table.lookup base = some b → table.lookup target = some t →
      b.isPositive = true → t.isPositive = true → 1 ≤ a → a ≤ Column.maxInteger →
      a * t.value / b.value ≤ Column.maxInteger →
      tableRates table base target = .ok (.decimal rate) →
      (do Amount.convert a (← ofLedger (Rate.normalize (.decimal rate)))) =
        .ok (round (a * t.value / b.value)) := by
  intro h
  have hreceived := h ninetyTable "EUR" "USD" (.ofInt 90) (.ofInt 1) quotedNinetieth 855 rfl rfl rfl
    rfl (by decide) (by decide) (by decide +kernel) tableRates_ninetyTable
  exact absurd hreceived (by decide +kernel)

/--
What is received for an amount can be converted back, and comes back to the amount but for half a
unit and half of what the rate back makes of a unit. At a rate back of at most one the amount
changes by one unit at most.
-/
theorem round_trip_changes_little
    (hb : table.lookup (Currency.spelling (.text base)) = some b)
    (ht : table.lookup (Currency.spelling (.text target)) = some t)
    (hbpos : b.isPositive = true) (htpos : t.isPositive = true) (ha : 1 ≤ a)
    (hmax : a ≤ Column.maxInteger) {rate : Decimal} {received : Int}
    (hrate : tableRates table base target = .ok (.decimal rate))
    (hreceived : Amount.convert a rate = .ok received) (hone : 1 ≤ received)
    (hstored : received ≤ Column.maxInteger) :
    ∃ (back : Decimal) (returned : Int), tableRates table target base = .ok (.decimal back) ∧
      Amount.convert received back = .ok returned ∧
      |(returned : ℚ) - a| ≤ (1 + back.value) / 2 + 1 / 10 ^ 6 ∧
      (back.value ≤ 1 → |returned - a| ≤ 1) := by
  have hbvalue := Decimal.value_pos hbpos
  have htvalue := Decimal.value_pos htpos
  have hx : 0 < t.value / b.value := by positivity
  have hu : 0 < b.value / t.value := by positivity
  have hxu : t.value / b.value * (b.value / t.value) = 1 := by field_simp
  have hmax' : (a : ℚ) ≤ 10 ^ 19 := by exact_mod_cast le_of_le_maxInteger hmax
  have hstored' := le_of_le_maxInteger hstored
  obtain ⟨y, rfl⟩ := Int.eq_ofNat_of_zero_le (Int.le_of_lt hone)
  have hy : 1 ≤ y := by exact_mod_cast hone
  rw [Int.cast_natCast] at hstored'
  have hthere := quoted_tableRates hb ht hbpos htpos
  have hback := quoted_tableRates ht hb htpos hbpos
  rw [hrate] at hthere
  generalize t.value / b.value = x at *
  generalize b.value / t.value = u at *
  have hreceives := hthere.receives hreceived hone
  obtain ⟨hfew, hprice⟩ := Amount.price_back ha hmax' hx hxu hy hreceives
  obtain ⟨hlow, hhigh⟩ := abs_le.1 hprice
  have hleast : 1 / 10 ^ 40 ≤ u := by
    have hmost : y * u ≤ 10 ^ 19 * u := by gcongr
    have ha' : (1 : ℚ) ≤ a := by exact_mod_cast ha
    linarith
  obtain ⟨back, hquoted, hpositive, hvalue⟩ := hback.exists_usable hleast (by linarith)
  obtain ⟨returned, hreturned⟩ :=
    Amount.exists_convert_rounded hy hstored' hpositive hvalue hu.le (by linarith)
  obtain ⟨c, e, -, rfl⟩ := Decimal.isPositive_iff.1 hpositive
  have hreceives' := Amount.convert_eq_ok_iff.1 hreturned
  rw [hvalue] at hreceives'
  have hclose :=
    Amount.abs_round_trip_sub_le ha hmax' hx hxu hy hstored' hreceives hreceives'
  refine ⟨_, returned, hquoted, hreturned, hvalue ▸ hclose, fun hpar => ?_⟩
  obtain ⟨hbelow, habove⟩ := abs_le.1 hclose
  rw [hvalue] at hpar
  have hdown : (a : ℚ) < returned + 2 := by linarith
  have hup : (returned : ℚ) < a + 2 := by linarith
  have hdown' : (a : ℤ) < returned + 2 := by exact_mod_cast hdown
  have hup' : returned < (a : ℤ) + 2 := by exact_mod_cast hup
  rw [abs_le]
  omega

/--
Nine cents for eight euros fifty-five are eight euros ten when they are converted back: forty-five
cents of the euro less, and forty-five and a half may be lost.
-/
theorem half_cent_there_and_back : Amount.convert 855 quotedNinetieth = .ok 9 ∧
    ∃ (back : Decimal) (returned : Int),
      tableRates ninetyTable "USD" "EUR" = .ok (.decimal back) ∧
      Amount.convert 9 back = .ok returned ∧
      |(returned : ℚ) - (855 : Nat)| ≤ (1 + back.value) / 2 + 1 / 10 ^ 6 ∧
      (back.value ≤ 1 → |returned - (855 : Nat)| ≤ 1) := by
  have hthere : Amount.convert (855 : Nat) quotedNinetieth = .ok 9 := by decide +kernel
  exact ⟨hthere, round_trip_changes_little lookup_euro lookup_dollar rfl rfl (by decide) (by decide)
    tableRates_ninetyTable hthere (by decide) (by decide)⟩

end

end Exchange

end CurrencyLedger
