import CurrencyLedger.Proofs.Arithmetic
import CurrencyLedger.Proofs.Scientific
import CurrencyLedger.Store.Column

/-!
Prices.

The rate that a table quotes between two currencies is off by a roundoff from the quotient of their
entries, and it is used as it was quoted. Converting an amount rounds three more times to the
precision and once to the nearest smallest unit. That something is received bounds the rate, so that
none of the numbers on the way is too small for all its digits. What is received is then worth what
is given up, but for half a smallest unit and a tolerance that makes up for all the roundoffs. What
is given up for a wanted amount is rounded up, so that it is worth the amount but for the tolerance.
-/

namespace CurrencyLedger

namespace Amount

open Decimal

/-- What rounding may add to an amount that is converted, as a fraction of it. -/
def tolerance : ℚ := 1 / 10 ^ 26

theorem value_minorUnits : value minorUnits = 100 := by
  rw [minorUnits, scaled, value_finite]
  norm_num

theorem div_ten_minorPlace (x : ℚ) : x / 10 ^ minorPlace = 100 * x := by
  rw [minorPlace]
  norm_num
  ring

/-- Smallest units are a hundred times what they are in major units. -/
theorem value_minor_mul (k : Nat) : value (.finite false k minorPlace) * value minorUnits = k := by
  rw [value_minorUnits, value_finite, minorPlace]
  norm_num
  ring

/-- Major units are the hundredth part of an amount. -/
theorem near_of_toMajor {n : Nat} {major : Decimal} (hn : 1 ≤ n) (h : toMajor n = .ok major) :
    ∃ c e, major = .finite false c e ∧ Near major.value (n / 100) := by
  have hn' : (1 : ℚ) ≤ n := by exact_mod_cast hn
  have hexact : value (.finite false n 0) / value minorUnits = n / 100 := by
    rw [value_minorUnits, value_finite, zpow_zero, mul_one]
  have hnormal : Normal (value (.finite false n 0) / value minorUnits) := by
    rw [hexact]
    exact normal_of_le (by linarith)
  rw [toMajor, ofInt_natCast] at h
  obtain ⟨c, e, rfl⟩ := finite_of_div (by decide) h
  refine ⟨c, e, rfl, ?_⟩
  rw [← hexact]
  exact near_of_div (by decide) h (.inl hnormal)

/-- An amount comes from a whole number of smallest units, the nearest. -/
theorem bounds_of_toMinor {c : Nat} {e : Int} {m : Int}
    (h : toMinor (.finite false c e) = .ok m) (hm : 1 ≤ m) :
    ∃ k : ℚ, 1 ≤ k ∧ k ≤ 10 ^ 28 ∧ |k - 100 * value (.finite false c e)| ≤ 1 / 2 ∧
      m ≤ k * (1 + roundoff) := by
  simp only [toMinor, bind_eq_ok, ofSignal_eq_ok] at h
  obtain ⟨placed, hplaced, units, hunits, hwhole⟩ := h
  obtain ⟨k, rfl, hk, hnearest⟩ := quantize_nearest (by decide) (by decide) (by decide) hplaced
  obtain ⟨c', e', rfl⟩ := finite_of_mul hunits
  cases hwhole
  have hm_le : (truncate false c' e' : ℚ) ≤ value (.finite false c' e') := truncate_le c' e'
  have hone : (1 : ℚ) ≤ value (.finite false c' e') :=
    le_trans (by exact_mod_cast hm) hm_le
  have hnear : Near (value (.finite false c' e')) k := by
    rw [← value_minor_mul k]
    exact near_of_mul hunits (.inr (normal_of_le (by linarith)))
  refine ⟨k, ?_, ?_, ?_, hm_le.trans hnear.le⟩
  · rcases Nat.eq_zero_or_pos k with rfl | hk
    · have := hnear.le
      rw [Nat.cast_zero, zero_mul] at this
      linarith
    · exact_mod_cast hk
  · have hlt : k < tenTo precision := (digitCount_le_iff k).1 hk
    rw [precision] at hlt
    exact_mod_cast hlt.le
  · rwa [div_ten_minorPlace] at hnearest

/-- What a conversion at a rate comes to, and which rates let it come to anything. -/
structure Converted (n m : ℚ) (rate : ℚ) : Prop where
  le : m ≤ (n * rate * (1 + roundoff) ^ 2 + 1 / 2) * (1 + roundoff)
  lower : 1 / 10 ^ 22 ≤ rate
  upper : rate ≤ 10 ^ 32

/-- The roundings of a conversion, one after the other. -/
theorem Converted.of_near {n m rate major product k : ℚ} (hn : 1 ≤ n) (hmax : n ≤ 10 ^ 19)
    (hrate : 0 < rate) (hmajor : Near major (n / 100)) (hproduct : Near product (major * rate))
    (hlower : 1 ≤ k) (hupper : k ≤ 10 ^ 28) (hplaced : |k - 100 * product| ≤ 1 / 2)
    (hm : m ≤ k * (1 + roundoff)) : Converted n m rate := by
  have hpos := roundoff_pos
  have hsmall : roundoff ≤ 1 / 2 := by
    rw [roundoff_eq]
    norm_num
  obtain ⟨hbelow, habove⟩ := abs_le.1 hplaced
  have hproduct_le : product ≤ n / 100 * (1 + roundoff) * rate * (1 + roundoff) :=
    calc product ≤ major * rate * (1 + roundoff) := hproduct.le
      _ ≤ n / 100 * (1 + roundoff) * rate * (1 + roundoff) := by
        gcongr
        exact hmajor.le
  refine ⟨?_, ?_, ?_⟩
  · calc m ≤ k * (1 + roundoff) := hm
      _ ≤ (100 * product + 1 / 2) * (1 + roundoff) := by
        gcongr
        linarith
      _ ≤ (100 * (n / 100 * (1 + roundoff) * rate * (1 + roundoff)) + 1 / 2) * (1 + roundoff) := by
        gcongr
      _ = (n * rate * (1 + roundoff) ^ 2 + 1 / 2) * (1 + roundoff) := by ring
  · have hdouble : product ≤ n / 100 * 2 * rate * 2 := by
      refine hproduct_le.trans ?_
      gcongr <;> linarith
    have hlarge : n / 100 * 2 * rate * 2 ≤ 10 ^ 19 / 100 * 2 * rate * 2 := by gcongr
    linarith
  · have hmajor_ge : 1 / 200 ≤ major :=
      calc (1 : ℚ) / 200 = 1 / 100 * (1 / 2) := by norm_num
        _ ≤ n / 100 * (1 - roundoff) := by
          gcongr
          linarith
        _ ≤ major := hmajor.ge
    have hproduct_ge : 1 / 200 * rate * (1 / 2) ≤ product :=
      calc 1 / 200 * rate * (1 / 2) ≤ major * rate * (1 - roundoff) := by
            gcongr
            linarith
        _ ≤ product := hproduct.ge
    linarith

theorem converted_of_convert {n : Nat} {rate : Decimal} {m : Int} (hn : 1 ≤ n)
    (hmax : (n : ℚ) ≤ 10 ^ 19) (hrate : rate.isPositive = true)
    (h : convert n rate = .ok m) (hm : 1 ≤ m) : Converted n m rate.value := by
  have hpos := value_pos hrate
  obtain ⟨c, e, hc, rfl⟩ := isPositive_iff.1 hrate
  simp only [convert, bind_eq_ok, ofSignal_eq_ok] at h
  obtain ⟨major, hmajor, product, hproduct, hminor⟩ := h
  obtain ⟨c₁, e₁, rfl, hmajor'⟩ := near_of_toMajor hn hmajor
  obtain ⟨c₂, e₂, rfl⟩ := finite_of_mul hproduct
  obtain ⟨k, hlower, hupper, hplaced, hm_le⟩ := bounds_of_toMinor hminor hm
  -- Something is received, so the product was not far below a smallest unit.
  have hnormal : Normal (value (.finite false c₂ e₂)) := by
    have := (abs_le.1 hplaced).2
    exact normal_of_le (by linarith)
  exact .of_near (by exact_mod_cast hn) hmax hpos hmajor' (near_of_mul hproduct (.inr hnormal))
    hlower hupper hplaced hm_le

/--
What is received for an amount is its price, but for half a smallest unit and the tolerance. The
half unit is rounded too; that is made up for by the price, which is not much less than a half.
-/
theorem Converted.le_price {n m rate price : ℚ} (h : Converted n m rate) (hn : 0 ≤ n) (hm : 1 ≤ m)
    (hnear : Near rate price) : m ≤ n * price * (1 + tolerance) + 1 / 2 := by
  have hpos := roundoff_pos
  have hle : m ≤ (n * price * (1 + roundoff) ^ 3 + 1 / 2) * (1 + roundoff) :=
    calc m ≤ (n * rate * (1 + roundoff) ^ 2 + 1 / 2) * (1 + roundoff) := h.le
      _ ≤ (n * (price * (1 + roundoff)) * (1 + roundoff) ^ 2 + 1 / 2) * (1 + roundoff) := by
        gcongr
        exact hnear.le
      _ = (n * price * (1 + roundoff) ^ 3 + 1 / 2) * (1 + roundoff) := by ring
  rw [roundoff_eq] at hle
  rw [tolerance]
  linarith

/-- What covers an amount at a rate is worth the amount at that rate. -/
theorem le_of_cover {n : Nat} {rate : Decimal} {m : Int} (hn : 1 ≤ n)
    (hrate : rate.isPositive = true) (hupper : rate.value ≤ 10 ^ 32)
    (h : cover n rate = .ok m) : n * (1 - roundoff) ≤ m * rate.value := by
  have hpos := value_pos hrate
  obtain ⟨c, e, hc, rfl⟩ := isPositive_iff.1 hrate
  simp only [cover, bind_eq_ok, ofSignal_eq_ok, ofInt_natCast] at h
  obtain ⟨quotient, hquotient, whole, hwhole, hm⟩ := h
  obtain ⟨c₁, e₁, rfl⟩ := finite_of_div hc hquotient
  obtain ⟨c₂, e₂, rfl, he₂, hle⟩ := toIntegral_ceiling hwhole
  cases hm
  have hexact : value (.finite false n 0) / value (.finite false c e) =
      n / value (.finite false c e) := by
    rw [value_finite n 0, zpow_zero, mul_one]
  have hn' : (1 : ℚ) ≤ n := by exact_mod_cast hn
  have hnormal : Normal (n / value (.finite false c e)) := by
    refine normal_of_le ?_
    rw [le_div_iff₀ hpos]
    linarith
  have hnear : Near (value (.finite false c₁ e₁)) (n / value (.finite false c e)) := by
    rw [← hexact] at hnormal ⊢
    exact near_of_div hc hquotient (.inl hnormal)
  calc (n : ℚ) * (1 - roundoff) =
        n / value (.finite false c e) * (1 - roundoff) * value (.finite false c e) := by
        field_simp
    _ ≤ value (.finite false c₁ e₁) * value (.finite false c e) := by
        gcongr
        exact hnear.ge
    _ ≤ value (.finite false c₂ e₂) * value (.finite false c e) := by gcongr
    _ = (truncate false c₂ e₂ : ℚ) * value (.finite false c e) := by
        rw [truncate_of_nonneg c₂ he₂]

/-- An amount is at most the price of what covers it, but for the tolerance. -/
theorem le_price_of_cover {n m rate price : ℚ} (hm : 0 ≤ m)
    (h : n * (1 - roundoff) ≤ m * rate) (hnear : Near rate price) (hprice : 0 ≤ price) :
    n ≤ m * price * (1 + tolerance) := by
  have hle : n * (1 - roundoff) ≤ m * price * (1 + roundoff) :=
    calc n * (1 - roundoff) ≤ m * rate := h
      _ ≤ m * (price * (1 + roundoff)) := by
        gcongr
        exact hnear.le
      _ = m * price * (1 + roundoff) := by ring
  have hpos : 0 ≤ m * price := by positivity
  rw [roundoff_eq] at hle
  rw [tolerance]
  linarith

end Amount

namespace Rate.Table

/-- Units of a currency per dollar; a currency that the table lacks has none. -/
def units (table : Table) (code : String) : ℚ := ((table.lookup code).map Decimal.value).getD 0

/-- All rates are finite and above zero. -/
def Positive (table : Table) : Prop := ∀ entry ∈ table, entry.2.isPositive = true

theorem Positive.lookup {table : Table} (htable : table.Positive) {code : String} {d : Decimal}
    (h : table.lookup code = some d) : d.isPositive = true := by
  obtain ⟨_, _, rfl, -⟩ := List.lookup_eq_some_iff.1 h
  exact htable (code, d) (by simp)

/-- Between two currencies that it prices a table quotes a quotient. -/
theorem quote_of_lookup {table : Table} {base target : String} {b t : Decimal}
    (hb : table.lookup base = some b) (ht : table.lookup target = some t)
    (hbpos : b.isPositive = true) (htpos : t.isPositive = true) :
    table.quote base target = ofSignal (t.div b) := by
  obtain ⟨c, e, hc, rfl⟩ := Decimal.isPositive_iff.1 hbpos
  obtain ⟨c', e', hc', rfl⟩ := Decimal.isPositive_iff.1 htpos
  have hzero (c : Nat) (e : Int) (hc : 0 < c) :
      (Decimal.finite false c e).isZero = false ∧
        ofSignal (Decimal.finite false c e).atMostZero = .ok false := by
    simp [Decimal.isZero, Decimal.atMostZero, ofSignal, hc.ne']
  simp [quote, hb, ht, hzero c e hc, hzero c' e' hc', bind, Except.bind]

/-- A quoted rate is off by a roundoff, unless it is too small to have all its digits. -/
theorem near_of_quote {table : Table} (htable : table.Positive) {base target : String}
    {d : Decimal} (h : table.quote base target = .ok d) :
    0 < table.units base ∧ 0 < table.units target ∧ (∃ c e, d = .finite false c e) ∧
      (Decimal.Normal d.value →
        Decimal.Near d.value (table.units target / table.units base)) := by
  cases hb : table.lookup base with
  | none => simp [quote, hb] at h
  | some b =>
    cases ht : table.lookup target with
    | none => simp [quote, hb, ht] at h
    | some t =>
      rw [quote_of_lookup hb ht (htable.lookup hb) (htable.lookup ht), ofSignal_eq_ok] at h
      have hbpos := Decimal.value_pos (htable.lookup hb)
      have htpos := Decimal.value_pos (htable.lookup ht)
      obtain ⟨c, e, hc, rfl⟩ := Decimal.isPositive_iff.1 (htable.lookup hb)
      obtain ⟨c', e', -, rfl⟩ := Decimal.isPositive_iff.1 (htable.lookup ht)
      rw [units, units, hb, ht]
      exact ⟨hbpos, htpos, Decimal.finite_of_div hc h,
        fun hnormal => Decimal.near_of_div hc h (.inr hnormal)⟩

end Rate.Table

namespace Exchange

theorem tableRates_eq (table : Rate.Table) {source target : String}
    (hsource : Currency.isCode source = true) (htarget : Currency.isCode target = true)
    (hne : source ≠ target) :
    tableRates table source target = Value.decimal <$> table.quote source target := by
  rw [tableRates, providerRates, Rate.Provider.rate, Currency.spelling_text hsource,
    Currency.spelling_text htarget, if_neg hne]
  rfl

/-- A number is used as a rate as it was quoted. -/
theorem normalize_decimal {c : Nat} {e : Int} {rate : Decimal}
    (h : Rate.normalize (.decimal (.finite false c e)) = .ok rate) : rate = .finite false c e := by
  simp only [Rate.normalize, Value.plain] at h
  split at h
  · rename_i read hread
    split at h
    · cases h
      exact Decimal.eq_of_ofText?_text hread
    · cases h
  · cases h

section

variable {table : Rate.Table} {source target : String} {spend : Decimal → Except Failure Int}
  {p : Plan}

/-- A plan that a table prices has a rate near the quotient of what the table says. -/
theorem rate_of_plan (htable : table.Positive) (hp : p.Distinct) (hsized : p.Sized)
    (hmax : p.debit ≤ Column.maxInteger)
    (h : plan (tableRates table) source target spend = .ok p) :
    ∃ rate, rate.isPositive = true ∧ spend rate = .ok p.debit ∧
      Amount.Converted p.debit p.credit rate.value ∧
      0 < table.units p.source ∧ 0 < table.units p.target ∧
      Decimal.Near rate.value (table.units p.target / table.units p.source) := by
  obtain ⟨v, rate, debit, credit, text, hv, hrate, hdebit, hcredit, -, -, rfl⟩ := plan_eq_ok.1 h
  rw [tableRates_eq table hp.source hp.target hp.distinct, map_eq_ok] at hv
  obtain ⟨d, hd, rfl⟩ := hv
  obtain ⟨hsource, htarget, ⟨c, e, rfl⟩, hnear⟩ := Rate.Table.near_of_quote htable hd
  obtain rfl := normalize_decimal hrate
  have hpositive := Rate.isPositive_of_normalize hrate
  obtain ⟨n, rfl⟩ := Int.eq_ofNat_of_zero_le hsized.debit.le
  have hconverted : Amount.Converted n credit (Decimal.value (.finite false c e)) := by
    have hn : (1 : Int) ≤ n := hsized.debit
    have hle : (n : Int) ≤ Column.maxInteger := hmax
    have hle' : (n : Int) ≤ 10 ^ 19 := hle.trans (by decide)
    exact Amount.converted_of_convert (by exact_mod_cast hn) (by exact_mod_cast hle') hpositive
      hcredit hsized.credit
  refine ⟨_, hpositive, hdebit, hconverted, hsource, htarget, hnear ?_⟩
  have := hconverted.lower
  exact Decimal.normal_of_le (by linarith)

/-- What is received is worth what is given up, by a table, but for the rounding. -/
structure Plan.Priced (table : Rate.Table) (p : Plan) : Prop where
  source : 0 < table.units p.source
  target : 0 < table.units p.target
  le : p.credit / table.units p.target ≤
    p.debit / table.units p.source * (1 + Amount.tolerance) + 1 / 2 / table.units p.target

theorem priced_of_plan (htable : table.Positive) (hp : p.Distinct) (hsized : p.Sized)
    (hmax : p.debit ≤ Column.maxInteger)
    (h : plan (tableRates table) source target spend = .ok p) : p.Priced table := by
  obtain ⟨rate, -, -, hconverted, hsource, htarget, hnear⟩ :=
    rate_of_plan htable hp hsized hmax h
  have hdebit : (0 : ℚ) ≤ p.debit := by exact_mod_cast hsized.debit.le
  have hcredit : (1 : ℚ) ≤ p.credit := by exact_mod_cast hsized.credit
  refine ⟨hsource, htarget, ?_⟩
  calc (p.credit : ℚ) / table.units p.target ≤
        (p.debit * (table.units p.target / table.units p.source) * (1 + Amount.tolerance) + 1 / 2) /
          table.units p.target := by
        gcongr
        exact hconverted.le_price hdebit hcredit hnear
    _ = p.debit / table.units p.source * (1 + Amount.tolerance) + 1 / 2 / table.units p.target := by
        field_simp

/-- What is given up for a wanted amount is worth the amount, but for the rounding. -/
theorem covered_of_plan (htable : table.Positive) (hp : p.Distinct) (hsized : p.Sized)
    (hmax : p.debit ≤ Column.maxInteger) {n : Nat} (hn : 1 ≤ n)
    (h : plan (tableRates table) source target (Amount.cover n) = .ok p) :
    n / table.units p.target ≤ p.debit / table.units p.source * (1 + Amount.tolerance) := by
  obtain ⟨rate, hpositive, hcover, hconverted, hsource, htarget, hnear⟩ :=
    rate_of_plan htable hp hsized hmax h
  have hdebit : (0 : ℚ) ≤ p.debit := by exact_mod_cast hsized.debit.le
  have hcovered := Amount.le_of_cover hn hpositive hconverted.upper hcover
  calc (n : ℚ) / table.units p.target ≤
        p.debit * (table.units p.target / table.units p.source) * (1 + Amount.tolerance) /
          table.units p.target := by
        gcongr
        exact Amount.le_price_of_cover hdebit hcovered hnear (by positivity)
    _ = p.debit / table.units p.source * (1 + Amount.tolerance) := by field_simp

end

end Exchange

end CurrencyLedger
