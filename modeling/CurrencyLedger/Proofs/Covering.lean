import CurrencyLedger.Proofs.Wholes

/-!
Covering amounts.

A purchase spends the quotient of the wanted amount by the rate, rounded up, and receives what the
spend converts to. Each of the quotient, the amount in major units and their product is off by a
roundoff. Amounts that can be stored are so few smallest units that all the roundoffs together do
not reach half of one: rounding to the nearest unit takes them back. So the wanted amount is
received, and at a rate of less than half a unit nothing beside it. That nothing less would do holds
without any tolerance, as no whole number comes between the quotient and its rounding.
-/

namespace CurrencyLedger.Amount

open Decimal

section

variable {a n : Nat} {rate : Decimal} {spend received m : Int}

/-- What is received is the price, but for half a smallest unit and two roundoffs. -/
theorem bounds_of_convert (hn : 1 ≤ n) (hrate : rate.isPositive = true)
    (hlower : 1 / 10 ^ 30 ≤ rate.value) (h : convert n rate = .ok m) (hm : m < wholeLimit) :
    n * rate.value * (1 - roundoff) ^ 2 - 1 / 2 ≤ m ∧
      m ≤ n * rate.value * (1 + roundoff) ^ 2 + 1 / 2 := by
  have hpos := roundoff_pos
  have hsmall : roundoff ≤ 1 / 2 := by
    rw [roundoff_eq]
    norm_num
  have hn' : (1 : ℚ) ≤ n := by exact_mod_cast hn
  obtain ⟨c, e, -, rfl⟩ := isPositive_iff.1 hrate
  simp only [convert, bind_eq_ok, ofSignal_eq_ok] at h
  obtain ⟨major, hmajor, product, hproduct, hminor⟩ := h
  obtain ⟨c₁, e₁, rfl, hmajor'⟩ := near_of_toMajor hn hmajor
  obtain ⟨c₂, e₂, rfl⟩ := finite_of_mul hproduct
  obtain ⟨hbelow, habove⟩ := abs_le.1 (abs_sub_le_of_toMinor hminor hm)
  generalize hx : value (.finite false c e) = x at *
  have hx0 : (0 : ℚ) < x := lt_of_lt_of_le (by norm_num) hlower
  have hmajor_pos : 1 / 200 ≤ value (.finite false c₁ e₁) :=
    calc (1 : ℚ) / 200 = 1 / 100 * (1 / 2) := by norm_num
      _ ≤ n / 100 * (1 - roundoff) := by
        gcongr
        linarith
      _ ≤ value (.finite false c₁ e₁) := hmajor'.ge
  have hnormal : Normal (value (.finite false c₁ e₁) * x) :=
    normal_of_le <|
      calc (1 : ℚ) / 10 ^ 40 ≤ 1 / 200 * (1 / 10 ^ 30) := by norm_num
        _ ≤ value (.finite false c₁ e₁) * x := by gcongr
  rw [← hx] at hnormal
  have hproduct' := near_of_mul hproduct (.inl hnormal)
  rw [hx] at hproduct'
  constructor
  · have : n / 100 * (1 - roundoff) * x * (1 - roundoff) ≤ value (.finite false c₂ e₂) :=
      calc n / 100 * (1 - roundoff) * x * (1 - roundoff) ≤
            value (.finite false c₁ e₁) * x * (1 - roundoff) := by
            have := hmajor'.ge
            gcongr
            linarith
        _ ≤ value (.finite false c₂ e₂) := hproduct'.ge
    linarith
  · have : value (.finite false c₂ e₂) ≤ n / 100 * (1 + roundoff) * x * (1 + roundoff) :=
      calc value (.finite false c₂ e₂) ≤ value (.finite false c₁ e₁) * x * (1 + roundoff) :=
            hproduct'.le
        _ ≤ n / 100 * (1 + roundoff) * x * (1 + roundoff) := by
            have := hmajor'.le
            gcongr
    linarith

/-- Nothing less than what covers an amount is worth it. -/
theorem pred_cover_lt (hrate : rate.isPositive = true) (h : cover a rate = .ok spend)
    (hspend : 1 ≤ spend) (hmax : spend ≤ wholeLimit) : (spend - 1) * rate.value < a := by
  have hpos := value_pos hrate
  obtain ⟨k, rfl⟩ : ∃ k : Nat, spend = k + 1 := ⟨(spend - 1).toNat, by omega⟩
  push_cast at hmax ⊢
  rw [add_sub_cancel_right]
  by_contra hle
  have hquotient : a / rate.value ≤ k := (div_le_iff₀ hpos).2 (not_lt.1 hle)
  have := cover_le_of_quotient_le hrate h (by linarith) hquotient
  omega

/-- A rate at which little is received is not large. -/
theorem rate_le_of_convert (hn : 1 ≤ n) (hrate : rate.isPositive = true)
    (h : convert n rate = .ok m) (hm : (m : ℚ) ≤ 10 ^ 19) : rate.value ≤ 10 ^ 20 := by
  rcases le_or_gt rate.value 1 with hle | hgt
  · linarith
  · have hn' : (1 : ℚ) ≤ n := by exact_mod_cast hn
    have hbelow := (bounds_of_convert hn hrate (by linarith) h (by rw [wholeLimit]; linarith)).1
    have hone : 1 * rate.value ≤ n * rate.value := by gcongr
    rw [roundoff_eq] at hbelow
    linarith

/-- Nor is one small at which little is given up. -/
theorem le_rate_of_cover (ha : 1 ≤ a) (hrate : rate.isPositive = true)
    (hupper : rate.value ≤ 10 ^ 20) (h : cover a rate = .ok spend) (hmax : (spend : ℚ) ≤ 10 ^ 19) :
    1 / 10 ^ 20 ≤ rate.value := by
  have ha' : (1 : ℚ) ≤ a := by exact_mod_cast ha
  have hpos := value_pos hrate
  have hcovered := le_of_cover ha hrate (by linarith) h
  have hspend : spend * rate.value ≤ 10 ^ 19 * rate.value := by gcongr
  rw [roundoff_eq] at hcovered
  linarith

/--
A purchase receives what it wanted, and nothing less than its spend would have been worth that. At a
rate that leaves room for rounding it receives exactly what it wanted.
-/
theorem cover_is_sufficient_and_tight (ha : 1 ≤ a) (hrate : rate.isPositive = true)
    (hcover : cover a rate = .ok spend) (hconvert : convert spend rate = .ok received)
    (hspend : 1 ≤ spend) (hspent : spend ≤ Column.maxInteger)
    (hreceived : received ≤ Column.maxInteger) :
    a ≤ received ∧ (spend - 1) * rate.value < a ∧ (rate.value ≤ 49 / 100 → received = a) := by
  have hlimit {k : Int} (hk : k ≤ Column.maxInteger) : (k : ℚ) ≤ 10 ^ 19 := by
    have : k ≤ 10 ^ 19 := hk.trans (by decide)
    exact_mod_cast this
  have hspent' := hlimit hspent
  have hreceived' := hlimit hreceived
  obtain ⟨n, rfl⟩ := Int.eq_ofNat_of_zero_le (Int.le_of_lt hspend)
  have hn : 1 ≤ n := by exact_mod_cast hspend
  have hupper := rate_le_of_convert hn hrate hconvert hreceived'
  have hlower := le_rate_of_cover ha hrate hupper hcover hspent'
  have hcovered := le_of_cover ha hrate (by linarith) hcover
  have htight := pred_cover_lt hrate hcover hspend (by rw [wholeLimit]; linarith)
  obtain ⟨hge, hle⟩ := bounds_of_convert hn hrate (by linarith) hconvert
    (by rw [wholeLimit]; linarith)
  rw [roundoff_eq] at hcovered hge hle
  rw [Int.cast_natCast] at htight hspent' hcovered
  have hreaches : (a : Int) ≤ received := by
    by_contra hlt
    have hpred : (received : ℚ) + 1 ≤ a := by exact_mod_cast not_le.1 hlt
    linarith
  refine ⟨hreaches, htight, fun hfew => le_antisymm ?_ hreaches⟩
  by_contra hlt
  have hsucc : (a : ℚ) + 1 ≤ received := by exact_mod_cast not_le.1 hlt
  linarith

/-- Fifteen hundred for one, with eight places. -/
def coarseRate : Decimal := .finite false 66667 (-8)

/-- Ten dollars are bought for a few cents less than fifteen thousand of the other currency. -/
theorem cover_thousand : cover 1000 coarseRate = .ok 1499993 ∧
    ∃ received, convert 1499993 coarseRate = .ok received ∧ 1000 ≤ received ∧
      (1499993 - 1) * coarseRate.value < 1000 ∧ received = 1000 := by
  have hcover : cover (1000 : Nat) coarseRate = .ok 1499993 := by decide +kernel
  have hconvert : convert 1499993 coarseRate = .ok 1000 := by decide +kernel
  have hlow : coarseRate.value ≤ 49 / 100 := by
    rw [coarseRate, value_finite]
    norm_num
  obtain ⟨henough, htight, hexact⟩ := cover_is_sufficient_and_tight (by decide) (by decide) hcover
    hconvert (by decide) (by decide) (by decide)
  exact ⟨hcover, 1000, hconvert, henough, htight, hexact hlow⟩

end

end CurrencyLedger.Amount
