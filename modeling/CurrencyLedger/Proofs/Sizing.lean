import CurrencyLedger.Proofs.DecimalText
import CurrencyLedger.Exchange.Plan

/-!
Sizing.

What comes out of sizing is fit to be carried out: something is given up, something is received, and
the rate can be recorded. That nothing is received for nothing is what rules out an empty debit,
which the covering amount alone could be.
-/

namespace CurrencyLedger

namespace Decimal

/-- Rounding a coefficient does not change its sign. -/
theorem settle_eq_ok {negative : Bool} {c : Nat} {e : Int} {d : Decimal}
    (h : settle negative c e = .ok d) : ∃ c' e', d = .finite negative c' e' := by
  simp only [settle] at h
  split_ifs at h <;> cases h <;> exact ⟨_, _, rfl⟩

/-- A quotient has the sign that it was given. -/
theorem ofQuotient_eq_ok {negative : Bool} {n m : Nat} {ideal : Int} {d : Decimal}
    (h : ofQuotient negative n m ideal = .ok d) : ∃ c e, d = .finite negative c e := by
  simp only [ofQuotient] at h
  split_ifs at h
  · cases h
    exact ⟨_, _, rfl⟩
  all_goals exact settle_eq_ok h

theorem ofQuotient_zero (negative : Bool) (m : Nat) (ideal : Int) :
    ofQuotient negative 0 m ideal = .ok (zeroAt negative ideal) := rfl

/-- A product of numbers that are not negative, with everything set aside that is no number. -/
theorem mul_finite (c c' : Nat) (e e' : Int) :
    (Decimal.finite false c e).mul (.finite false c' e') =
      ofQuotient false (c * c') 1 (e + e') := rfl

/-- A quotient of such numbers. -/
theorem div_finite (c : Nat) {c' : Nat} (hc : 0 < c') (e e' : Int) :
    (Decimal.finite false c e).div (.finite false c' e') = ofQuotient false c c' (e - e') := by
  simp only [div, nanResult?, if_neg hc.ne', bne_self_eq_false]

theorem ofInt_natCast (n : Nat) : ofInt n = .finite false n 0 := by simp [ofInt]

theorem truncate_nonneg (c : Nat) (e : Int) : 0 ≤ truncate false c e := Int.natCast_nonneg _

theorem truncate_zero (e : Int) : truncate false 0 e = 0 := by
  simp [truncate]

end Decimal

namespace Amount

open Decimal

/-- What covers an amount at a rate above zero is no debt. -/
theorem cover_nonneg {n : Nat} {rate : Decimal} (hrate : rate.isPositive = true) {m : Int}
    (h : cover n rate = .ok m) : 0 ≤ m := by
  obtain ⟨c, e, hc, rfl⟩ := isPositive_iff.1 hrate
  simp only [cover, bind_eq_ok, ofSignal_eq_ok] at h
  obtain ⟨quotient, hquotient, whole, hwhole, h⟩ := h
  rw [ofInt_natCast, div_finite n hc] at hquotient
  obtain ⟨c', e', rfl⟩ := ofQuotient_eq_ok hquotient
  simp only [toIntegral] at hwhole
  split_ifs at hwhole <;> cases hwhole <;> cases h <;> exact truncate_nonneg _ _

/-- Nothing converts into nothing. -/
theorem convert_zero {rate : Decimal} (hrate : rate.isPositive = true) :
    convert 0 rate = .ok 0 := by
  obtain ⟨c, e, -, rfl⟩ := isPositive_iff.1 hrate
  have hmajor : toMajor 0 = .ok (.finite false 0 0) := rfl
  have hproduct : mul (.finite false 0 0) (.finite false c e) = .ok (zeroAt false (0 + e)) := by
    rw [mul_finite, Nat.zero_mul, ofQuotient_zero]
  have hminor : toMinor (zeroAt false (0 + e)) = .ok 0 :=
    show Except.ok (truncate false 0 (-2)) = _ by rw [truncate_zero]
  rw [convert, hmajor]
  show (ofSignal (mul (.finite false 0 0) (.finite false c e)) >>= toMinor) = .ok 0
  rw [hproduct]
  exact hminor

end Amount

namespace Exchange

/-- A plan that can be carried out. -/
structure Plan.Sized (p : Plan) : Prop where
  debit : 0 < p.debit
  credit : 0 < p.credit
  rate : Rate.format (.text p.rate) = .ok p.rate

theorem requireConverted_eq_ok {n m : Int} {currency : String} :
    requireConverted n currency = .ok m ↔ 0 < n ∧ n = m := by
  simp only [requireConverted]
  split_ifs with h <;> simp [h]

theorem plan_eq_ok {rates : RateSource} {source target : String}
    {spend : Decimal → Except Failure Int} {p : Plan} :
    plan rates source target spend = .ok p ↔ ∃ v rate debit credit text,
      rates source target = .ok v ∧ Rate.normalize v = .ok rate ∧ spend rate = .ok debit ∧
      Amount.convert debit rate = .ok credit ∧ 0 < credit ∧
      Rate.format (.decimal rate) = .ok text ∧
      { source, target, debit, credit, rate := text } = p := by
  simp only [plan, bind_eq_ok, ofLedger_eq_ok, ofSignal_eq_ok, requireConverted_eq_ok]
  constructor
  · rintro ⟨v, hv, rate, hrate, debit, hdebit, credit, hcredit, _, ⟨hpos, rfl⟩, text, htext, hp⟩
    cases hp
    exact ⟨v, rate, debit, credit, text, hv, hrate, hdebit, hcredit, hpos, htext, rfl⟩
  · rintro ⟨v, rate, debit, credit, text, hv, hrate, hdebit, hcredit, hpos, htext, rfl⟩
    exact ⟨v, hv, rate, hrate, debit, hdebit, credit, hcredit, _, ⟨hpos, rfl⟩, text, htext, rfl⟩

/-- A plan is between the currencies that were asked for, and gives up what was to be spent. -/
theorem ends_of_plan {rates : RateSource} {source target : String}
    {spend : Decimal → Except Failure Int} {p : Plan}
    (h : plan rates source target spend = .ok p) :
    p.source = source ∧ p.target = target ∧ ∃ rate, spend rate = .ok p.debit := by
  obtain ⟨v, rate, debit, credit, text, -, -, hdebit, -, -, -, rfl⟩ := plan_eq_ok.1 h
  exact ⟨rfl, rfl, rate, hdebit⟩

/-- A plan is sized if what it spends is no debt. -/
theorem sized_of_plan {rates : RateSource} {source target : String}
    {spend : Decimal → Except Failure Int}
    (hspend : ∀ rate m, rate.isPositive = true → spend rate = .ok m → 0 ≤ m) {p : Plan}
    (h : plan rates source target spend = .ok p) : p.Sized := by
  obtain ⟨v, rate, debit, credit, text, -, hrate, hdebit, hcredit, hpos, htext, rfl⟩ :=
    plan_eq_ok.1 h
  have hpositive := Rate.isPositive_of_normalize hrate
  refine ⟨?_, hpos, Rate.format_text hpositive htext⟩
  -- If nothing were given up, nothing would be received.
  have hnonneg := hspend rate debit hpositive hdebit
  have hne : debit ≠ 0 := by
    rintro rfl
    rw [Amount.convert_zero hpositive] at hcredit
    cases hcredit
    exact absurd hpos (by decide)
  show 0 < debit
  omega

theorem sized_of_planConversion {rates : RateSource} {source target amount : Value}
    {c : Conversion} (h : planConversion rates source target amount = .ok c) : c.plan.Sized := by
  obtain ⟨a, b, -, -, -, -, hp⟩ := plan_of_planConversion h
  refine sized_of_plan (fun _ m _ hm => ?_) hp
  cases hm
  exact Int.natCast_nonneg c.amount

theorem sized_of_planTrade {rates : RateSource} {base quote amount action : Value} {t : Trade}
    (h : planTrade rates base quote amount action = .ok t) : t.plan.Sized := by
  obtain ⟨-, -, -, -, hplanned⟩ := planned_of_planTrade h
  cases hplanned with
  | buy _ hp => exact sized_of_plan (fun _ _ hrate hm => Amount.cover_nonneg hrate hm) hp
  | sell _ hp =>
    refine sized_of_plan (fun _ m _ hm => ?_) hp
    cases hm
    exact Int.natCast_nonneg t.amount

end Exchange

end CurrencyLedger
