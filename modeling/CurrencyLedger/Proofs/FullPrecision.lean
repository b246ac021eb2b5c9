import CurrencyLedger.Proofs.Literals
import CurrencyLedger.Proofs.Providers
import CurrencyLedger.Proofs.Quotes

/-!
Rates at full precision.

A decimal has its digits within a span of exponents that is far wider than arithmetic needs, and
beyond which there are no decimals: neither reading nor a quotient comes upon one. Within the span a
decimal is written and read again without loss, in whatever notation it is written. So a rate that
is normalized is the rate that was quoted, one that is normalized again is the same once more, and
an amount is converted as it would have been at the rate itself.
-/

namespace CurrencyLedger

namespace Decimal

/-- Within the span of exponents, if it is a number. -/
def Held : Decimal → Prop
  | .finite _ c e => representable c e = true
  | _ => True

section

variable {a b d : Decimal}

theorem held_of_readSpecial? {negative : Bool} {cs : List Char}
    (h : readSpecial? negative cs = some d) : d.Held := by
  unfold readSpecial? at h
  split at h
  · obtain ⟨_, -, rfl⟩ := Option.map_eq_some_iff.1 h
    trivial
  · obtain ⟨_, -, rfl⟩ := Option.map_eq_some_iff.1 h
    trivial
  · cases h
    trivial
  · cases h
    trivial
  · cases h

/-- What is read is held. -/
theorem held_of_ofText? {s : String} (h : ofText? s = some d) : d.Held := by
  simp only [ofText?] at h
  split at h
  · rename_i hspecial
    cases h
    exact held_of_readSpecial? hspecial
  · unfold readFinite? at h
    split at h
    · rw [Option.ite_none_right_eq_some] at h
      obtain ⟨hspan, h⟩ := h
      cases h
      exact hspan
    · cases h

/-- So is a quotient that serves as a rate, whatever the numbers are. -/
theorem held_of_div (h : a.div b = .ok d) (hd : d.isPositive = true) : d.Held := by
  obtain ⟨c, e, hc, rfl⟩ := isPositive_iff.1 hd
  unfold div at h
  split at h
  · rename_i r hnan
    subst h
    unfold nanResult? at hnan
    split at hnan <;> cases hnan
  split at h
  · rename_i s n i t m j hnan
    rw [ite_eq_iff] at h
    obtain ⟨-, h⟩ | ⟨hm, h⟩ := h
    · cases h
    · obtain ⟨_, _, hsign⟩ := ofQuotient_eq_ok h
      rw [← (Decimal.finite.inj hsign).1] at h
      rcases Nat.eq_zero_or_pos n with rfl | hn
      · -- A quotient of nothing is zero.
        rw [ofQuotient_zero] at h
        cases h
        exact absurd hc (Nat.lt_irrefl 0)
      · exact representable_of_ofQuotient hn (Nat.pos_of_ne_zero hm) h
  · cases h
  · cases h
  · -- So is that of a number by an infinity.
    obtain ⟨-, rfl, -⟩ := Decimal.finite.inj (Except.ok.inj h)
    exact absurd hc (Nat.lt_irrefl 0)
  · cases h

/-- A positive number that is held is written and read again without loss. -/
theorem ofText?_text_of_held (hd : d.isPositive = true) (h : d.Held) : ofText? d.text = some d := by
  obtain ⟨c, e, -, rfl⟩ := isPositive_iff.1 hd
  have hspan : representable c e = true := h
  rw [ofText?_text, if_pos hspan]

end

end Decimal

namespace Rate

variable {d : Decimal}

/-- A rate is read from some text. -/
theorem held_of_normalize {v : Value} (h : normalize v = .ok d) : d.Held := by
  unfold normalize at h
  split at h
  · cases h
  · split at h
    · rename_i hread
      split at h
      · cases h
        exact Decimal.held_of_ofText? hread
      · cases h
    · cases h

theorem normalize_of_held (hd : d.isPositive = true) (h : d.Held) :
    normalize (.decimal d) = .ok d := by
  simp only [normalize, Value.plain, Decimal.ofText?_text_of_held hd h, hd, if_true]

/-- A rate that was normalized stays as it is. -/
theorem normalize_normalize {v : Value} (h : normalize v = .ok d) :
    normalize (.decimal d) = .ok d :=
  normalize_of_held (isPositive_of_normalize h) (held_of_normalize h)

theorem Table.div_of_quote {table : Table} {base target : String}
    (h : table.quote base target = .ok d) : ∃ b t : Decimal, t.div b = .ok d := by
  rw [quote] at h
  split at h
  · rename_i b t _ _
    split at h
    · cases h
    · obtain ⟨low, -, h⟩ := bind_eq_ok.1 h
      split at h
      · cases h
      · obtain ⟨low', -, h⟩ := bind_eq_ok.1 h
        split at h
        · cases h
        · exact ⟨b, t, ofSignal_eq_ok.1 h⟩
  · cases h

/-- What a provider answers is one or a quotient. -/
theorem Provider.held_of_rate {τ : Type} [TimeScale τ] {p : Provider} {m : Market τ}
    {base target : Value} (h : ((p.rate base target).on m).1 = .ok d)
    (hd : d.isPositive = true) : d.Held := by
  by_cases hsame : Currency.spelling base = Currency.spelling target
  · rw [Provider.on_rate_of_eq hsame] at h
    cases h
    have hone : normalize (.decimal .one) = .ok .one := by decide +kernel
    exact held_of_normalize hone
  · rw [Provider.on_rate_of_ne hsame] at h
    obtain ⟨table, -, h⟩ := bind_eq_ok.1 h
    obtain ⟨b, t, hquotient⟩ := Table.div_of_quote h
    exact Decimal.held_of_div hquotient hd

end Rate

namespace Exchange

/-- A source whose answers are normalized before they are handed on. -/
def RateSource.normalized (rates : RateSource) : RateSource := fun base target => do
  let rate ← ofLedger (Rate.normalize (← rates base target))
  return .decimal rate

section

variable (rates : RateSource)

/-- Whoever normalizes an answer does not notice that it was normalized already. -/
theorem normalize_normalized (base target : String) :
    (do ofLedger (Rate.normalize (← rates.normalized base target))) =
      (do ofLedger (Rate.normalize (← rates base target))) := by
  rw [RateSource.normalized]
  cases rates base target with
  | error f => rfl
  | ok v =>
    cases h : Rate.normalize v with
    | error f => simp [bind, Except.bind, ofLedger, h]
    | ok d =>
      simp [bind, Except.bind, pure, Except.pure, ofLedger, h, Rate.normalize_normalize h]

theorem plan_normalized (source target : String) (spend : Decimal → Except Failure Int) :
    plan rates.normalized source target spend = plan rates source target spend := by
  have hplan (r : RateSource) : plan r source target spend =
      (do ofLedger (Rate.normalize (← r source target))) >>= fun rate => do
        let debit ← spend rate
        let credit ← ofLedger (requireConverted (← Amount.convert debit rate) target)
        let text ← ofSignal (Rate.format (.decimal rate))
        return { source, target, debit, credit, rate := text } := by
    rw [plan, bind_assoc]
  rw [hplan, hplan, normalize_normalized]

theorem planConversion_normalized (source target amount : Value) :
    planConversion rates.normalized source target amount =
      planConversion rates source target amount := by
  simp only [planConversion, plan_normalized]

theorem planTrade_normalized (base quote amount action : Value) :
    planTrade rates.normalized base quote amount action =
      planTrade rates base quote amount action := by
  simp only [planTrade, plan_normalized]

end

end Exchange

namespace Rate

/--
Whatever its digits and its exponent, a positive number within the span that decimals have is read
from its written form as it is, and normalized to itself; beyond the span it is refused. Whatever
value a rate was normalized from, normalizing it again keeps it. A rate that a provider answers with
converts every amount, and covers it, as it does when it is normalized; and an exchange that is
sized at normalized rates is sized as at the rates themselves.
-/
theorem normalize_keeps_full_precision {c : Nat} (hc : 0 < c) (e : Int) :
    (Decimal.representable c e = true →
      Decimal.ofText? (Decimal.text (.finite false c e)) = some (.finite false c e) ∧
      normalize (.decimal (.finite false c e)) = .ok (.finite false c e)) ∧
    (Decimal.representable c e = false →
      normalize (.decimal (.finite false c e)) = .error unavailable) ∧
    (∀ v d, normalize v = .ok d → normalize (.decimal d) = .ok d) ∧
    (∀ {τ : Type} [TimeScale τ] (p : Provider) (m : Market τ) (base target : Value) (d : Decimal),
      ((p.rate base target).on m).1 = .ok d → d.isPositive = true →
      normalize (.decimal d) = .ok d ∧ ∀ n : Int,
        (do Amount.convert n (← ofLedger (normalize (.decimal d)))) = Amount.convert n d ∧
        (do Amount.cover n (← ofLedger (normalize (.decimal d)))) = Amount.cover n d) ∧
    ∀ rates : Exchange.RateSource,
      (∀ source target amount, Exchange.planConversion rates.normalized source target amount =
        Exchange.planConversion rates source target amount) ∧
      ∀ base quote amount action, Exchange.planTrade rates.normalized base quote amount action =
        Exchange.planTrade rates base quote amount action := by
  have hpositive : (Decimal.finite false c e).isPositive = true := by simpa [Decimal.isPositive]
  refine ⟨?_, ?_, ?_, ?_, ?_⟩
  · intro hheld
    exact ⟨Decimal.ofText?_text_of_held hpositive hheld, normalize_of_held hpositive hheld⟩
  · intro hbeyond
    simp [normalize, Value.plain, Decimal.ofText?_text, hbeyond]
  · intro v d
    exact normalize_normalize
  · intro _ _ p m base target d hrate hd
    have hkept := normalize_of_held hd (Provider.held_of_rate hrate hd)
    rw [hkept]
    exact ⟨rfl, fun n => ⟨rfl, rfl⟩⟩
  · intro rates
    exact ⟨Exchange.planConversion_normalized rates, Exchange.planTrade_normalized rates⟩

/-- Two thirds of a billionth, with as many digits as arithmetic has, and a quoted ninetieth. -/
theorem long_quotient_kept : 0 < 6666666666666666666666666667 ∧
    Decimal.representable 6666666666666666666666666667 (-37) = true ∧
    Decimal.text (.finite false 6666666666666666666666666667 (-37)) =
      "6.666666666666666666666666667E-10" ∧
    normalize (.decimal (.finite false 6666666666666666666666666667 (-37))) =
      .ok (.finite false 6666666666666666666666666667 (-37)) ∧
    Decimal.representable 1 (10 ^ 18) = false ∧
    normalize (.decimal (.finite false 1 (10 ^ 18))) = .error unavailable ∧
    normalize (.text " 1_0.50e3 ") = .ok (.finite false 1050 1) ∧
    normalize (.decimal (.finite false 1050 1)) = .ok (.finite false 1050 1) ∧
    (((Provider.fixed Exchange.ninetyTable).rate (.text "eur") (.text "USD")).on
      (Market.fresh : Market ℚ)).1 = .ok Exchange.quotedNinetieth ∧
    Exchange.quotedNinetieth.isPositive = true ∧
    normalize (.decimal Exchange.quotedNinetieth) = .ok Exchange.quotedNinetieth := by
  have hpos : 0 < 6666666666666666666666666667 := by decide
  have hheld : Decimal.representable 6666666666666666666666666667 (-37) = true := by
    decide +kernel
  have hbeyond : Decimal.representable 1 (10 ^ 18) = false := by decide +kernel
  have hread : normalize (.text " 1_0.50e3 ") = .ok (.finite false 1050 1) := by decide +kernel
  have hrate : (((Provider.fixed Exchange.ninetyTable).rate (.text "eur") (.text "USD")).on
      (Market.fresh : Market ℚ)).1 = .ok Exchange.quotedNinetieth := by decide +kernel
  obtain ⟨hkept, -, hagain, hprovider, -⟩ := normalize_keeps_full_precision hpos (-37)
  obtain ⟨-, hrefused, -⟩ := normalize_keeps_full_precision Nat.one_pos (10 ^ 18)
  exact ⟨hpos, hheld, by decide +kernel, (hkept hheld).2, hbeyond, hrefused hbeyond, hread,
    hagain _ _ hread, hrate, rfl, (hprovider _ _ _ _ _ hrate rfl).1⟩

end Rate

end CurrencyLedger
