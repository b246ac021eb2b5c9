import CurrencyLedger.Proofs.FullPrecision
import CurrencyLedger.Proofs.Nearest
import CurrencyLedger.Proofs.Outcomes
import CurrencyLedger.Proofs.Pairing

/-!
What rows record of a rate.

Rows record a rate as digits, a point and eight digits, which say what is nearest to it at eight
places, the half going up. All its digits are there when it is rounded, and it is rounded once: what
was recorded stays the same when it is recorded again. A rate is not recorded if twenty digits are
too few for it before the point. An exchange answers with the text that both of its rows record,
while the amounts are those of the full rate.
-/

namespace CurrencyLedger

open Text

namespace Rate

/-- A number rounded half-up to the places that rows record. -/
def atPlaces (x : ℚ) : ℚ := round (x * 10 ^ 8) / 10 ^ 8

/-- A text of digits, a point and eight digits, with the number that it says. -/
inductive Written : String → ℚ → Prop
  | mk {whole places : List Char} (hwhole : AreDigits whole) (hne : whole ≠ [])
    (hshort : whole.length ≤ 20) (hplaces : AreDigits places) (height : places.length = 8) :
    Written (String.ofList (whole ++ '.' :: places)) (digitsValue (whole ++ places) / 10 ^ 8)

theorem Written.length_le {s : String} {x : ℚ} (h : Written s x) : s.length ≤ 29 := by
  cases h with
  | mk hwhole hne hshort hplaces height =>
    rw [← String.length_toList, String.toList_ofList, List.length_append, List.length_cons]
    omega

section

variable {q : Nat}

/-- Digits that arithmetic can hold are written so. -/
theorem written_positionalText (hq : q < tenTo Decimal.precision) :
    Written (Decimal.positionalText (.finite false q recordedPlace)) (q / 10 ^ 8) := by
  obtain ⟨whole, places, hpointed, hne, height, hdigits⟩ :=
    Decimal.pointed_eq (Nat.toDigits 10 q) (show 0 < 8 by decide)
  have htext : Decimal.positionalText (.finite false q recordedPlace) =
      String.ofList (whole ++ '.' :: places) := by
    simp [Decimal.positionalText, Decimal.signText, recordedPlace, hpointed]
  have hall : AreDigits (whole ++ places) := by
    intro c hc
    rw [hdigits, List.mem_append] at hc
    rcases hc with hc | hc
    · rw [List.eq_of_mem_replicate hc]
      rfl
    · exact Decimal.isDigit_toDigits q c hc
  have hvalue : digitsValue (whole ++ places) = q := by
    rw [digitsValue, hdigits, ofDigits_toDigits]
  have hshort : whole.length ≤ 20 := by
    have hcount : (Nat.toDigits 10 q).length ≤ 28 :=
      (Nat.length_toDigits_le_iff (by decide) (by decide)).2 hq
    have hlength := congrArg List.length hdigits
    simp only [List.length_append, List.length_replicate, height] at hlength
    omega
  rw [htext, ← hvalue]
  exact .mk (fun c hc => hall c (List.mem_append_left _ hc)) hne hshort
    (fun c hc => hall c (List.mem_append_right _ hc)) height

theorem value_recorded (q : Nat) :
    Decimal.value (.finite false q recordedPlace) = q / 10 ^ 8 :=
  Decimal.value_places q 8

/-- More digits than arithmetic can hold are those of twenty and more before the point. -/
theorem tenTo_precision_le_iff : tenTo Decimal.precision ≤ q ↔ (10 : ℚ) ^ 20 ≤ q / 10 ^ 8 := by
  rw [le_div_iff₀ (by norm_num), ← pow_add, ← Decimal.tenTo_cast, Nat.cast_le]
  rfl

end

section

variable {d : Decimal}

/-- A rate is recorded as the nearest number of units, unless these have too many digits. -/
theorem format_of_held (hd : d.isPositive = true) (h : d.Held) :
    ∃ q : Nat, atPlaces d.value = q / 10 ^ 8 ∧ format (.decimal d) =
      if q < tenTo Decimal.precision then
        .ok (Decimal.positionalText (.finite false q recordedPlace))
      else .error .invalidOperation := by
  have hread := Decimal.ofText?_text_of_held hd h
  obtain ⟨c, e, -, rfl⟩ := Decimal.isPositive_iff.1 hd
  have hlow : Decimal.tinyExponent ≤ recordedPlace := by decide
  have hhigh : recordedPlace ≤ Decimal.maxExponent := by decide
  obtain ⟨q, hq, hquantize⟩ := Decimal.quantize_halfUp hlow hhigh c e
  have hunits : Decimal.value (.finite false c e) / 10 ^ recordedPlace =
      Decimal.value (.finite false c e) * 10 ^ 8 := by
    rw [recordedPlace, zpow_neg, div_inv_eq_mul]
    norm_cast
  rw [hunits] at hq
  refine ⟨q, by rw [atPlaces, ← hq, Int.cast_natCast], ?_⟩
  simp only [format, Value.plain, hread, hquantize]
  split_ifs <;> rfl

theorem format_eq_error_iff (hd : d.isPositive = true) (h : d.Held) {signal : Decimal.Signal} :
    format (.decimal d) = .error signal ↔
      signal = .invalidOperation ∧ 10 ^ 20 ≤ atPlaces d.value := by
  obtain ⟨q, hq, hformat⟩ := format_of_held hd h
  rw [hformat, hq, ← tenTo_precision_le_iff]
  split_ifs with hfew
  · simp [hfew]
  · simp [Nat.le_of_not_lt hfew, eq_comm]

/-- What is recorded says the nearest number, to whoever reads it. -/
theorem written_of_format (hd : d.isPositive = true) (h : d.Held) {s : String}
    (hs : format (.decimal d) = .ok s) : Written s (atPlaces d.value) ∧
      ∃ r, Decimal.ofText? s = some r ∧ r.value = atPlaces d.value := by
  obtain ⟨q, hq, hformat⟩ := format_of_held hd h
  rw [hformat] at hs
  split_ifs at hs with hfew
  cases hs
  refine ⟨hq ▸ written_positionalText hfew, _, ?_, (value_recorded q).trans hq.symm⟩
  exact Decimal.ofText?_positionalText false q (show 0 < 8 by decide)
    (Decimal.representable_recorded ((Decimal.digitCount_le_iff q).2 hfew))

end

end Rate

namespace Exchange

/-- What a plan has of a rate: the credit is by all its digits, the text by eight places. -/
structure Plan.Applies (rates : RateSource) (p : Plan) (d : Decimal) : Prop where
  quoted : ∃ v, rates p.source p.target = .ok v ∧ Rate.normalize v = .ok d
  converts : Amount.convert p.debit d = .ok p.credit
  recorded : Rate.format (.decimal d) = .ok p.rate

section

variable {rates : RateSource}

theorem applies_of_plan {source target : String} {spend : Decimal → Except Failure Int} {p : Plan}
    (h : plan rates source target spend = .ok p) : ∃ d, p.Applies rates d := by
  obtain ⟨v, d, debit, credit, text, hv, hd, -, hcredit, -, htext, rfl⟩ := plan_eq_ok.1 h
  exact ⟨d, ⟨v, hv, hd⟩, hcredit, htext⟩

theorem applies_of_planConversion {source target amount : Value} {c : Conversion}
    (h : planConversion rates source target amount = .ok c) : ∃ d, c.plan.Applies rates d := by
  obtain ⟨_, _, -, -, -, -, hp⟩ := plan_of_planConversion h
  exact applies_of_plan hp

theorem applies_of_planTrade {base quote amount action : Value} {t : Trade}
    (h : planTrade rates base quote amount action = .ok t) : ∃ d, t.plan.Applies rates d := by
  obtain ⟨-, -, -, -, hplanned⟩ := planned_of_planTrade h
  cases hplanned with
  | buy _ hp => exact applies_of_plan hp
  | sell _ hp => exact applies_of_plan hp

end

end Exchange

namespace Operation

open Wallets

/-- The exchange that an answer reports; funding is none. -/
def Answer.exchanged? : Answer → Option Exchanged
  | .funded _ => none
  | .converted e => some e
  | .traded _ e => some e

/-- An answer to an exchange and its two rows, which are stored, tell of one rate. -/
structure Exchanged.Rated (rates : Exchange.RateSource) (s t : Session) (e : Exchanged) :
    Prop where
  /-- The amount received is by the full rate, of which the text is what rows record. -/
  applied : ∃ source target v d, rates source target = .ok v ∧ Rate.normalize v = .ok d ∧
    Amount.convert e.legs.debit.amount d = .ok e.converted ∧
    Rate.format (.decimal d) = .ok e.rate
  debit : e.legs.debit.exchangeRate = e.rate
  credit : e.legs.credit.exchangeRate = e.rate
  stored : t.committed.transactions = s.working.transactions ++ [e.legs.debit, e.legs.credit]

section

variable {rates : Exchange.RateSource} {userId : Int} {o : Options} {s t : Session}
  {plan : Exchange.Plan}

/-- The legs of an exchange say of the rate what they were told to, and are its only new rows. -/
theorem rows_of_moveLegs (hplan : plan.Distinct) {p : History.Particulars} {legs : Legs}
    (h : (moveLegs userId plan p).on s = (.ok legs, t)) :
    t.working.transactions = s.working.transactions ++ [legs.debit, legs.credit] ∧
      (legs.debit.amount : Int) = plan.debit ∧
      Rate.format p.exchangeRate = .ok legs.debit.exchangeRate ∧
      Rate.format p.exchangeRate = .ok legs.credit.exchangeRate := by
  obtain ⟨source, target, u, u', -, hdebit, hresolve, hcredit⟩ := steps_of_moveLegs hplan h
  obtain ⟨v, -, hdebited, -, hamount, hfirst⟩ := on_debit_eq_ok hdebit
  obtain ⟨w, -, hcredited, -, -, hsecond⟩ := on_credit_eq_ok hcredit
  have hopened := opened_of_resolve userId (.text plan.target) u
  rw [hresolve] at hopened
  refine ⟨?_, (Amount.ofValue_int_eq_ok.1 hamount).2, hfirst.rate, hsecond.rate⟩
  rw [hcredited.transactions, transactions_of_opened hopened, hdebited.transactions,
    List.append_assoc]
  rfl

/-- An order whose plan applies a rate answers with the rate that its rows record. -/
theorem rated_of_carryOut {order : Order} (hplan : order.plan? = some plan)
    (hdistinct : plan.Distinct) (hsized : plan.Sized) (happlies : ∃ d, plan.Applies rates d)
    {answer : Answer} (h : (order.carryOut userId o).on s = (.ok answer, t)) {e : Exchanged}
    (he : answer.exchanged? = some e) : e.Rated rates s t := by
  obtain ⟨names, u, hmove, -, rfl⟩ := Order.on_carryOut_eq_ok h
  have hlegs : ∃ legs, e = Order.exchanged plan legs ∧
      (moveLegs userId plan (order.particulars s.names.session.1)).on { s with names } =
        (.ok legs, u) := by
    cases order with
    | funding n code => cases hplan
    | conversion c =>
      cases hplan
      obtain ⟨legs, hlegs, rfl⟩ := Action.on_map_eq_ok.1 hmove
      exact ⟨legs, (Option.some.inj he).symm, hlegs⟩
    | trade q =>
      cases hplan
      obtain ⟨legs, hlegs, rfl⟩ := Action.on_map_eq_ok.1 hmove
      exact ⟨legs, (Option.some.inj he).symm, hlegs⟩
  obtain ⟨legs, rfl, hlegs⟩ := hlegs
  obtain ⟨hrows, hamount, hfirst, hsecond⟩ := rows_of_moveLegs hdistinct hlegs
  rw [Order.exchangeRate_of_plan? hplan, hsized.rate] at hfirst hsecond
  obtain ⟨d, ⟨v, hv, hd⟩, hconverts, hrecorded⟩ := happlies
  refine ⟨⟨_, _, v, d, hv, hd, ?_, hrecorded⟩, ?_, ?_, hrows⟩
  · exact hamount ▸ hconverts
  · exact (Except.ok.inj hfirst).symm
  · exact (Except.ok.inj hsecond).symm

theorem rated_of_convert {source target amount : Value} {e : Exchanged}
    (h : (convert rates userId source target amount o).on s = (.ok e, t)) : e.Rated rates s t := by
  have hrun : ((Call.convert rates userId source target amount).run o).on s =
      (.ok (.converted e), t) := Action.on_map_eq_ok.2 ⟨e, h, rfl⟩
  obtain ⟨order, horder, u, hu, rfl⟩ := Call.on_run_eq_ok.1 hrun
  obtain ⟨c, hc, rfl⟩ := map_eq_ok.1 horder
  have hrated := rated_of_carryOut rfl (Exchange.distinct_of_planConversion hc)
    (Exchange.sized_of_planConversion hc) (Exchange.applies_of_planConversion hc) hu rfl
  exact { hrated with }

theorem rated_of_trade {base quote amount action : Value} {side : TradeAction} {e : Exchanged}
    (h : (trade rates userId base quote amount action o).on s = (.ok (side, e), t)) :
    e.Rated rates s t := by
  have hrun : ((Call.trade rates userId base quote amount action).run o).on s =
      (.ok (.traded side e), t) := Action.on_map_eq_ok.2 ⟨(side, e), h, rfl⟩
  obtain ⟨order, horder, u, hu, rfl⟩ := Call.on_run_eq_ok.1 hrun
  obtain ⟨q, hq, rfl⟩ := map_eq_ok.1 horder
  have hrated := rated_of_carryOut rfl (Exchange.distinct_of_planTrade hq)
    (Exchange.sized_of_planTrade hq) (Exchange.applies_of_planTrade hq) hu rfl
  exact { hrated with }

/--
A rate is recorded as what is nearest to it at eight places, the half going up, unless that is too
large for twenty digits before the point; nothing else keeps a rate from being recorded. The text
has a point and eight digits behind it, is of 29 characters at most, is read as the number that it
says and recorded as it stands. And whoever exchanges money is answered with the text that both rows
store, while the amount received is by all digits of the rate.
-/
theorem recorded_rate_is_nearest {d : Decimal} (hd : d.isPositive = true) (hheld : d.Held) :
    (∀ signal, Rate.format (.decimal d) = .error signal ↔
      signal = .invalidOperation ∧ 10 ^ 20 ≤ Rate.atPlaces d.value) ∧
    (∀ text, Rate.format (.decimal d) = .ok text →
      Rate.Written text (Rate.atPlaces d.value) ∧ text.length ≤ 29 ∧
      (∃ r, Decimal.ofText? text = some r ∧ r.value = Rate.atPlaces d.value) ∧
      Rate.format (.text text) = .ok text) ∧
    ∀ (rates : Exchange.RateSource) (userId : Int) (o : Options) (s t : Session) (e : Exchanged),
      (∀ source target amount,
        (convert rates userId source target amount o).on s = (.ok e, t) → e.Rated rates s t) ∧
      ∀ base quote amount action side,
        (trade rates userId base quote amount action o).on s = (.ok (side, e), t) →
          e.Rated rates s t := by
  refine ⟨?_, ?_, ?_⟩
  · intro signal
    exact Rate.format_eq_error_iff hd hheld
  · intro text htext
    obtain ⟨hwritten, hread⟩ := Rate.written_of_format hd hheld htext
    exact ⟨hwritten, hwritten.length_le, hread, Rate.format_text hd htext⟩
  · intro rates userId o s t e
    exact ⟨fun _ _ _ => rated_of_convert, fun _ _ _ _ _ => rated_of_trade⟩

/-- A third, as it is quoted. -/
def quotedThird : Decimal := .finite false 3333333333333333333333333333 (-28)

/-- A user who has a thousand kobo. -/
def koboSession : Session :=
  ((Run.start [] [] ⟨⟨2024, 1, 15⟩, 12, 0, 0⟩).steps (tradingDay.take 1)).session

/-- The conversion of three hundred kobo at a third. -/
def atThird : Except Failure Exchanged × Session :=
  (convert (Exchange.oneRate (.decimal quotedThird)) 1 (.text "NGN") (.text "USD") (.int 300) {}).on
    koboSession

/-- A half goes up, a third goes down, and ten to the twentieth is too large. -/
theorem half_and_third_recorded :
    (Decimal.finite false 123456785 (-9)).isPositive = true ∧
    (Decimal.finite false 123456785 (-9)).Held ∧
    Rate.format (.decimal (.finite false 123456785 (-9))) = .ok "0.12345679" ∧
    Rate.Written "0.12345679" (Rate.atPlaces (Decimal.value (.finite false 123456785 (-9)))) ∧
    Rate.format (.text "0.12345679") = .ok "0.12345679" ∧
    (Decimal.finite false 1 20).isPositive = true ∧ (Decimal.finite false 1 20).Held ∧
    Rate.format (.decimal (.finite false 1 20)) = .error .invalidOperation ∧
    10 ^ 20 ≤ Rate.atPlaces (Decimal.value (.finite false 1 20)) ∧
    ∃ e t, atThird = (.ok e, t) ∧ e.rate = "0.33333333" ∧ e.converted = 100 ∧
      e.Rated (Exchange.oneRate (.decimal quotedThird)) koboSession t := by
  have hhalf : (Decimal.finite false 123456785 (-9)).Held :=
    (by decide +kernel : Decimal.representable 123456785 (-9) = true)
  have hlarge : (Decimal.finite false 1 20).Held :=
    (by decide +kernel : Decimal.representable 1 20 = true)
  have htext : Rate.format (.decimal (.finite false 123456785 (-9))) = .ok "0.12345679" := by
    decide +kernel
  have herror : Rate.format (.decimal (.finite false 1 20)) = .error .invalidOperation := by
    decide +kernel
  have hthird : atThird.1.map (fun e => (e.rate, e.converted)) = .ok ("0.33333333", 100) := by
    decide +kernel
  obtain ⟨-, hrecorded, hexchanged⟩ := recorded_rate_is_nearest rfl hhalf
  obtain ⟨hwritten, -, -, hagain⟩ := hrecorded _ htext
  have hrefused := ((recorded_rate_is_nearest rfl hlarge).1 _).1 herror
  refine ⟨rfl, hhalf, htext, hwritten, hagain, rfl, hlarge, herror, hrefused.2, ?_⟩
  rcases hanswer : atThird with ⟨f | e, t⟩
  · rw [hanswer] at hthird
    cases hthird
  · rw [hanswer] at hthird
    obtain ⟨hrate, hconverted⟩ := Prod.mk.inj (Except.ok.inj hthird)
    exact ⟨e, t, rfl, hrate, hconverted, (hexchanged _ _ _ _ _ _).1 _ _ _ hanswer⟩

end

end Operation

end CurrencyLedger
