import CurrencyLedger.Exchange.Plan
import CurrencyLedger.Proofs.Actions

/-!
Codes.

A currency code names itself: it has nothing to trim and no letter to change. So the currencies of
an order are those of the wallets that it moves money between. An exchange is between two of them: a
conversion gives up the one for the other, a trade either the base or the quote currency.
-/

namespace CurrencyLedger

namespace Text

theorem dropWhile_eq_self {p : Char → Bool} {cs : List Char} (h : ∀ c ∈ cs, p c = false) :
    cs.dropWhile p = cs := by
  cases cs with
  | nil => rfl
  | cons c cs => simp [h c List.mem_cons_self]

theorem trimBy_eq_self {p : Char → Bool} {cs : List Char} (h : ∀ c ∈ cs, p c = false) :
    trimBy p cs = cs := by
  rw [trimBy, dropWhile_eq_self h, dropWhile_eq_self, List.reverse_reverse]
  intro c hc
  exact h c (List.mem_reverse.1 hc)

end Text

namespace Currency

theorem isLetter_iff {c : Char} : isLetter c = true ↔ 0x41 ≤ c.toNat ∧ c.toNat ≤ 0x5A := by
  simp only [isLetter, Bool.and_eq_true, decide_eq_true_eq]
  exact Iff.rfl

theorem isBlank_of_isLetter {c : Char} (h : isLetter c = true) : Text.isBlank c = false := by
  rw [isLetter_iff] at h
  simp [Text.isBlank, Text.isWhiteSpace, Text.inRanges, Text.whiteSpace]
  omega

theorem upperChar_of_isLetter {c : Char} (h : isLetter c = true) : Text.upperChar c = [c] := by
  rw [isLetter_iff] at h
  have hupper : ¬('a'.val ≤ c.val ∧ c.val ≤ 'z'.val) := by
    intro hc
    have : 97 ≤ c.toNat := hc.1
    omega
  rw [Text.upperChar_ascii (by omega), show c.toUpper = c from dif_neg hupper]

/-- A code is its own spelling. -/
theorem spelling_text {s : String} (h : isCode s = true) : spelling (.text s) = s := by
  have hletters : ∀ c ∈ s.toList, isLetter c = true := by
    simp only [isCode, Bool.and_eq_true, List.all_eq_true] at h
    exact h.2
  have hupper : s.toList.flatMap Text.upperChar = s.toList := by
    rw [List.flatMap_def, List.map_congr_left fun c hc => upperChar_of_isLetter (hletters c hc),
      ← List.flatMap_def, List.flatMap_singleton']
  have hne : s ≠ "" := by
    rintro rfl
    cases h
  simp [spelling, Value.plainOrEmpty, Value.given, Value.plain, hne, Text.trim, Text.upper,
    Text.trimBy_eq_self fun c hc => isBlank_of_isLetter (hletters c hc), hupper]

/-- A code names itself. -/
theorem normalize_text {s : String} (h : isCode s = true) : normalize (.text s) = .ok s := by
  rw [normalize, spelling_text h, if_pos h]

end Currency

namespace Amount

theorem ofValue_int_eq_ok {n : Int} {k : Nat} :
    ofValue (.int n) = .ok k ↔ 0 < n ∧ (k : Int) = n := by
  simp only [ofValue]
  split
  · simp only [Except.ok.injEq]
    omega
  · simp only [reduceCtorEq, false_iff]
    omega

end Amount

namespace Exchange

/-- A plan between two different currencies. -/
structure Plan.Distinct (plan : Plan) : Prop where
  source : Currency.isCode plan.source = true
  target : Currency.isCode plan.target = true
  distinct : plan.source ≠ plan.target

theorem requireDistinct_eq_ok {a b : String} {u : Unit} : requireDistinct a b = .ok u ↔ a ≠ b := by
  simp [requireDistinct]

theorem distinct_of_plan {rates : RateSource} {source target : String}
    {spend : Decimal → Except Failure Int} {p : Plan} (h : plan rates source target spend = .ok p)
    (hs : Currency.isCode source = true) (ht : Currency.isCode target = true)
    (hne : source ≠ target) : p.Distinct := by
  simp only [plan, bind_eq_ok] at h
  obtain ⟨_, -, _, -, _, -, _, -, _, -, _, -, hp⟩ := h
  cases hp
  exact ⟨hs, ht, hne⟩

/-- A conversion is a plan between the two codes, which spends the amount. -/
theorem plan_of_planConversion {rates : RateSource} {source target amount : Value} {c : Conversion}
    (h : planConversion rates source target amount = .ok c) :
    ∃ a b, Amount.ofValue amount = .ok c.amount ∧ Currency.normalize source = .ok a ∧
      Currency.normalize target = .ok b ∧ a ≠ b ∧
      plan rates a b (fun _ => .ok c.amount) = .ok c.plan := by
  simp only [planConversion, bind_eq_ok, ofLedger_eq_ok, requireDistinct_eq_ok] at h
  obtain ⟨n, hn, a, ha, b, hb, _, hne, p, hp, hc⟩ := h
  cases hc
  exact ⟨a, b, hn, ha, hb, hne, hp⟩

/-- A purchase gives up the quote currency to cover its amount, a sale its amount of the base. -/
inductive Trade.Planned (rates : RateSource) (t : Trade) : Prop
  | buy (action : t.action = .buy)
    (plan : Exchange.plan rates t.quote t.base (Amount.cover t.amount) = .ok t.plan)
  | sell (action : t.action = .sell)
    (plan : Exchange.plan rates t.base t.quote (fun _ => .ok t.amount) = .ok t.plan)

theorem planned_of_planTrade {rates : RateSource} {base quote amount action : Value} {t : Trade}
    (h : planTrade rates base quote amount action = .ok t) :
    Amount.ofValue amount = .ok t.amount ∧ Currency.normalize base = .ok t.base ∧
      Currency.normalize quote = .ok t.quote ∧ t.base ≠ t.quote ∧ t.Planned rates := by
  simp only [planTrade, bind_eq_ok, ofLedger_eq_ok, requireDistinct_eq_ok] at h
  obtain ⟨n, hn, a, ha, b, hb, side, -, _, hne, h⟩ := h
  cases side with
  | buy =>
    obtain ⟨p, hp, ht⟩ := bind_eq_ok.1 h
    cases ht
    exact ⟨hn, ha, hb, hne, .buy rfl hp⟩
  | sell =>
    obtain ⟨p, hp, ht⟩ := bind_eq_ok.1 h
    cases ht
    exact ⟨hn, ha, hb, hne, .sell rfl hp⟩

theorem distinct_of_planConversion {rates : RateSource} {source target amount : Value}
    {c : Conversion} (h : planConversion rates source target amount = .ok c) : c.plan.Distinct := by
  obtain ⟨a, b, -, ha, hb, hne, hp⟩ := plan_of_planConversion h
  exact distinct_of_plan hp (Currency.isCode_of_normalize ha) (Currency.isCode_of_normalize hb) hne

theorem distinct_of_planTrade {rates : RateSource} {base quote amount action : Value} {t : Trade}
    (h : planTrade rates base quote amount action = .ok t) : t.plan.Distinct := by
  obtain ⟨-, hbase, hquote, hne, hplanned⟩ := planned_of_planTrade h
  replace hbase := Currency.isCode_of_normalize hbase
  replace hquote := Currency.isCode_of_normalize hquote
  cases hplanned with
  | buy _ hp => exact distinct_of_plan hp hquote hbase hne.symm
  | sell _ hp => exact distinct_of_plan hp hbase hquote hne

end Exchange

end CurrencyLedger
