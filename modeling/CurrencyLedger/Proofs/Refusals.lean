import CurrencyLedger.Proofs.Commits
import CurrencyLedger.Proofs.Providers
import CurrencyLedger.Proofs.Refinement

/-!
How calls are turned down.

Nearly every call that does not succeed is refused by the ledger, with a kind that says why: what is
asked is checked, no rate can be had, nothing is left in the rounding, the money is not there, the
time is over. Two things are not checked. An amount or a rate may have more digits than decimals
carry, which is a fault of arithmetic; and what a user would hold may have more bits than a column
takes, which is found out when the balance is written. Nothing is committed then either.
-/

namespace CurrencyLedger

/-! ### Sizing -/

theorem Amount.kind_of_ofValue {v : Value} {e : LedgerError} (h : ofValue v = .error e) :
    e.kind = .invalidAmount := by
  unfold ofValue at h
  split at h
  · split_ifs at h
    cases h
    rfl
  · cases h
    rfl

theorem Currency.kind_of_normalize {v : Value} {e : LedgerError} (h : normalize v = .error e) :
    e.kind = .invalidCurrency := by
  unfold normalize at h
  split_ifs at h
  cases h
  rfl

theorem Rate.kind_of_normalize {v : Value} {e : LedgerError} (h : normalize v = .error e) :
    e.kind = .rateUnavailable := by
  unfold normalize at h
  split at h
  · cases h
    rfl
  · split at h
    · split_ifs at h
      cases h
      rfl
    · cases h
      rfl

/-- A number that is used as a rate can be read from its own text. -/
theorem Rate.ofText?_of_normalize {d rate : Decimal} (h : normalize (.decimal d) = .ok rate) :
    Decimal.ofText? d.text = some rate := by
  simp only [normalize, Value.plain] at h
  split at h
  · rename_i read hread
    split_ifs at h
    cases h
    exact hread
  · cases h

namespace Exchange

open Decimal

/-- A source that answers with numbers above zero, or refuses. -/
def Quoting (rates : RateSource) : Prop := ∀ source target,
  (∃ d, rates source target = .ok (.decimal d) ∧ d.isPositive = true) ∨
    ∃ f, rates source target = .error f ∧ Rate.IsUnavailable f

/--
Whether an exchange takes numbers with more digits than decimals carry, or a digit less: what is
given up, what is received for it, or the rate.
-/
def Overtaxing (given received rate : ℚ) : Prop :=
  10 ^ maxExponent ≤ given ∨ 10 ^ 27 ≤ received ∨ 10 ^ 19 ≤ rate

/-- An amount that is converted. -/
theorem overtaxing_of_convert {n : Nat} {rate : Decimal} (hn : 1 ≤ n)
    (hrate : rate.isPositive = true) {f : Failure} (h : Amount.convert n rate = .error f) :
    ∃ s, f = .arithmetic s ∧ Overtaxing n (n * rate.value) rate.value := by
  obtain ⟨s, rfl, hlarge | hlarge⟩ := Amount.convert_eq_error hn hrate h
  · have hn' : (0 : ℚ) ≤ n := n.cast_nonneg
    exact ⟨s, rfl, .inl (by linarith)⟩
  · exact ⟨s, rfl, .inr (.inl (by linarith))⟩

/-- An amount that covers a wanted one. -/
theorem overtaxing_of_cover {n : Nat} {rate : Decimal} (hn : 1 ≤ n)
    (hrate : rate.isPositive = true) {m : Int} (hm : Amount.cover n rate = .ok m) {f : Failure}
    (h : Amount.convert m rate = .error f) :
    ∃ s, f = .arithmetic s ∧ Overtaxing (n / rate.value) n rate.value := by
  obtain ⟨k, rfl⟩ := Int.eq_ofNat_of_zero_le (Amount.cover_nonneg hrate hm)
  have hpos := value_pos hrate
  have hcover := Amount.cover_le hn hrate hm
  rw [Int.cast_natCast] at hcover
  rcases Nat.eq_zero_or_pos k with rfl | hk
  · rw [show ((0 : Nat) : Int) = 0 from rfl, Amount.convert_zero hrate] at h
    cases h
  obtain ⟨s, rfl, hlarge | hlarge⟩ := Amount.convert_eq_error hk hrate h
  · have := Amount.ten_pow_le_maxExponent
    exact ⟨s, rfl, .inl (by linarith)⟩
  · have hspent : k * rate.value ≤ 11 / 10 * n + 2 * rate.value :=
      calc (k : ℚ) * rate.value ≤ (11 / 10 * (n / rate.value) + 2) * rate.value := by gcongr
        _ = 11 / 10 * n + 2 * rate.value := by field_simp
    by_cases hmoderate : rate.value < 10 ^ 19
    · exact ⟨s, rfl, .inr (.inl (by linarith))⟩
    · exact ⟨s, rfl, .inr (.inr (le_of_not_gt hmoderate))⟩

/-- Sizing fails with a refusal, or at a quoted rate. -/
theorem plan_eq_error {rates : RateSource} (hrates : Quoting rates) {source target : String}
    {spend : Decimal → Except Failure Int} {f : Failure}
    (h : plan rates source target spend = .error f) :
    (∃ e, f = .ledger e ∧ e.kind ≠ .rejected) ∨
    ∃ rate, rates source target = .ok (.decimal rate) ∧ rate.isPositive = true ∧
      (spend rate = .error f ∨
        (∃ m, spend rate = .ok m ∧ Amount.convert m rate = .error f) ∨
        ∃ s, f = .arithmetic s ∧ 10 ^ 19 ≤ rate.value) := by
  simp only [plan, bind_eq_error, ofLedger_eq_error, ofLedger_eq_ok, ofSignal_eq_error] at h
  rcases hrates source target with ⟨d, hd, hpositive⟩ | ⟨_, hg, e, rfl, hkind⟩
  · rw [hd] at h
    rcases h with h | ⟨v, hv, ⟨e, he, rfl⟩ | ⟨rate, hrate, h⟩⟩
    · cases h
    · exact .inl ⟨e, rfl, by rw [Rate.kind_of_normalize he]; decide⟩
    cases hv
    obtain ⟨c, i, hc, rfl⟩ := isPositive_iff.1 hpositive
    obtain rfl := normalize_decimal hrate
    rcases h with h | ⟨m, hm, h | ⟨credit, -, h⟩⟩
    · exact .inr ⟨_, hd, hpositive, .inl h⟩
    · exact .inr ⟨_, hd, hpositive, .inr (.inl ⟨m, hm, h⟩)⟩
    rcases h with ⟨e, he, rfl⟩ | ⟨_, -, ⟨s, hs, rfl⟩ | ⟨_, _, h⟩⟩
    · refine .inl ⟨e, rfl, ?_⟩
      rw [requireConverted] at he
      split_ifs at he
      cases he
      exact LedgerError.Kind.noConfusion
    · exact .inr ⟨_, hd, hpositive, .inr (.inr ⟨s, rfl,
        Rate.format_eq_error hpositive (Rate.ofText?_of_normalize hrate) hs⟩)⟩
    · cases h
  · rw [hg] at h
    rcases h with h | ⟨v, hv, -⟩
    · cases h
      exact .inl ⟨e, rfl, by rw [hkind]; decide⟩
    · cases hv

theorem requireDistinct_eq_error {a b : String} {f : Failure}
    (h : requireDistinct a b = .error f) : f = .refusal .sameCurrency := by
  rw [requireDistinct] at h
  split_ifs at h
  cases h
  rfl

/-- Sizing what is given up. -/
theorem plan_spending_eq_error {rates : RateSource} (hrates : Quoting rates)
    {source target : String} {n : Nat} (hn : 1 ≤ n) {f : Failure}
    (h : plan rates source target (fun _ => .ok n) = .error f) :
    (∃ e, f = .ledger e ∧ e.kind ≠ .rejected) ∨
    ∃ s rate, f = .arithmetic s ∧ rates source target = .ok (.decimal rate) ∧
      Overtaxing n (n * rate.value) rate.value := by
  rcases plan_eq_error hrates h with hrefused | ⟨rate, hquote, hpositive, h⟩
  · exact .inl hrefused
  rcases h with hspend | ⟨m, hm, hconvert⟩ | ⟨s, rfl, hlarge⟩
  · cases hspend
  · cases hm
    obtain ⟨s, rfl, htaxing⟩ := overtaxing_of_convert hn hpositive hconvert
    exact .inr ⟨s, rate, rfl, hquote, htaxing⟩
  · exact .inr ⟨s, rate, rfl, hquote, .inr (.inr hlarge)⟩

/-- Sizing what covers a wanted amount. -/
theorem plan_covering_eq_error {rates : RateSource} (hrates : Quoting rates)
    {source target : String} {n : Nat} (hn : 1 ≤ n) {f : Failure}
    (h : plan rates source target (Amount.cover n) = .error f) :
    (∃ e, f = .ledger e ∧ e.kind ≠ .rejected) ∨
    ∃ s rate, f = .arithmetic s ∧ rates source target = .ok (.decimal rate) ∧
      Overtaxing (n / rate.value) n rate.value := by
  rcases plan_eq_error hrates h with hrefused | ⟨rate, hquote, hpositive, h⟩
  · exact .inl hrefused
  rcases h with hcover | ⟨m, hm, hconvert⟩ | ⟨s, rfl, hlarge⟩
  · obtain ⟨s, rfl, hlarge⟩ := Amount.cover_eq_error hn hpositive hcover
    exact .inr ⟨s, rate, rfl, hquote, .inl hlarge⟩
  · obtain ⟨s, rfl, htaxing⟩ := overtaxing_of_cover hn hpositive hm hconvert
    exact .inr ⟨s, rate, rfl, hquote, htaxing⟩
  · exact .inr ⟨s, rate, rfl, hquote, .inr (.inr hlarge)⟩

end Exchange

namespace Operation

open Exchange Session

/-! ### Calls -/

/-- A call whose source of rates quotes or refuses, and whose action is one. -/
def Call.Admissible : Call → Prop
  | .fund .. => True
  | .convert rates .. => Quoting rates
  | .trade rates _ _ _ _ action => Quoting rates ∧ ∃ side, TradeAction.ofValue action = .ok side

/-- Whether the numbers of a call are too large for decimals. -/
inductive Call.Overtaxes : Call → Prop
  | conversion {rates : RateSource} {userId : Int} {source target amount : Value} {n : Nat}
    {a b : String} {rate : Decimal} (hamount : Amount.ofValue amount = .ok n)
    (hsource : Currency.normalize source = .ok a) (htarget : Currency.normalize target = .ok b)
    (hrate : rates a b = .ok (.decimal rate)) (h : Overtaxing n (n * rate.value) rate.value) :
    Overtaxes (.convert rates userId source target amount)
  | sale {rates : RateSource} {userId : Int} {base quote amount action : Value} {n : Nat}
    {a b : String} {rate : Decimal} (hamount : Amount.ofValue amount = .ok n)
    (hbase : Currency.normalize base = .ok a) (hquote : Currency.normalize quote = .ok b)
    (hside : TradeAction.ofValue action = .ok .sell) (hrate : rates a b = .ok (.decimal rate))
    (h : Overtaxing n (n * rate.value) rate.value) :
    Overtaxes (.trade rates userId base quote amount action)
  | purchase {rates : RateSource} {userId : Int} {base quote amount action : Value} {n : Nat}
    {a b : String} {rate : Decimal} (hamount : Amount.ofValue amount = .ok n)
    (hbase : Currency.normalize base = .ok a) (hquote : Currency.normalize quote = .ok b)
    (hside : TradeAction.ofValue action = .ok .buy) (hrate : rates b a = .ok (.decimal rate))
    (h : Overtaxing (n / rate.value) n rate.value) :
    Overtaxes (.trade rates userId base quote amount action)

/-- The currency that an order brings in, and how much of it. -/
def Order.receipt : Order → String × Nat
  | .funding amount currency => (currency, amount)
  | .conversion c => (c.plan.target, c.plan.credit.toNat)
  | .trade t => (t.plan.target, t.plan.credit.toNat)

/-- Why a call fails on what users hold. -/
inductive Call.Rejection (c : Call) (held : Holdings) : Failure → Prop
  | refused {e : LedgerError} (h : e.kind ≠ .rejected) : Rejection c held (.ledger e)
  | overtaxed {s : Decimal.Signal} (h : c.Overtaxes) : Rejection c held (.arithmetic s)
  | overfull {order : Order} (horder : c.order = .ok order)
    (h : Column.maxInteger <
      (((held c.userId order.receipt.1).getD 0 + order.receipt.2 : Nat) : Int)) :
    Rejection c held .integerOverflow

section

variable {c : Call} {held : Holdings} {v : Value} {e : LedgerError}

theorem Call.Rejection.of_amount (h : Amount.ofValue v = .error e) : c.Rejection held (.ledger e) :=
  .refused ((Amount.kind_of_ofValue h).trans_ne (by decide))

theorem Call.Rejection.of_currency (h : Currency.normalize v = .error e) :
    c.Rejection held (.ledger e) :=
  .refused ((Currency.kind_of_normalize h).trans_ne (by decide))

theorem Call.Rejection.of_equal {a b : String} {f : Failure}
    (h : requireDistinct a b = .error f) : c.Rejection held f := by
  obtain rfl := requireDistinct_eq_error h
  exact .refused (by decide)

end

section

variable {rates : RateSource} (hrates : Quoting rates) (userId : Int) (held : Holdings)
include hrates

theorem Call.rejection_of_conversion {source target amount : Value} {f : Failure}
    (h : planConversion rates source target amount = .error f) :
    (Call.convert rates userId source target amount).Rejection held f := by
  simp only [planConversion, bind_eq_error, ofLedger_eq_error, ofLedger_eq_ok] at h
  rcases h with ⟨e, he, rfl⟩ | ⟨n, hn, ⟨e, he, rfl⟩ | ⟨a, ha, ⟨e, he, rfl⟩ | ⟨b, hb, h⟩⟩⟩
  · exact .of_amount he
  · exact .of_currency he
  · exact .of_currency he
  rcases h with h | ⟨_, -, h | ⟨p, -, h⟩⟩
  · exact .of_equal h
  · rcases plan_spending_eq_error hrates (Amount.pos_of_ofValue hn) h with
      ⟨e, rfl, hkind⟩ | ⟨s, rate, rfl, hrate, htaxing⟩
    · exact .refused hkind
    · exact .overtaxed (.conversion hn ha hb hrate htaxing)
  · cases h

theorem Call.rejection_of_trade {base quote amount action : Value} {side : TradeAction}
    (hside : TradeAction.ofValue action = .ok side) {f : Failure}
    (h : planTrade rates base quote amount action = .error f) :
    (Call.trade rates userId base quote amount action).Rejection held f := by
  simp only [planTrade, hside, bind_eq_error, ofLedger_eq_error, ofLedger_eq_ok] at h
  rcases h with ⟨e, he, rfl⟩ | ⟨n, hn, ⟨e, he, rfl⟩ | ⟨a, ha, ⟨e, he, rfl⟩ | ⟨b, hb, h⟩⟩⟩
  · exact .of_amount he
  · exact .of_currency he
  · exact .of_currency he
  rcases h with h | ⟨_, hok, h | ⟨_, -, h⟩⟩
  · cases h
  · exact .of_equal h
  cases hok
  cases side with
  | buy =>
    rcases bind_eq_error.1 h with h | ⟨p, -, h⟩
    · rcases plan_covering_eq_error hrates (Amount.pos_of_ofValue hn) h with
        ⟨e, rfl, hkind⟩ | ⟨s, rate, rfl, hrate, htaxing⟩
      · exact .refused hkind
      · exact .overtaxed (.purchase hn ha hb hside hrate htaxing)
    · cases h
  | sell =>
    rcases bind_eq_error.1 h with h | ⟨p, -, h⟩
    · rcases plan_spending_eq_error hrates (Amount.pos_of_ofValue hn) h with
        ⟨e, rfl, hkind⟩ | ⟨s, rate, rfl, hrate, htaxing⟩
      · exact .refused hkind
      · exact .overtaxed (.sale hn ha hb hside hrate htaxing)
    · cases h

end

/-- A call without an order is refused, or its numbers are too large. -/
theorem Call.rejection_of_order {c : Call} (hc : c.Admissible) (held : Holdings) {f : Failure}
    (h : c.order = .error f) : c.Rejection held f := by
  cases c with
  | fund userId amount currency =>
    simp only [Call.order, bind_eq_error, ofLedger_eq_error, ofLedger_eq_ok] at h
    rcases h with ⟨e, he, rfl⟩ | ⟨n, hn, ⟨e, he, rfl⟩ | ⟨code, hcode, h⟩⟩
    · exact .of_amount he
    · exact .of_currency he
    · cases h
  | convert rates userId source target amount =>
    exact rejection_of_conversion hc userId held (map_eq_error.1 h)
  | trade rates userId base quote amount action =>
    obtain ⟨hrates, side, hside⟩ := hc
    exact rejection_of_trade hrates userId held hside (map_eq_error.1 h)

end Operation

/-! ### Taking and giving -/

namespace Holdings

variable {held rest : Holdings} {userId : Int} {currency : String} {n : Nat} {f : Failure}

theorem give_eq_error (h : held.give userId currency n = .error f) :
    f = .integerOverflow ∧
      Column.maxInteger < (((held userId currency).getD 0 + n : Nat) : Int) := by
  rw [give] at h
  split_ifs at h with hfits
  cases h
  exact ⟨rfl, lt_of_not_ge hfits⟩

theorem take_eq_error (h : held.take userId currency n = .error f) :
    ∃ e, f = .ledger e ∧ e.kind ≠ .rejected := by
  rw [take] at h
  split at h
  · cases h
    exact ⟨_, rfl, LedgerError.Kind.noConfusion⟩
  · split_ifs at h
    cases h
    exact ⟨_, rfl, LedgerError.Kind.noConfusion⟩

/-- Taking leaves the other currencies alone. -/
theorem take_other (h : held.take userId currency n = .ok rest) {other : String}
    (hne : other ≠ currency) : rest userId other = held userId other := by
  rw [take] at h
  split at h
  · cases h
  · split_ifs at h
    cases h
    rw [set, if_neg fun heq => hne heq.2]

end Holdings

namespace Operation

open Session

theorem onPlan_eq_error {held : Holdings} {userId : Int} (huser : Column.fits userId = true)
    {plan : Exchange.Plan} (hplan : plan.Distinct) {f : Failure}
    (h : Order.onHoldings.onPlan userId held plan = .error f) :
    (∃ e, f = .ledger e ∧ e.kind ≠ .rejected) ∨ f = .integerOverflow ∧
      Column.maxInteger < (((held userId plan.target).getD 0 + plan.credit.toNat : Nat) : Int) := by
  rw [Order.onHoldings.onPlan, Holdings.requireUser, if_pos huser] at h
  rcases bind_eq_error.1 h with h | ⟨_, -, h⟩
  · cases h
  rcases bind_eq_error.1 h with h | ⟨rest, htake, hgive⟩
  · exact .inl (Holdings.take_eq_error h)
  · rw [← Holdings.take_other htake hplan.distinct.symm]
    exact .inr (Holdings.give_eq_error hgive)

/-- An order that cannot be carried out is refused, or would make its user hold too much. -/
theorem Call.rejection_of_holdings {c : Call} {order : Order} (horder : c.order = .ok order)
    (huser : Column.fits c.userId = true) {held : Holdings} {f : Failure}
    (h : order.onHoldings c.userId held = .error f) : c.Rejection held f := by
  have hproper := Call.proper_order horder
  cases order with
  | funding n code =>
    rw [Order.onHoldings, Holdings.requireUser, if_pos huser] at h
    obtain ⟨rfl, hfull⟩ := Holdings.give_eq_error h
    exact .overfull horder hfull
  | conversion conversion =>
    rcases onPlan_eq_error huser hproper h with ⟨e, rfl, hkind⟩ | ⟨rfl, hfull⟩
    · exact .refused hkind
    · exact .overfull horder hfull
  | trade trade =>
    rcases onPlan_eq_error huser hproper h with ⟨e, rfl, hkind⟩ | ⟨rfl, hfull⟩
    · exact .refused hkind
    · exact .overfull horder hfull

/-! ### Units of work -/

/-- However a body ends, the unit of work ends well, or fails as it does, or is too late. -/
theorem Yields.unitOfWork_cases {body : Action Session α} {s : Session}
    {r : Except Failure Holdings} (h : Yields body s r) (hbody : body.Within SameUnit)
    (hs : Calm s) {limit : Option TimeLimit} (hadmits : s.AdmitsLimit limit) :
    (∃ x t, (Session.unitOfWork limit body).on s = (.ok x, t)) ∨
    ∃ f t, (Session.unitOfWork limit body).on s = (.error f, t) ∧ t.committed = s.committed ∧
      (r = .error f ∨ ∃ g, UnitOfWork.overrun? limit s.elapsed = some g ∧
        f = UnitOfWork.reported limit s.elapsed g) := by
  cases hover : UnitOfWork.overrun? limit s.elapsed with
  | none =>
    have hdone := h.unitOfWork hbody hs hadmits hover
    cases r with
    | ok held =>
      obtain ⟨x, t, ht, -⟩ := hdone
      exact .inl ⟨x, t, ht⟩
    | error f =>
      obtain ⟨t, ht, hcommitted⟩ := hdone
      exact .inr ⟨f, t, ht, hcommitted, .inl rfl⟩
  | some g =>
    cases r with
    | ok held =>
      obtain ⟨x, t, ht, -⟩ := h
      have hset : (UnitOfWork.setUp s.connection limit).on s = (.ok (), s) :=
        on_setUp_eq_ok.2 ⟨hadmits, rfl⟩
      have hfailed : (Session.unitOfWork limit body).on s =
          (.error (UnitOfWork.reported limit s.elapsed g), t.rollback) :=
        UnitOfWork.on_run_of_error (UnitOfWork.on_attempt_of_overrun hset ht hover)
      have hsame : SameUnit s t := by simpa [ht] using hbody s
      exact .inr ⟨_, _, hfailed, hsame.upholds.committed hs.shared, .inr ⟨g, rfl, rfl⟩⟩
    | error f =>
      obtain ⟨hf, t, ht⟩ := h
      have hfailed := on_unitOfWork_of_error hadmits ht
      rw [UnitOfWork.reported_of_not_database hf] at hfailed
      have hsame : SameUnit s t := by simpa [ht] using hbody s
      exact .inr ⟨f, _, hfailed, hsame.upholds.committed hs.shared, .inl rfl⟩

/--
A call on a quiet store, of a user as the store knows them, with a time limit that is a number and
can be told and written down.
-/
structure Unhindered (c : Call) (o : Options) (s : Session) : Prop where
  quiet : Quiet c s
  user : Column.fits c.userId = true
  limit : UnitOfWork.Numeric o.limit
  written : ∀ l, o.limit = some l → ∃ text, l.written = .ok text
  told : ∀ l, UnitOfWork.effective? o.limit = some l → s.dialect = .postgresql →
    ∃ ms, l.milliseconds = .ok ms
  elapsed : ∃ e, s.elapsed.toRat? = some e

/-- That the time is over is reported as that. -/
theorem Unhindered.overrun {c : Call} {o : Options} {s : Session} (h : Unhindered c o s)
    {f : Failure} (hover : UnitOfWork.overrun? o.limit s.elapsed = some f) :
    ∃ e, f = .ledger e ∧ e.kind = .deadlineExceeded := by
  obtain ⟨e, he⟩ := h.elapsed
  have hpassed : UnitOfWork.Passed o.limit e := by
    by_contra hnot
    rw [UnitOfWork.overrun?_of_not_passed h.limit he hnot] at hover
    cases hover
  obtain ⟨g, hg, l, hl, hreport⟩ := UnitOfWork.overrun?_of_passed he hpassed
  obtain rfl := Option.some.inj (hover.symm.trans hg)
  cases hreport with
  | exceeded _ => exact ⟨_, rfl, rfl⟩
  | unwritable hn _ =>
    obtain ⟨text, htext⟩ := h.written _ hl
    rw [TimeLimit.written, TimeLimit.wholeText, hn] at htext
    cases htext

/--
A call succeeds, or it is turned down and commits nothing: the ledger refuses it with a particular
kind, unless the numbers are too large for decimals, or what the user would hold is for its column.
-/
theorem Call.succeeds_or_is_rejected {c : Call} {o : Options} {s : Session} (hc : c.Admissible)
    (h : Unhindered c o s) : (∃ answer t, (c.run o).on s = (.ok answer, t)) ∨
    ∃ f t, (c.run o).on s = (.error f, t) ∧ t.committed = s.committed ∧
      c.Rejection s.committed.holdings f := by
  cases horder : c.order with
  | error f =>
    exact .inr ⟨f, s, Call.on_run_eq_error.2 (.inl ⟨horder, rfl⟩), rfl,
      Call.rejection_of_order hc _ horder⟩
  | ok order =>
    obtain ⟨u, hcommitted, helapsed, hdialect, hcalm, hcarry, hyields⟩ := h.quiet.opens o horder
    have hadmits : u.AdmitsLimit o.limit := admitsLimit_iff.2 fun l hl hd =>
      ⟨h.told l hl (hdialect ▸ hd), hcalm.faults _, hcalm.aborted⟩
    rcases hyields.unitOfWork_cases (order.within_move _ _) hcalm hadmits with
      ⟨answer, t, ht⟩ | ⟨f, t, ht, hkept, hf⟩
    · exact .inl ⟨answer, _, Call.on_run_eq_ok.2 ⟨order, horder, t, hcarry.trans ht, rfl⟩⟩
    · refine .inr ⟨f, t, Call.on_run_eq_error.2 (.inr ⟨order, horder, hcarry.trans ht⟩),
        hkept.trans hcommitted, ?_⟩
      rcases hf with hf | ⟨g, hg, rfl⟩
      · exact Call.rejection_of_holdings horder h.user hf
      · rw [helapsed] at hg
        obtain ⟨e, rfl, hkind⟩ := h.overrun hg
        exact .refused (hkind.trans_ne (by decide))

/-- Three naira of a purse with ten are converted at two dollars each. -/
def conversionAtTwo : Call :=
  .convert (Exchange.oneRate (.decimal (.ofInt 2))) 1 (.text "ngn") (.text "USD") (.int 300)

theorem quoting_oneRate {d : Decimal} (hd : d.isPositive = true) :
    Exchange.Quoting (Exchange.oneRate (.decimal d)) := fun _ _ => .inl ⟨d, rfl, hd⟩

/-- With names as they are for a conversion, a call in the purse's session is not hindered. -/
theorem unhindered_purse {c : Call} (huser : Column.fits c.userId = true)
    (hrows : FreshRows c.kind.mark c.legs undisturbedSession.names undisturbedSession.committed) :
    Unhindered c {} undisturbedSession where
  quiet :=
    { settled := ⟨rfl, rfl⟩
      lawful := by constructor <;> decide +kernel
      faults := fun _ => rfl
      rival := rfl
      rows := hrows
      wallet := Tables.wallet?_eq_none.2 (by decide +kernel) }
  user := huser
  limit l hl := by
    cases hl
    exact ⟨10, rfl⟩
  written l hl := by
    cases hl
    exact ⟨"10", by decide +kernel⟩
  told _ _ hd := by cases hd
  elapsed := ⟨0, by decide +kernel⟩

theorem conversion_at_two_succeeds :
    conversionAtTwo.Admissible ∧ Unhindered conversionAtTwo {} undisturbedSession ∧
    ((conversionAtTwo.run {}).on undisturbedSession).1.toBool = true ∧
    ((∃ answer t, (conversionAtTwo.run {}).on undisturbedSession = (.ok answer, t)) ∨
      ∃ f t, (conversionAtTwo.run {}).on undisturbedSession = (.error f, t) ∧
        t.committed = undisturbedSession.committed ∧
        conversionAtTwo.Rejection undisturbedSession.committed.holdings f) := by
  have hc : conversionAtTwo.Admissible := quoting_oneRate (by decide)
  have h : Unhindered conversionAtTwo {} undisturbedSession :=
    unhindered_purse (by decide) ⟨by decide +kernel, by decide +kernel⟩
  exact ⟨hc, h, by decide +kernel, Call.succeeds_or_is_rejected hc h⟩

/-- One unit more than a column takes is to be added to the purse. -/
def fundingBeyondColumn : Call := .fund 1 (.int (Column.maxInteger + 1)) (.text "NGN")

/-- A naira is to be converted at a rate with more digits than decimals carry. -/
def conversionBeyondDecimals : Call :=
  .convert (Exchange.oneRate (.decimal (.scaled 1 30))) 1 (.text "NGN") (.text "USD") (.int 100)

/-- Not every rejection is a refusal of the ledger: two kinds of large numbers are not checked. -/
theorem large_numbers_are_not_refused :
    ¬(∀ (c : Call) (o : Options) (s : Session) (f : Failure), c.Admissible → Unhindered c o s →
      Action.failure? ((c.run o).on s).1 = some f → f ≠ .integerOverflow) ∧
    ¬(∀ (c : Call) (o : Options) (s : Session) (f : Failure), c.Admissible → Unhindered c o s →
      Action.failure? ((c.run o).on s).1 = some f → f ≠ .arithmetic .invalidOperation) := by
  constructor
  · intro h
    exact h fundingBeyondColumn {} undisturbedSession _ trivial
      (unhindered_purse (by decide) ⟨by decide +kernel, by decide +kernel⟩) (by decide +kernel) rfl
  · intro h
    exact h conversionBeyondDecimals {} undisturbedSession _ (quoting_oneRate (by decide))
      (unhindered_purse (by decide) ⟨by decide +kernel, by decide +kernel⟩) (by decide +kernel) rfl

end Operation

end CurrencyLedger
