import CurrencyLedger.Proofs.Announcements
import CurrencyLedger.Proofs.Objections
import CurrencyLedger.Proofs.OrderForms
import Mathlib.Data.List.Defs

/-!
Validation and the checks of the ledger.

What a form asks of a body and what an operation asks of its arguments is written down twice. A body
that makes an order passes on codes, which name themselves, and a positive amount; so the operation
has nothing to object to and moves money between the currencies of the order. And a body whose parts
are of the right kinds makes no order exactly when the operation would object to the parts as they
were given.
-/

namespace CurrencyLedger

/-! ### Pairs -/

namespace Exchange

/-- An exchange asks for the rate of its pair, and for no other. -/
theorem plan_eq_oneRate (rates : RateSource) (source target : String)
    (spend : Decimal → Except Failure Int) : plan rates source target spend = (do
      let v ← rates source target
      plan (oneRate v) source target spend) := by
  rw [plan]
  cases rates source target <;> rfl

section

variable (rates : RateSource) {n : Nat} {a b : String} {base quote amount : Value}
  (hn : Amount.ofValue amount = .ok n) (ha : Currency.normalize base = .ok a)
  (hb : Currency.normalize quote = .ok b)
include hn ha hb

theorem planConversion_eq (hdistinct : a ≠ b) : planConversion rates base quote amount = (do
    let plan ← plan rates a b fun _ => .ok n
    return ⟨n, plan⟩) := by
  rw [planConversion, hn, ha, hb]
  show (requireDistinct a b >>= _) = _
  rw [requireDistinct, if_neg hdistinct]
  rfl

theorem planTrade_eq {action : Value} {side : TradeAction}
    (hside : TradeAction.ofValue action = .ok side) (hdistinct : a ≠ b) :
    planTrade rates base quote amount action = (do
      let plan ← match side with
        | .buy => plan rates b a (Amount.cover n)
        | .sell => plan rates a b fun _ => .ok n
      return ⟨n, a, b, side, plan⟩) := by
  rw [planTrade, hn, ha, hb, hside]
  show (requireDistinct a b >>= _) = _
  rw [requireDistinct, if_neg hdistinct]
  rfl

end

end Exchange

end CurrencyLedger

namespace CurrencyLedger.Validation

open Operation

/-! ### Calls of orders -/

/-- The call that an order asks for; a user makes it, unless the order names one. -/
def AnyOrder.call (rates : Exchange.RateSource) (userId : Int) : AnyOrder → Call
  | .fund order => .fund userId (.int order.amount) (.text order.currency)
  | .fundUser order => .fund order.userId (.int order.amount) (.text order.currency)
  | .convert order =>
    .convert rates userId (.text order.source) (.text order.target) (.int order.amount)
  | .trade order => .trade rates userId (.text order.base) (.text order.quote) (.int order.amount)
    (.text order.action.text)

/-- The currencies of an order, the one given up first. -/
def AnyOrder.path : AnyOrder → List String
  | .fund order => [order.currency]
  | .fundUser order => [order.currency]
  | .convert order => [order.source, order.target]
  | .trade order => match order.action with
    | .buy => [order.quote, order.base]
    | .sell => [order.base, order.quote]

/-- A field as it was given, null if it was not. -/
def given (fields : List (String × Value)) (name : String) : Value :=
  (fields.lookup name).getD .null

/-- The user that a body names by an integer, or else another one. -/
def givenUser (fields : List (String × Value)) (otherwise : Int) : Int :=
  match given fields "user_id" with
  | .int n => n
  | _ => otherwise

/-- The call that the fields of a body ask for as they were given. -/
def OrderForm.rawCall (rates : Exchange.RateSource) (userId : Int)
    (fields : List (String × Value)) : OrderForm → Call
  | .fund => .fund userId (given fields "amount") (given fields "currency")
  | .fundUser => .fund (givenUser fields userId) (given fields "amount") (given fields "currency")
  | .convert => .convert rates userId (given fields "from_currency") (given fields "to_currency")
    (given fields "amount")
  | .trade => .trade rates userId (given fields "base_currency") (given fields "quote_currency")
    (given fields "amount") (given fields "action")

/-- The kinds of values that parts of a body can have. -/
inductive PartKind where
  | integer
  | text

/-- Whether a value is of a kind. -/
def PartKind.admits : PartKind → Value → Bool
  | .integer, .int _ => true
  | .text, v => v.isText
  | _, _ => false

/-- The parts of a form. -/
def OrderForm.parts : OrderForm → List (String × PartKind)
  | .fund => [("amount", .integer), ("currency", .text)]
  | .fundUser => [("user_id", .integer), ("amount", .integer), ("currency", .text)]
  | .convert => [("from_currency", .text), ("to_currency", .text), ("amount", .integer)]
  | .trade => [("base_currency", .text), ("quote_currency", .text), ("amount", .integer),
    ("action", .text)]

/-- Fields among which every part of a form is there and of its kind. -/
def OrderForm.Typed (form : OrderForm) (fields : List (String × Value)) : Prop :=
  form.parts.Forall fun part => part.2.admits (given fields part.1) = true

/-! ### Parts -/

section

variable {fields : List (String × Value)} {name : String}

theorem lookup_of_admits {kind : PartKind} (h : kind.admits (given fields name) = true) :
    fields.lookup name = some (given fields name) := by
  rw [given] at h ⊢
  cases hlookup : fields.lookup name with
  | none =>
    rw [hlookup] at h
    cases kind <;> cases h
  | some v => rfl

/-- An integer is read as an amount if it is positive. -/
theorem field_amount_iff (h : PartKind.integer.admits (given fields name) = true) {n : Int} :
    field name readAmount fields = .ok n ↔ given fields name = .int n ∧ 0 < n := by
  simp only [field_eq_ok, lookup_of_admits h, Option.some.injEq, exists_eq_left', readAmount_eq_ok]
  refine and_congr_left fun _ => ?_
  cases hv : given fields name with
  | int m => simp [readInteger]
  | _ =>
    rw [hv] at h
    cases h

/-- What the ledger takes for an amount is read as the same one. -/
theorem field_of_ofValue (h : PartKind.integer.admits (given fields name) = true) {k : Nat}
    (hk : Amount.ofValue (given fields name) = .ok k) : field name readAmount fields = .ok k := by
  rw [field_amount_iff h]
  cases hv : given fields name with
  | int m =>
    rw [hv] at hk
    obtain ⟨hpos, rfl⟩ := Amount.ofValue_int_eq_ok.1 hk
    exact ⟨rfl, hpos⟩
  | _ =>
    rw [hv] at h
    cases h

theorem field_user_iff (h : PartKind.integer.admits (given fields "user_id") = true)
    (otherwise : Int) {n : Int} :
    field "user_id" readInteger fields = .ok n ↔ givenUser fields otherwise = n := by
  simp only [field_eq_ok, lookup_of_admits h, Option.some.injEq, exists_eq_left', givenUser]
  cases hv : given fields "user_id" with
  | int m => simp [readInteger]
  | _ =>
    rw [hv] at h
    cases h

/-- A text is read as a currency if it names one. -/
theorem field_currency_iff (h : PartKind.text.admits (given fields name) = true) {code : String} :
    field name readCurrency fields = .ok code ↔
      Currency.normalize (given fields name) = .ok code := by
  simp only [field_eq_ok, lookup_of_admits h, Option.some.injEq, exists_eq_left',
    readCurrency_eq_ok]
  exact and_iff_right h

theorem field_action_iff (h : PartKind.text.admits (given fields name) = true) {a : TradeAction} :
    field name readAction fields = .ok a ↔ TradeAction.ofValue (given fields name) = .ok a := by
  simp only [field_eq_ok, lookup_of_admits h, Option.some.injEq, exists_eq_left', readAction_eq_ok]

/-- What is read as an amount is one for the ledger. -/
theorem ofValue_of_field {n : Int} (h : field name readAmount fields = .ok n) :
    ∃ k : Nat, Amount.ofValue (.int n) = .ok k := by
  obtain ⟨v, -, hv⟩ := field_eq_ok.1 h
  have hpos := (readAmount_eq_ok.1 hv).2
  exact ⟨n.toNat, Amount.ofValue_int_eq_ok.2 ⟨hpos, Int.toNat_of_nonneg hpos.le⟩⟩

/-- What is read as a currency names itself. -/
theorem normalize_of_field {code : String} (h : field name readCurrency fields = .ok code) :
    Currency.normalize (.text code) = .ok code := by
  obtain ⟨v, -, hv⟩ := field_eq_ok.1 h
  exact Currency.normalize_text (Currency.isCode_of_normalize (readCurrency_eq_ok.1 hv).2)

end

/-! ### Accepted orders -/

section

variable {form : OrderForm} {fields : List (String × Value)} {order : AnyOrder}
  (rates : Exchange.RateSource) (userId : Int)

/-- The call of an order passes the checks of the ledger. -/
theorem passes_of_read (h : form.read fields = .ok order) :
    (order.call rates userId).Passes := by
  cases form with
  | fund =>
    obtain ⟨order, hread, rfl⟩ := map_eq_ok.1 h
    obtain ⟨hamount, hcurrency⟩ := FundOrder.read_eq_ok.1 hread
    obtain ⟨n, hn⟩ := ofValue_of_field hamount
    exact .fund hn (normalize_of_field hcurrency)
  | fundUser =>
    obtain ⟨order, hread, rfl⟩ := map_eq_ok.1 h
    obtain ⟨-, hamount, hcurrency⟩ := FundUserOrder.read_eq_ok.1 hread
    obtain ⟨n, hn⟩ := ofValue_of_field hamount
    exact .fund hn (normalize_of_field hcurrency)
  | convert =>
    obtain ⟨order, hread, rfl⟩ := map_eq_ok.1 h
    obtain ⟨⟨hsource, htarget, hamount⟩, hdistinct⟩ := ConvertOrder.read_eq_ok.1 hread
    obtain ⟨n, hn⟩ := ofValue_of_field hamount
    exact .convert hn (normalize_of_field hsource) (normalize_of_field htarget) hdistinct
  | trade =>
    obtain ⟨order, hread, rfl⟩ := map_eq_ok.1 h
    obtain ⟨⟨hbase, hquote, hamount, -⟩, hdistinct⟩ := TradeOrder.read_eq_ok.1 hread
    obtain ⟨n, hn⟩ := ofValue_of_field hamount
    exact .trade hn (normalize_of_field hbase) (normalize_of_field hquote)
      (TradeAction.ofValue_eq_ok.2 rfl) hdistinct

/--
An order between two currencies asks for the rate of its pair before all else, and for no other: it
is sized as if that were the one rate that there is.
-/
theorem order_of_pair (h : form.read fields = .ok order) {source target : String}
    (hpath : order.path = [source, target]) : (order.call rates userId).order = (do
      let v ← rates source target
      (order.call (Exchange.oneRate v) userId).order) := by
  cases form with
  | fund =>
    obtain ⟨order, -, rfl⟩ := map_eq_ok.1 h
    cases hpath
  | fundUser =>
    obtain ⟨order, -, rfl⟩ := map_eq_ok.1 h
    cases hpath
  | convert =>
    obtain ⟨order, hread, rfl⟩ := map_eq_ok.1 h
    obtain ⟨⟨hsource, htarget, hamount⟩, hdistinct⟩ := ConvertOrder.read_eq_ok.1 hread
    obtain ⟨n, hn⟩ := ofValue_of_field hamount
    cases hpath
    have hplan (given : Exchange.RateSource) := Exchange.planConversion_eq given hn
      (normalize_of_field hsource) (normalize_of_field htarget) hdistinct
    simp only [AnyOrder.call, Call.order, hplan]
    rw [Exchange.plan_eq_oneRate, bind_assoc, map_bind]
  | trade =>
    obtain ⟨order, hread, rfl⟩ := map_eq_ok.1 h
    obtain ⟨⟨hbase, hquote, hamount, -⟩, hdistinct⟩ := TradeOrder.read_eq_ok.1 hread
    obtain ⟨n, hn⟩ := ofValue_of_field hamount
    have hplan (given : Exchange.RateSource) := Exchange.planTrade_eq given hn
      (normalize_of_field hbase) (normalize_of_field hquote)
      (TradeAction.ofValue_eq_ok.2 (rfl : Value.text order.action.text = _)) hdistinct
    simp only [AnyOrder.call, Call.order, hplan]
    rw [AnyOrder.path] at hpath
    cases hside : order.action with
    | buy =>
      rw [hside] at hpath
      cases hpath
      dsimp only
      rw [Exchange.plan_eq_oneRate, bind_assoc, map_bind]
    | sell =>
      rw [hside] at hpath
      cases hpath
      dsimp only
      rw [Exchange.plan_eq_oneRate, bind_assoc, map_bind]

/-- A body with parts of the right kinds makes an order if the ledger takes them as they are. -/
theorem read_of_passes (htyped : form.Typed fields)
    (h : (form.rawCall rates userId fields).Passes) : ∃ order, form.read fields = .ok order := by
  cases form with
  | fund =>
    cases h with
    | @fund _ _ _ n code hn hcode =>
      obtain ⟨hamount, hcurrency⟩ := htyped
      refine ⟨.fund ⟨n, code⟩, map_eq_ok.2 ⟨_, FundOrder.read_eq_ok.2 ⟨?_, ?_⟩, rfl⟩⟩
      · exact field_of_ofValue hamount hn
      · exact (field_currency_iff hcurrency).2 hcode
  | fundUser =>
    cases h with
    | @fund _ _ _ n code hn hcode =>
      obtain ⟨huser, hamount, hcurrency⟩ := htyped
      refine ⟨.fundUser ⟨givenUser fields userId, n, code⟩,
        map_eq_ok.2 ⟨_, FundUserOrder.read_eq_ok.2 ⟨?_, ?_, ?_⟩, rfl⟩⟩
      · exact (field_user_iff huser userId).2 rfl
      · exact field_of_ofValue hamount hn
      · exact (field_currency_iff hcurrency).2 hcode
  | convert =>
    cases h with
    | @convert _ _ _ _ _ n a b hn ha hb hdistinct =>
      obtain ⟨hsource, htarget, hamount⟩ := htyped
      refine ⟨.convert ⟨a, b, n⟩,
        map_eq_ok.2 ⟨_, ConvertOrder.read_eq_ok.2 ⟨⟨?_, ?_, ?_⟩, hdistinct⟩, rfl⟩⟩
      · exact (field_currency_iff hsource).2 ha
      · exact (field_currency_iff htarget).2 hb
      · exact field_of_ofValue hamount hn
  | trade =>
    cases h with
    | @trade _ _ _ _ _ _ n a b side hn ha hb hside hdistinct =>
      obtain ⟨hbase, hquote, hamount, haction⟩ := htyped
      refine ⟨.trade ⟨a, b, n, side⟩,
        map_eq_ok.2 ⟨_, TradeOrder.read_eq_ok.2 ⟨⟨?_, ?_, ?_, ?_⟩, hdistinct⟩, rfl⟩⟩
      · exact (field_currency_iff hbase).2 ha
      · exact (field_currency_iff hquote).2 hb
      · exact field_of_ofValue hamount hn
      · exact (field_action_iff haction).2 hside

/-- Such a body asks for what its order asks for. -/
theorem order_rawCall (htyped : form.Typed fields) (h : form.read fields = .ok order) :
    (form.rawCall rates userId fields).order = (order.call rates userId).order ∧
      (form.rawCall rates userId fields).userId = (order.call rates userId).userId ∧
      (form.rawCall rates userId fields).action? = (order.call rates userId).action? := by
  have hnormalize {name code : String} (hadmits : PartKind.text.admits (given fields name) = true)
      (hfield : field name readCurrency fields = .ok code) :
      Currency.normalize (given fields name) = Currency.normalize (.text code) := by
    rw [(field_currency_iff hadmits).1 hfield, normalize_of_field hfield]
  cases form with
  | fund =>
    obtain ⟨order, hread, rfl⟩ := map_eq_ok.1 h
    obtain ⟨hamount, hcurrency⟩ := FundOrder.read_eq_ok.1 hread
    obtain ⟨hinteger, htext⟩ := htyped
    have hgiven := ((field_amount_iff hinteger).1 hamount).1
    have hcode := hnormalize htext hcurrency
    simp only [OrderForm.rawCall, AnyOrder.call, Call.order, Call.userId, Call.action?, hgiven,
      hcode, and_self]
  | fundUser =>
    obtain ⟨order, hread, rfl⟩ := map_eq_ok.1 h
    obtain ⟨huser, hamount, hcurrency⟩ := FundUserOrder.read_eq_ok.1 hread
    obtain ⟨hnumber, hinteger, htext⟩ := htyped
    have hid := (field_user_iff hnumber userId).1 huser
    have hgiven := ((field_amount_iff hinteger).1 hamount).1
    have hcode := hnormalize htext hcurrency
    simp only [OrderForm.rawCall, AnyOrder.call, Call.order, Call.userId, Call.action?, hid, hgiven,
      hcode, and_self]
  | convert =>
    obtain ⟨order, hread, rfl⟩ := map_eq_ok.1 h
    obtain ⟨⟨hsource, htarget, hamount⟩, -⟩ := ConvertOrder.read_eq_ok.1 hread
    obtain ⟨htext, htext', hinteger⟩ := htyped
    have hgiven := ((field_amount_iff hinteger).1 hamount).1
    have ha := hnormalize htext hsource
    have hb := hnormalize htext' htarget
    simp only [OrderForm.rawCall, AnyOrder.call, Call.order, Call.userId, Call.action?,
      Exchange.planConversion, hgiven, ha, hb, and_self]
  | trade =>
    obtain ⟨order, hread, rfl⟩ := map_eq_ok.1 h
    obtain ⟨⟨hbase, hquote, hamount, haction⟩, -⟩ := TradeOrder.read_eq_ok.1 hread
    obtain ⟨htext, htext', hinteger, hspelled⟩ := htyped
    have hgiven := ((field_amount_iff hinteger).1 hamount).1
    have ha := hnormalize htext hbase
    have hb := hnormalize htext' hquote
    have hside := TradeAction.ofValue_eq_ok.1 ((field_action_iff hspelled).1 haction)
    simp only [OrderForm.rawCall, AnyOrder.call, Call.order, Call.userId, Call.action?,
      Exchange.planTrade, hgiven, ha, hb, hside, and_self]

end

end CurrencyLedger.Validation

namespace CurrencyLedger

/-! ### Currencies -/

/-- A trade takes the side that its action names. -/
theorem Exchange.action_of_planTrade {rates : RateSource} {base quote amount action : Value}
    {t : Trade} (h : planTrade rates base quote amount action = .ok t) :
    TradeAction.ofValue action = .ok t.action := by
  simp only [planTrade, bind_eq_ok] at h
  obtain ⟨_, -, _, -, _, -, side, hside, _, -, h⟩ := h
  cases side with
  | buy =>
    obtain ⟨plan, -, ht⟩ := bind_eq_ok.1 h
    cases ht
    exact hside
  | sell =>
    obtain ⟨plan, -, ht⟩ := bind_eq_ok.1 h
    cases ht
    exact hside

/-- The currencies between which an order moves money, the one given up first. -/
def Operation.Order.path : Order → List String
  | .funding _ code => [code]
  | .conversion c => [c.plan.source, c.plan.target]
  | .trade t => [t.plan.source, t.plan.target]

theorem Operation.Order.path_of_plan? {order : Order} {plan : Exchange.Plan}
    (h : order.plan? = some plan) : order.path = [plan.source, plan.target] := by
  cases order <;> cases h <;> rfl

/-- An order that is done has moved money between its currencies. -/
theorem Operation.Order.Done.currencies {origin : Wallet → Prop} {now : Moment} {userId : Int}
    {sessionId : String} {a b : Tables} {order : Order} {rows : List Transaction}
    (h : order.Done origin now userId sessionId a b rows) :
    rows.map (·.currency) = order.path := by
  cases h with
  | funding opened leg => simp [path, leg.moved.currency, leg.currency]
  | exchange hplan debit opened credit =>
    have hdebit := debit.moved.currency.trans debit.currency
    have hcredit := credit.moved.currency.trans credit.currency
    simp only [List.map_cons, List.map_nil, hdebit, hcredit, path_of_plan? hplan]

namespace Validation

open Operation

theorem path_of_order {form : OrderForm} {fields : List (String × Value)} {order : AnyOrder}
    (h : form.read fields = .ok order) {rates : Exchange.RateSource} {userId : Int}
    {sized : Order} (hsized : (order.call rates userId).order = .ok sized) :
    sized.path = order.path := by
  cases form with
  | fund =>
    obtain ⟨order, hread, rfl⟩ := map_eq_ok.1 h
    have hcode := normalize_of_field (FundOrder.read_eq_ok.1 hread).2
    cases Call.gives_of_order hsized with
    | fund hn hspelled =>
      obtain rfl := Except.ok.inj (hspelled.symm.trans hcode)
      rfl
  | fundUser =>
    obtain ⟨order, hread, rfl⟩ := map_eq_ok.1 h
    have hcode := normalize_of_field (FundUserOrder.read_eq_ok.1 hread).2.2
    cases Call.gives_of_order hsized with
    | fund hn hspelled =>
      obtain rfl := Except.ok.inj (hspelled.symm.trans hcode)
      rfl
  | convert =>
    obtain ⟨order, hread, rfl⟩ := map_eq_ok.1 h
    obtain ⟨⟨hsource, htarget, -⟩, -⟩ := ConvertOrder.read_eq_ok.1 hread
    cases Call.gives_of_order hsized with
    | convert hplan =>
      obtain ⟨a, b, -, ha, hb, -, hp⟩ := Exchange.plan_of_planConversion hplan
      obtain ⟨hends, hends', -⟩ := Exchange.ends_of_plan hp
      obtain rfl := Except.ok.inj (ha.symm.trans (normalize_of_field hsource))
      obtain rfl := Except.ok.inj (hb.symm.trans (normalize_of_field htarget))
      rw [Order.path, hends, hends']
      rfl
  | trade =>
    obtain ⟨order, hread, rfl⟩ := map_eq_ok.1 h
    obtain ⟨⟨hbase, hquote, -, -⟩, -⟩ := TradeOrder.read_eq_ok.1 hread
    cases Call.gives_of_order hsized with
    | @trade _ _ _ _ _ _ t hplan =>
      have haction := Except.ok.inj
        ((Exchange.action_of_planTrade hplan).symm.trans (TradeAction.ofValue_eq_ok.2 rfl))
      obtain ⟨-, ha, hb, -, -⟩ := Exchange.planned_of_planTrade hplan
      have hbase' := Except.ok.inj (ha.symm.trans (normalize_of_field hbase))
      have hquote' := Except.ok.inj (hb.symm.trans (normalize_of_field hquote))
      rw [Order.path, AnyOrder.path, ← haction, ← hbase', ← hquote']
      cases Exchange.sides_of_planTrade hplan with
      | buy hside hsource htarget => rw [hside, hsource, htarget]
      | sell hside hsource htarget _ => rw [hside, hsource, htarget]

/-! ### Agreement -/

/-- The order in the body of a request. -/
def OrderForm.readBody (body : Value) (form : OrderForm) : Checked AnyOrder :=
  Validation.readBody .notAnObject (form.read ·) body

theorem OrderForm.readBody_eq_ok {form : OrderForm} {body : Value} {order : AnyOrder} :
    form.readBody body = .ok order ↔
      ∃ fields, body = .object fields ∧ form.read fields = .ok order := by
  cases body <;> simp [readBody, Validation.readBody]

/-- A failure comes from outside: the source of rates gives it, or a statement fails with it. -/
def Outside (rates : Exchange.RateSource) (s : Session) (f : Failure) : Prop :=
  (∃ a b, rates a b = .error f) ∨ ∃ st, s.faults st = some f

/-- Rates come from a provider, and statements fail only as the database has them fail. -/
structure Ordinary (rates : Exchange.RateSource) (s : Session) : Prop where
  rates : ∃ (p : Rate.Provider) (m : Rate.Market ℚ), rates = Exchange.providerRates p m
  faults : ∀ st f, s.faults st = some f → f.isDatabase = true

section

variable {rates : Exchange.RateSource} {s t : Session} {f : Failure}

/-- Where all is ordinary, no objection comes from outside. -/
theorem Ordinary.isObjection_of_outside (h : Ordinary rates s) (hf : Outside rates s f) :
    f.isObjection = false := by
  rcases hf with ⟨a, b, hf⟩ | ⟨st, hf⟩
  · obtain ⟨p, m, rfl⟩ := h.rates
    exact Exchange.consents_providerRates p m a b f hf
  · have hdatabase := h.faults st f hf
    cases f <;> first | rfl | cases hdatabase

theorem outside_of_unquoted {userId : Int} {order : AnyOrder}
    (h : (order.call rates userId).Unquoted f) : ∃ a b, rates a b = .error f := by
  cases order with
  | fund => exact h.elim
  | fundUser => exact h.elim
  | convert => exact h
  | trade => exact h

variable {form : OrderForm} {fields : List (String × Value)} {order : AnyOrder} {userId : Int}
  {o : Options}

/-- To an order that has been read the ledger objects only as it is told to from outside. -/
theorem outside_of_objects (h : form.read fields = .ok order)
    (hrun : ((order.call rates userId).run o).on s = (.error f, t))
    (hf : (order.call rates userId).Objects f) : Outside rates s f :=
  ((passes_of_read rates userId h).outside_of_run hrun hf).imp_left outside_of_unquoted

theorem not_objects_of_ordinary (hordinary : Ordinary rates s) (h : form.read fields = .ok order)
    (hrun : ((order.call rates userId).run o).on s = (.error f, t)) :
    ¬(order.call rates userId).Objects f := by
  intro hf
  have hobjects := (passes_of_read rates userId h).isObjection hf
  rw [hordinary.isObjection_of_outside (outside_of_objects h hrun hf)] at hobjects
  cases hobjects

/-- A body of the right kinds that makes an order may be carried out as it was given. -/
theorem run_rawCall (htyped : form.Typed fields) (h : form.read fields = .ok order) :
    (form.rawCall rates userId fields).run o = (order.call rates userId).run o := by
  obtain ⟨horder, huser, -⟩ := order_rawCall rates userId htyped h
  rw [Call.run_eq, Call.run_eq, horder, huser]

end

/-- An order meets no objection of the ledger's own, and moves money along its own path. -/
structure Welcome (rates : Exchange.RateSource) (userId : Int) (o : Options) (s : Session)
    (order : AnyOrder) : Prop where
  outside : ∀ f t, ((order.call rates userId).run o).on s = (.error f, t) →
    (order.call rates userId).Objects f → Outside rates s f
  unobjected : Ordinary rates s → ∀ f t,
    ((order.call rates userId).run o).on s = (.error f, t) → ¬(order.call rates userId).Objects f
  path : ∀ sized, (order.call rates userId).order = .ok sized → sized.path = order.path
  rows : s.working.Lawful → RivalFits s → ∀ answer t,
    ((order.call rates userId).run o).on s = (.ok answer, t) →
      answer.rows.map (·.currency) = order.path

/-- A form and the ledger decide alike on fields of the right kinds. -/
structure Alike (rates : Exchange.RateSource) (userId : Int) (o : Options) (s : Session)
    (form : OrderForm) (fields : List (String × Value)) : Prop where
  /-- What the form rejects the ledger objects to at once. -/
  refused : ∀ issues, form.read fields = .error issues → ∃ f,
    ((form.rawCall rates userId fields).run o).on s = (.error f, s) ∧
      (form.rawCall rates userId fields).Objects f
  /-- What the form accepts is carried out as what it has made of it. -/
  accepted : ∀ order, form.read fields = .ok order →
    (form.rawCall rates userId fields).run o = (order.call rates userId).run o
  outside : ∀ f t, ((form.rawCall rates userId fields).run o).on s = (.error f, t) →
    (form.rawCall rates userId fields).Objects f →
    (∃ issues, form.read fields = .error issues) ∨ Outside rates s f
  decided : Ordinary rates s → ((∃ issues, form.read fields = .error issues) ↔
    ∃ f t, ((form.rawCall rates userId fields).run o).on s = (.error f, t) ∧
      (form.rawCall rates userId fields).Objects f)

section

variable (rates : Exchange.RateSource) (userId : Int) (o : Options) (s : Session)

theorem welcome_of_read {form : OrderForm} {fields : List (String × Value)} {order : AnyOrder}
    (h : form.read fields = .ok order) : Welcome rates userId o s order where
  outside _ _ hrun hf := outside_of_objects h hrun hf
  unobjected hordinary _ _ hrun := not_objects_of_ordinary hordinary h hrun
  path _ hsized := path_of_order h hsized
  rows hlawful hfits answer t hrun := by
    obtain ⟨-, -, sized, hsized, hdone⟩ := Call.done_of_run hlawful hfits hrun
    rw [hdone.currencies, path_of_order h hsized]

theorem alike_of_typed {form : OrderForm} {fields : List (String × Value)}
    (htyped : form.Typed fields) : Alike rates userId o s form fields := by
  have hrefused (issues : List Issue) (hread : form.read fields = .error issues) : ∃ f,
      ((form.rawCall rates userId fields).run o).on s = (.error f, s) ∧
        (form.rawCall rates userId fields).Objects f := by
    rcases (form.rawCall rates userId fields).passes_or_objects with hpasses | ⟨f, horder, hf⟩
    · obtain ⟨order, horder⟩ := read_of_passes rates userId htyped hpasses
      rw [hread] at horder
      cases horder
    · exact ⟨f, Call.on_run_eq_error.2 (.inl ⟨horder, rfl⟩), hf⟩
  -- What objects to the fields as given objects to the order that is read of them.
  have htransfer {f : Failure} {t : Session} {order : AnyOrder}
      (hread : form.read fields = .ok order)
      (hrun : ((form.rawCall rates userId fields).run o).on s = (.error f, t))
      (hf : (form.rawCall rates userId fields).Objects f) :
      ((order.call rates userId).run o).on s = (.error f, t) ∧
        (order.call rates userId).Objects f :=
    ⟨run_rawCall htyped hread ▸ hrun, hf.of_action? (order_rawCall rates userId htyped hread).2.2⟩
  refine ⟨hrefused, fun order hread => run_rawCall htyped hread, ?_, ?_⟩
  · intro f t hrun hf
    cases hread : form.read fields with
    | error issues => exact .inl ⟨issues, rfl⟩
    | ok order =>
      obtain ⟨hrun, hf⟩ := htransfer hread hrun hf
      exact .inr (outside_of_objects hread hrun hf)
  · intro hordinary
    constructor
    · rintro ⟨issues, hread⟩
      obtain ⟨f, hrun, hf⟩ := hrefused issues hread
      exact ⟨f, s, hrun, hf⟩
    · rintro ⟨f, t, hrun, hf⟩
      cases hread : form.read fields with
      | error issues => exact ⟨issues, rfl⟩
      | ok order =>
        obtain ⟨hrun, hf⟩ := htransfer hread hrun hf
        exact absurd hf (not_objects_of_ordinary hordinary hread hrun)

/--
An order that is read of a body is welcome to the ledger. A body whose parts are of the right kinds
makes an order unless the ledger would object to the parts as they were given.
-/
theorem validation_agrees_with_checks (form : OrderForm) :
    (∀ body order, form.readBody body = .ok order → Welcome rates userId o s order) ∧
      ∀ fields, form.Typed fields → Alike rates userId o s form fields := by
  refine ⟨fun body order hread => ?_, fun fields => alike_of_typed rates userId o s⟩
  obtain ⟨fields, -, hread⟩ := OrderForm.readBody_eq_ok.1 hread
  exact welcome_of_read rates userId o s hread

end

/-- The fields of a body that asks for an exchange. -/
def exchangeFields (source target : String) : List (String × Value) :=
  [("from_currency", .text source), ("to_currency", .text target), ("amount", .int 300)]

/-- Two kobo for a dollar. -/
def koboRates : Exchange.RateSource := Exchange.tableRates [("USD", .one), ("NGN", .ofInt 2)]

/-- A user without wallets. -/
def newcomer : Session := .ofTables { users := [{ id := 1 }] } ⟨⟨2024, 1, 15⟩, 12, 0, 0⟩

/-- Spaces and small letters are taken off on either side, so a code does not differ from itself. -/
theorem spaced_codes_decided :
    OrderForm.convert.readBody (.object (exchangeFields " ngn" "usd ")) =
        .ok (.convert ⟨"NGN", "USD", 300⟩) ∧
      Welcome koboRates 1 {} newcomer (.convert ⟨"NGN", "USD", 300⟩) ∧
      OrderForm.convert.Typed (exchangeFields " usd" "USD") ∧ Ordinary koboRates newcomer ∧
      ∃ f t, ((OrderForm.convert.rawCall koboRates 1 (exchangeFields " usd" "USD")).run {}).on
          newcomer = (.error f, t) ∧
        (OrderForm.convert.rawCall koboRates 1 (exchangeFields " usd" "USD")).Objects f := by
  obtain ⟨hwelcome, halike⟩ := validation_agrees_with_checks koboRates 1 {} newcomer .convert
  have hread : OrderForm.convert.readBody (.object (exchangeFields " ngn" "usd ")) =
      .ok (.convert ⟨"NGN", "USD", 300⟩) := by decide +kernel
  have htyped : OrderForm.convert.Typed (exchangeFields " usd" "USD") := by
    refine ⟨?_, ?_, ?_⟩ <;> decide
  have hordinary : Ordinary koboRates newcomer := ⟨⟨_, _, rfl⟩, fun _ _ h => by cases h⟩
  have hrejected : ∃ issues, OrderForm.convert.read (exchangeFields " usd" "USD") =
      .error issues :=
    ⟨[⟨[], .refused "from_currency and to_currency must differ"⟩], by decide +kernel⟩
  exact ⟨hread, hwelcome _ _ hread, htyped, hordinary,
    ((halike _ htyped).decided hordinary).1 hrejected⟩

end Validation

end CurrencyLedger
