import CurrencyLedger.Proofs.Commuting

/-!
Trades are conversions.

Selling an amount of the base currency is converting that amount into the quote currency. Buying is
converting, the other way round, what covers the amount that is wanted. Checks, rate, sizing and the
order of what can go wrong are the same, so both end in the same way; their rows differ in what they
are called and in what kind of operation they say they are of.
-/

namespace CurrencyLedger

/-- Two rows of one movement, written at one moment, whatever they are called and belong to. -/
def Transaction.Resembles (x y : Transaction) : Prop :=
  x = { y with
    id := x.id, reference := x.reference, sessionId := x.sessionId, walletId := x.walletId,
    kind := x.kind, description := x.description, remarks := x.remarks }

theorem Transaction.New.resembles {now : Moment} {x y : Transaction} (hx : x.New now)
    (hy : y.New now) (h : x.movement = y.movement) : x.Resembles y := by
  have hcreated := hx.createdAt.trans hy.createdAt.symm
  have hupdated := hx.updatedAt.trans hy.updatedAt.symm
  cases x
  cases y
  simp only [movement, Movement.mk.injEq] at h
  simp_all [Resembles]

/-- The name of the wallet of a user in a currency. -/
def Tables.walletName? (t : Tables) (userId : Int) (currency : String) : Option String :=
  (t.walletOf? userId currency).map (·.id)

/-- Setting a balance renames no wallet. -/
theorem Tables.walletName?_setBalance (t : Tables) (id : String) (n : Nat) (now : Moment)
    (userId : Int) (currency : String) :
    (t.setBalance id n now).walletName? userId currency = t.walletName? userId currency := by
  rw [walletName?, walletName?, walletOf?_setBalance, Option.map_map]
  congr 1
  funext v
  simp only [Function.comp]
  split <;> rfl

/-! ### The same exchange -/

namespace Exchange

variable {rates : RateSource} {base quote amount action : Value}

/-- A sale is sized as the conversion of the amount. -/
theorem plan_of_sale (haction : TradeAction.ofValue action = .ok .sell) :
    Trade.plan <$> planTrade rates base quote amount action =
      Conversion.plan <$> planConversion rates base quote amount := by
  simp only [planTrade, planConversion, haction, map_bind]
  refine bind_congr fun n => bind_congr fun b => bind_congr fun q => ?_
  show (requireDistinct b q >>= _) = _
  refine bind_congr fun _ => ?_
  simp only [map_bind, map_pure]

/-- A purchase is sized as the conversion, the other way round, of what covers the amount. -/
theorem plan_of_purchase {v : Value} {b q : String} {n : Nat} {rate : Decimal} {spend : Int}
    (haction : TradeAction.ofValue action = .ok .buy) (hamount : Amount.ofValue amount = .ok n)
    (hbase : Currency.normalize base = .ok b) (hquote : Currency.normalize quote = .ok q)
    (hdistinct : b ≠ q) (hv : rates q b = .ok v) (hrate : Rate.normalize v = .ok rate)
    (hspend : Amount.cover n rate = .ok spend) (hpos : 1 ≤ spend) :
    Trade.plan <$> planTrade rates base quote amount action =
      Conversion.plan <$> planConversion rates quote base (.int spend) := by
  have hunits : Amount.ofValue (.int spend) = .ok spend.toNat :=
    Amount.ofValue_int_eq_ok.2 ⟨hpos, by omega⟩
  have hplan : plan rates q b (Amount.cover n) = plan rates q b fun _ => .ok spend.toNat := by
    simp only [plan, hv, hrate, hspend, Int.toNat_of_nonneg (by omega : 0 ≤ spend), bind,
      Except.bind, ofLedger]
  have hne (x y : String) (h : x ≠ y) : requireDistinct x y = .ok () := if_neg h
  simp only [planTrade, planConversion, haction, hamount, hbase, hquote, hunits, map_bind]
  show (requireDistinct b q >>= _) = requireDistinct q b >>= _
  rw [hne b q hdistinct, hne q b hdistinct.symm]
  show Trade.plan <$> (plan rates q b (Amount.cover n) >>= _) = _
  rw [hplan, map_bind]
  simp only [map_pure]
  rfl

end Exchange

namespace Operation

open Session Wallets

theorem planned_trade (rates : Exchange.RateSource) (userId : Int)
    (base quote amount action : Value) :
    Order.plan? <$> (Call.trade rates userId base quote amount action).order =
      some <$> Exchange.Trade.plan <$> Exchange.planTrade rates base quote amount action := by
  simp only [Call.order, Functor.map_map]
  rfl

theorem planned_conversion (rates : Exchange.RateSource) (userId : Int)
    (source target amount : Value) :
    Order.plan? <$> (Call.convert rates userId source target amount).order =
      some <$> Exchange.Conversion.plan <$> Exchange.planConversion rates source target amount := by
  simp only [Call.order, Functor.map_map]
  rfl

/-- A trade, and the conversion that exchanges the same. -/
inductive SameExchange : Call → Call → Prop
  | sale {rates : Exchange.RateSource} {userId : Int} {base quote amount action : Value}
    (haction : TradeAction.ofValue action = .ok .sell) :
    SameExchange (.trade rates userId base quote amount action)
      (.convert rates userId base quote amount)
  /-- The conversion is of what covers the amount that is bought. -/
  | purchase {rates : Exchange.RateSource} {userId : Int} {base quote amount action v : Value}
    {b q : String} {n : Nat} {rate : Decimal} {spend : Int}
    (haction : TradeAction.ofValue action = .ok .buy) (hamount : Amount.ofValue amount = .ok n)
    (hbase : Currency.normalize base = .ok b) (hquote : Currency.normalize quote = .ok q)
    (hdistinct : b ≠ q) (hv : rates q b = .ok v) (hrate : Rate.normalize v = .ok rate)
    (hspend : Amount.cover n rate = .ok spend) (hpos : 1 ≤ spend) :
    SameExchange (.trade rates userId base quote amount action)
      (.convert rates userId quote base (.int spend))

namespace SameExchange

variable {t c : Call}

theorem userId_eq (h : SameExchange t c) : t.userId = c.userId := by
  cases h <;> rfl

/-- Both come to one plan, or are refused in the same way. -/
theorem planned (h : SameExchange t c) : ∃ r : Except Failure Exchange.Plan,
    Order.plan? <$> t.order = some <$> r ∧ Order.plan? <$> c.order = some <$> r := by
  cases h with
  | sale haction =>
    refine ⟨_, ?_, planned_conversion ..⟩
    rw [planned_trade, Exchange.plan_of_sale haction]
  | purchase haction hamount hbase hquote hdistinct hv hrate hspend hpos =>
    refine ⟨_, ?_, planned_conversion ..⟩
    rw [planned_trade,
      Exchange.plan_of_purchase haction hamount hbase hquote hdistinct hv hrate hspend hpos]

end SameExchange

/-- A call that comes to a plan does on what users hold what the plan says. -/
theorem Call.onHoldings_of_planned {c : Call} {r : Except Failure Exchange.Plan}
    (h : Order.plan? <$> c.order = some <$> r) (held : Holdings) :
    c.onHoldings held = r >>= Order.onHoldings.onPlan c.userId held := by
  rw [Call.onHoldings_eq]
  cases hc : c.order with
  | error f =>
    rw [hc] at h
    cases r with
    | error g =>
      cases h
      rfl
    | ok plan => cases h
  | ok order =>
    rw [hc] at h
    cases r with
    | error g => cases h
    | ok plan =>
      have hplan : order.plan? = some plan := Except.ok.inj h
      show order.onHoldings c.userId held = Order.onHoldings.onPlan c.userId held plan
      cases order <;> cases hplan <;> rfl

/-! ### The same rows -/

theorem Order.quote_of_plan? {order : Order} {plan : Exchange.Plan} (h : order.plan? = some plan)
    (rows : List Transaction.Content) :
    (order.report rows).quote = some (plan.rate, plan.credit) := by
  cases order <;> cases h <;> rfl

/-- The rows of a leg are of the wallet that it moves, which has the name that it had before. -/
theorem Leg.walletName_eq {now : Moment} {userId : Int} {currency : String}
    {flow : Transaction.Flow} {amount : Int} {p : History.Particulars} {w : Wallet}
    {x : Transaction} {a b : Tables} (ha : a.Lawful)
    (h : Leg now userId currency flow amount p w x a b) :
    a.walletName? userId currency = some x.walletId := by
  have hfound := Tables.walletOf?_of_mem ha.owners (Tables.wallet?_eq_some h.moved.found).1
  rw [h.userId, h.currency] at hfound
  rw [Tables.walletName?, hfound, h.moved.walletId]
  rfl

/-- A wallet that was there keeps its name while others move or are created. -/
theorem walletName_of_provided {now : Moment} {userId : Int} {code : String} {w : Wallet}
    {a b : Tables} (h : Provided now userId code w a b) {name : String}
    (hname : a.walletName? userId code = some name) : b.walletName? userId code = some name := by
  cases h with
  | found => exact hname
  | created habsent =>
    rw [Tables.walletName?, habsent] at hname
    cases hname

/-- The wallet that an exchange credits has the name that it had before, if it was there. -/
theorem walletName_of_exchange {now : Moment} {userId : Int} {plan : Exchange.Plan}
    {p : History.Particulars} {v w : Wallet} {x y : Transaction} {a b c d : Tables}
    (ha : a.Lawful) (debit : Leg now userId plan.source .debit plan.debit p v x a c)
    (provided : Provided now userId plan.target w c d)
    (credit : Leg now userId plan.target .credit plan.credit p w y d b) {name : String}
    (hname : a.walletName? userId plan.target = some name) : y.walletId = name := by
  have hdebited : c.walletName? userId plan.target = some name := by
    rw [← hname, ← Tables.walletName?_setBalance a v.id
      (balanceAfter x.flow v.balance x.amount) now, Tables.walletName?, Tables.walletName?,
      Tables.walletOf?, Tables.walletOf?, debit.moved.wallets]
  have hprovided := walletName_of_provided provided hdebited
  rw [credit.walletName_eq (provided.lawful (ha.moved debit.moved))] at hprovided
  exact Option.some.inj hprovided

/-- The rows of two orders with one plan, carried out on the same tables. -/
theorem Order.Performed.resemble {order order' : Order} {plan : Exchange.Plan}
    (hplan : order.plan? = some plan) (hplan' : order'.plan? = some plan) {now : Moment}
    {userId : Int} {sessionId sessionId' : String} {a b b' : Tables} (ha : a.Lawful)
    {rows rows' : List Transaction}
    (h : order.Performed now userId sessionId a b rows)
    (h' : order'.Performed now userId sessionId' a b' rows') :
    ∃ x y x' y', rows = [x, y] ∧ rows' = [x', y'] ∧ x.Resembles x' ∧ y.Resembles y' ∧
      x.walletId = x'.walletId ∧
      (a.walletName? userId y.currency ≠ none → y.walletId = y'.walletId) := by
  cases h with
  | funding => cases hplan
  | @exchange _ _ v w x y c d hown debit provided credit newDebit newCredit =>
    obtain rfl := Option.some.inj (hplan.symm.trans hown)
    cases h' with
    | funding => cases hplan'
    | @exchange _ _ v' w' x' y' c' d' hown' debit' provided' credit' newDebit' newCredit' =>
      obtain rfl := Option.some.inj (hplan'.symm.trans hown')
      have hrate : (order.particulars sessionId).exchangeRate =
          (order'.particulars sessionId').exchangeRate :=
        (Order.exchangeRate_of_plan? hplan sessionId).trans
          (Order.exchangeRate_of_plan? hplan' sessionId').symm
      refine ⟨x, y, x', y', rfl, rfl,
        newDebit.resembles newDebit' (debit.movement_eq newDebit debit' newDebit' hrate),
        newCredit.resembles newCredit' (credit.movement_eq newCredit credit' newCredit' hrate),
        Option.some.inj ((debit.walletName_eq ha).symm.trans (debit'.walletName_eq ha)),
        fun hknown => ?_⟩
      obtain ⟨name, hname⟩ := Option.ne_none_iff_exists'.1 hknown
      rw [credit.moved.currency, credit.currency] at hname
      exact (walletName_of_exchange ha debit provided credit hname).trans
        (walletName_of_exchange ha debit' provided' credit' hname).symm

/-! ### The same end -/

/-- Two exchanges have succeeded with the same. -/
structure SameSuccess (userId : Int) (before : Tables) (answer answer' : Answer)
    (after after' : Tables) : Prop where
  /-- The rate as a text, and the amount received. -/
  quote : answer.report.quote = answer'.report.quote
  holdings : after.holdings = after'.holdings
  /-- The rows, which resemble each other, are of the same wallets: a new one has a new name. -/
  rows : ∃ x y x' y', answer.rows = [x, y] ∧ answer'.rows = [x', y'] ∧
    after.transactions = before.transactions ++ [x, y] ∧
    after'.transactions = before.transactions ++ [x', y'] ∧ x.Resembles x' ∧ y.Resembles y' ∧
    x.walletId = x'.walletId ∧
    (before.walletName? userId y.currency ≠ none → y.walletId = y'.walletId)

/-- Two calls that were made on the same tables have ended in the same way. -/
def SameEnd (userId : Int) (before : Tables) :
    Except Failure Answer × Session → Except Failure Answer × Session → Prop
  | (.ok answer, s), (.ok answer', s') =>
    SameSuccess userId before answer answer' s.committed s'.committed
  | (.error f, s), (.error f', s') => f = f' ∧ s.committed = before ∧ s'.committed = before
  | _, _ => False

/--
A trade is a conversion: on any store with nothing pending, under conditions in which nothing goes
wrong by itself, the trade and the conversion that exchanges the same end in the same way, with one
failure or with the same amounts, rate, wallets and balances.
-/
theorem trades_are_conversions {t c : Call} (h : SameExchange t c) {o p : Options} {s : Session}
    {k l : Conditions} (hs : Settled s) (hlawful : s.committed.Lawful)
    (hclock : k.clock = l.clock) (ht : Favourable t o k s.committed)
    (hc : Favourable c p l s.committed) :
    SameEnd t.userId s.committed (t.made o k s) (c.made p l s) := by
  obtain ⟨r, hplanned, hplanned'⟩ := h.planned
  have hdone := (ht.undisturbed hs hlawful).outcome
  have hdone' := (hc.undisturbed hs hlawful).outcome
  rw [Call.onHoldings_of_planned hplanned] at hdone
  rw [Call.onHoldings_of_planned hplanned', ← h.userId_eq] at hdone'
  rw [show t.made o k s = (t.run o).on (under s k) from rfl,
    show c.made p l s = (c.run p).on (under s l) from rfl]
  have hsame : (under s l).committed.holdings = (under s k).committed.holdings := rfl
  rw [hsame] at hdone'
  cases hheld : r >>= Order.onHoldings.onPlan t.userId (under s k).committed.holdings with
  | error f =>
    rw [hheld] at hdone hdone'
    obtain ⟨u, hu, hcommitted⟩ := hdone
    obtain ⟨u', hu', hcommitted'⟩ := hdone'
    rw [hu, hu']
    exact ⟨rfl, hcommitted, hcommitted'⟩
  | ok held =>
    rw [hheld] at hdone hdone'
    obtain ⟨order, answer, u, horder, hu, rfl, hperformed, hreport⟩ := hdone
    obtain ⟨order', answer', u', horder', hu', hholdings, hperformed', hreport'⟩ := hdone'
    obtain ⟨plan, rfl, -⟩ := bind_eq_ok.1 hheld
    have hplan : order.plan? = some plan := by
      rw [horder] at hplanned
      exact Except.ok.inj hplanned
    have hplan' : order'.plan? = some plan := by
      rw [horder'] at hplanned'
      exact Except.ok.inj hplanned'
    have hnow : (under s l).clock = (under s k).clock := hclock.symm
    rw [hnow] at hperformed'
    obtain ⟨x, y, x', y', hrows, hrows', hresemble⟩ :=
      hperformed.resemble hplan hplan' hlawful hperformed'
    have htransactions := hperformed.transactions
    have htransactions' := hperformed'.transactions
    rw [hrows] at htransactions
    rw [hrows'] at htransactions'
    rw [hu, hu']
    refine ⟨?_, hholdings.symm, x, y, x', y', hrows, hrows', htransactions, htransactions',
      hresemble⟩
    rw [hreport, hreport', Order.quote_of_plan? hplan, Order.quote_of_plan? hplan']

/-- What the ten cents of a purchase cost, converted. -/
def conversionForCents : Call :=
  .convert (Exchange.tableRates nairaTable) 1 (.text "NGN") (.text "USD") (.int 20)

theorem purchase_is_conversion :
    let bought := purchaseOfCents.made {} (fairConditions 1) twoPurses
    let converted := conversionForCents.made {} (fairConditions 11) twoPurses
    (bought.1.toBool ∧ converted.1.toBool) ∧ SameEnd 1 twoPurses.committed bought converted := by
  intro bought converted
  have hlawful : twoPurses.committed.Lawful := by constructor <;> decide +kernel
  let half : Decimal := .finite false 5 (-1)
  have hquote : nairaTable.quote "NGN" "USD" = .ok half := by decide +kernel
  have hrate : Rate.normalize (.decimal half) = .ok half := by decide +kernel
  have hspend : Amount.cover 10 half = .ok 20 := by decide +kernel
  have hsame : SameExchange purchaseOfCents conversionForCents :=
    .purchase rfl rfl rfl rfl (by decide) (congrArg (Value.decimal <$> ·) hquote) hrate hspend
      (by decide)
  refine ⟨by decide +kernel, trades_are_conversions hsame ⟨rfl, rfl⟩ hlawful rfl ?_ ?_⟩
  all_goals
    refine favourable_fair ⟨?_, ?_⟩ (Tables.wallet?_eq_none.2 ?_)
    all_goals decide +kernel

end Operation

end CurrencyLedger
