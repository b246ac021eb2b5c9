import CurrencyLedger.Proofs.Refinement

/-!
What a call comes to.

When no rival comes, an order that is carried out has done no more than its legs: the wallet to
credit was there or was created empty, each movement was recorded by one row as it was written, and
the rows of other users are what they were. What the rows say, their names and moments aside, is
said by the order alone, and so is the rest of the answer. So of what the tables hold nothing but
the user's own entries decides how an undisturbed call ends.
-/

namespace CurrencyLedger

open Session Wallets

/-! ### What rows say -/

namespace Transaction

/-- The movement of a row, whatever the row is called and whenever it was written. -/
structure Movement where
  userId : Int
  currency : String
  amount : Nat
  flow : Flow
  status : Status
  exchangeRate : String
  disputed : Bool

/-- All that a row says but for its names and moments. -/
structure Content extends Movement where
  kind : Kind
  description : String
  remarks : Value

/-- The movement that a row records. -/
def movement (x : Transaction) : Movement :=
  { userId := x.userId, currency := x.currency, amount := x.amount, flow := x.flow
    status := x.status, exchangeRate := x.exchangeRate, disputed := x.disputed }

/-- What a row says. -/
def content (x : Transaction) : Content :=
  { x.movement with kind := x.kind, description := x.description, remarks := x.remarks }

/-- A row as it is when it is written. -/
structure New (now : Moment) (x : Transaction) : Prop where
  undisputed : x.disputed = false
  createdAt : x.createdAt = now
  updatedAt : x.updatedAt = now

end Transaction

theorem History.new_of_record {w : Wallet} {amount : Nat} {flow : Transaction.Flow}
    {p : Particulars} {s t : Session} {x : Transaction}
    (h : (record w amount flow p).on s = (.ok x, t)) : x.New s.clock := by
  obtain ⟨rate, remarks, tables, -, -, hrow, -⟩ := on_record_eq_ok.1 h
  obtain ⟨sessionId, description, -, -, rfl⟩ := row_eq_ok.1 hrow
  exact ⟨rfl, rfl, rfl⟩

namespace Wallets

variable {id : String} {amount : Value} {p : History.Particulars} {s t : Session} {x : Transaction}

theorem new_of_credit (h : (credit id amount p).on s = (.ok x, t)) : x.New s.clock := by
  simp only [credit, Action.on_bind_eq_ok, Action.on_check, Prod.mk.injEq, on_load_eq_ok] at h
  obtain ⟨n, _, ⟨-, rfl⟩, w, _, ⟨-, -, -, rfl⟩, _, u, hstore, hrecord⟩ := h
  obtain ⟨-, -, -, rfl⟩ := on_store_eq_ok.1 hstore
  have hnew := History.new_of_record hrecord
  exact hnew

theorem new_of_debit (h : (debit id amount p).on s = (.ok x, t)) : x.New s.clock := by
  simp only [debit, Action.on_bind_eq_ok, Action.on_check, Prod.mk.injEq, on_load_eq_ok] at h
  obtain ⟨n, _, ⟨-, rfl⟩, w, _, ⟨-, -, -, rfl⟩, h⟩ := h
  split at h
  · simp at h
  · obtain ⟨_, u, hstore, hrecord⟩ := Action.on_bind_eq_ok.1 h
    obtain ⟨-, -, -, rfl⟩ := on_store_eq_ok.1 hstore
    have hnew := History.new_of_record hrecord
    exact hnew

/-- A wallet that was asked for: it is there already, or it is created empty behind the others. -/
inductive Provided (now : Moment) (userId : Int) (code : String) (w : Wallet) (a : Tables) :
    Tables → Prop
  | found (h : a.walletOf? userId code = some w) : Provided now userId code w a a
  | created {name : String} {b : Tables} (habsent : a.walletOf? userId code = none)
    (hw : w = empty ("w" ++ name) userId code now) (h : a.insertWallet? w = some b) :
    Provided now userId code w a b

/-- Without a rival, the wallet that is resolved is provided. -/
theorem provided_of_resolve {userId : Int} {code : String} (hcode : Currency.isCode code = true)
    {w : Wallet} (hr : s.rival = none) (h : (resolve userId (.text code)).on s = (.ok w, t)) :
    Provided s.clock userId code w s.working t.working := by
  have hstays : (admitRival.on s).2 = s := by
    rw [admitRival, Action.on_update, hr]
  obtain ⟨c, hc, hcase⟩ := resolution_of_ok h
  rw [Currency.normalize_text hcode] at hc
  cases hc
  cases hcase with
  | found hfound => exact .found hfound
  | created habsent hinsert hrivals hcommitted =>
    rw [hstays] at hinsert ⊢
    exact .created habsent rfl hinsert
  | lost habsent hwon =>
    rw [hstays, habsent] at hwon
    cases hwon

end Wallets

/-! ### Other users -/

/-- The rows of all users but one are as they were. -/
structure Tables.Spares (userId : Int) (a b : Tables) : Prop where
  wallets : b.wallets.filter (·.userId != userId) = a.wallets.filter (·.userId != userId)
  transactions :
    b.transactions.filter (·.userId != userId) = a.transactions.filter (·.userId != userId)

namespace Tables.Spares

variable {userId : Int} {a b c : Tables}

theorem refl (userId : Int) (a : Tables) : a.Spares userId a := ⟨rfl, rfl⟩

theorem trans (hab : a.Spares userId b) (hbc : b.Spares userId c) : a.Spares userId c :=
  ⟨hbc.wallets.trans hab.wallets, hbc.transactions.trans hab.transactions⟩

/-- A movement touches the wallet that it is of, and its row has the same user. -/
theorem of_moved {now : Moment} {w : Wallet} {x : Transaction} (ha : a.Lawful)
    (h : Moved now w x a b) (huser : w.userId = userId) : a.Spares userId b := by
  obtain ⟨hmem, -⟩ := wallet?_eq_some h.found
  refine ⟨?_, ?_⟩
  · rw [h.wallets, setBalance, List.filter_map]
    have hkeep : ((fun v : Wallet => v.userId != userId) ∘ fun v =>
        if v.id == w.id then
          { v with balance := balanceAfter x.flow w.balance x.amount, updatedAt := now }
        else v) = fun v => v.userId != userId := by
      funext v
      simp only [Function.comp]
      split <;> rfl
    rw [hkeep]
    refine (List.map_congr_left fun v hv => ?_).trans (List.map_id _)
    obtain ⟨hv, hother⟩ := List.mem_filter.1 hv
    have hne : v.id ≠ w.id := by
      intro hid
      rw [eq_of_id_eq ha.walletIds hv hmem hid, huser] at hother
      simp at hother
    simp [hne]
  · rw [h.transactions, List.filter_append]
    simp [h.userId, huser]

end Tables.Spares

namespace Wallets.Provided

variable {now : Moment} {userId : Int} {code : String} {w : Wallet} {a b : Tables}

theorem transactions (h : Provided now userId code w a b) : b.transactions = a.transactions := by
  cases h with
  | found => rfl
  | created habsent hw h =>
    obtain ⟨-, -, rfl⟩ := Tables.insertWallet?_eq_some.1 h
    rfl

theorem lawful (h : Provided now userId code w a b) (ha : a.Lawful) : b.Lawful := by
  cases h with
  | found => exact ha
  | created habsent hw h =>
    refine ha.insertWallet? ?_ h
    rw [hw]
    exact (by decide : Column.fits (0 : Nat) = true)

theorem spares (h : Provided now userId code w a b) : a.Spares userId b := by
  cases h with
  | found => exact .refl userId a
  | created habsent hw h =>
    obtain ⟨-, -, rfl⟩ := Tables.insertWallet?_eq_some.1 h
    refine ⟨?_, rfl⟩
    simp [hw, empty]

end Wallets.Provided

namespace Operation

/-! ### Orders -/

/--
What an order has done to the tables when nobody else came, and the rows that it has written.
-/
inductive Order.Performed (now : Moment) (userId : Int) (sessionId : String) (a b : Tables) :
    Order → List Transaction → Prop
  | funding {n : Nat} {code : String} {w : Wallet} {x : Transaction} {c : Tables}
    (provided : Provided now userId code w a c)
    (leg : Leg now userId code .credit n ((Order.funding n code).particulars sessionId) w x c b)
    (new : x.New now) :
    Performed now userId sessionId a b (.funding n code) [x]
  | exchange {order : Order} {plan : Exchange.Plan} {v w : Wallet} {x y : Transaction}
    {c d : Tables} (hplan : order.plan? = some plan)
    (debit : Leg now userId plan.source .debit plan.debit (order.particulars sessionId) v x a c)
    (provided : Provided now userId plan.target w c d)
    (credit : Leg now userId plan.target .credit plan.credit (order.particulars sessionId)
      w y d b)
    (newDebit : x.New now) (newCredit : y.New now) :
    Performed now userId sessionId a b order [x, y]

section

variable {userId : Int} {sessionId : String} {s t : Session}

/-- A wallet that is resolved and credited without a rival. -/
theorem performed_of_resolve_credit {code : String} (hcode : Currency.isCode code = true)
    {amount : Int} {p : History.Particulars} {x : Transaction} {w : Wallet} {u : Session}
    (ha : s.working.Lawful) (hr : s.rival = none)
    (hresolve : (resolve userId (.text code)).on s = (.ok w, u))
    (hcredit : (credit w.id (.int amount) p).on u = (.ok x, t)) :
    Provided s.clock userId code w s.working u.working ∧
      Leg s.clock userId code .credit amount p w x u.working t.working ∧ x.New s.clock := by
  have hfits : RivalFits s := fun r h => by rw [hr] at h; cases h
  have hu : SameUnit s u := by simpa [hresolve] using within_resolve userId (.text code) s
  obtain ⟨-, hleg⟩ := on_resolve_credit_eq_ok hcode ha hfits hresolve hcredit
  exact ⟨provided_of_resolve hcode hr hresolve, hleg, hu.clock ▸ new_of_credit hcredit⟩

/-- The legs of an exchange without a rival. -/
theorem performed_of_moveLegs {plan : Exchange.Plan} (hplan : plan.Distinct)
    {p : History.Particulars} {legs : Legs} (ha : s.working.Lawful) (hr : s.rival = none)
    (h : (moveLegs userId plan p).on s = (.ok legs, t)) :
    ∃ v w c d, Leg s.clock userId plan.source .debit plan.debit p v legs.debit s.working c ∧
      Provided s.clock userId plan.target w c d ∧
      Leg s.clock userId plan.target .credit plan.credit p w legs.credit d t.working ∧
      legs.debit.New s.clock ∧ legs.credit.New s.clock := by
  obtain ⟨source, target, u, u', hfound, hdebit, hresolve, hcredit⟩ := steps_of_moveLegs hplan h
  have hleg := leg_of_debit ha hfound hdebit
  have hu : Edited s u := by simpa [hdebit] using within_debit source.id (.int plan.debit) p s
  have hr' : u.rival = none := by
    rw [Edited] at hu
    rw [hu]
    exact hr
  obtain ⟨hprovided, hcredited, hnew⟩ :=
    performed_of_resolve_credit hplan.target (ha.moved hleg.moved) hr' hresolve hcredit
  rw [hu.sameUnit.clock] at hprovided hcredited hnew
  exact ⟨source, target, u.working, u'.working, hleg, hprovided, hcredited, new_of_debit hdebit,
    hnew⟩

theorem Order.performed_of_move {order : Order} (hproper : order.Proper) {answer : Answer}
    (ha : s.working.Lawful) (hr : s.rival = none)
    (h : (order.move userId sessionId).on s = (.ok answer, t)) :
    order.Performed s.clock userId sessionId s.working t.working answer.rows := by
  cases order with
  | funding n code =>
    obtain ⟨w, u, hresolve, h⟩ := Action.on_bind_eq_ok.1 h
    obtain ⟨x, t', hcredit, h⟩ := Action.on_bind_eq_ok.1 h
    cases h
    obtain ⟨hprovided, hleg, hnew⟩ := performed_of_resolve_credit hproper ha hr hresolve hcredit
    exact .funding hprovided hleg hnew
  | conversion c =>
    obtain ⟨legs, hlegs, rfl⟩ := Action.on_map_eq_ok.1 h
    obtain ⟨v, w, a, b, hdebit, hprovided, hcredit, hx, hy⟩ :=
      performed_of_moveLegs hproper ha hr hlegs
    exact .exchange rfl hdebit hprovided hcredit hx hy
  | trade q =>
    obtain ⟨legs, hlegs, rfl⟩ := Action.on_map_eq_ok.1 h
    obtain ⟨v, w, a, b, hdebit, hprovided, hcredit, hx, hy⟩ :=
      performed_of_moveLegs hproper ha hr hlegs
    exact .exchange rfl hdebit hprovided hcredit hx hy

end

/-- The rate that the rows of an exchange record is that of its plan. -/
theorem Order.exchangeRate_of_plan? {order : Order} {plan : Exchange.Plan}
    (h : order.plan? = some plan) (sessionId : String) :
    (order.particulars sessionId).exchangeRate = .text plan.rate := by
  cases order with
  | funding n code => cases h
  | conversion c =>
    cases h
    rfl
  | trade t =>
    cases h
    rfl

namespace Leg

variable {now now' : Moment} {userId : Int} {currency : String} {flow : Transaction.Flow}
  {amount : Int} {p p' : History.Particulars} {w w' : Wallet} {x x' : Transaction}
  {a b a' b' : Tables}

/-- What a leg moves is told by its amount, its flow and its rate. -/
theorem movement_eq (h : Leg now userId currency flow amount p w x a b) (hx : x.New now)
    (h' : Leg now' userId currency flow amount p' w' x' a' b') (hx' : x'.New now')
    (hrate : p.exchangeRate = p'.exchangeRate) : x.movement = x'.movement := by
  have hamount : x.amount = x'.amount := by
    have := h.amount
    have := h'.amount
    omega
  have htext : x.exchangeRate = x'.exchangeRate := by
    have hformat := h.describes.rate
    rw [hrate, h'.describes.rate] at hformat
    exact (Except.ok.inj hformat).symm
  simp only [Transaction.movement, Transaction.Movement.mk.injEq]
  refine ⟨?_, ?_, hamount, ?_, ?_, htext, ?_⟩
  · rw [h.moved.userId, h.userId, h'.moved.userId, h'.userId]
  · rw [h.moved.currency, h.currency, h'.moved.currency, h'.currency]
  · rw [h.flow, h'.flow]
  · rw [h.describes.status, h'.describes.status]
  · rw [hx.undisputed, hx'.undisputed]

/-- What its row says besides depends on what was to be said, the session apart. -/
theorem content_eq {order : Order} {sessionId sessionId' : String}
    (h : Leg now userId currency flow amount (order.particulars sessionId) w x a b)
    (hx : x.New now)
    (h' : Leg now' userId currency flow amount (order.particulars sessionId') w' x' a' b')
    (hx' : x'.New now') : x.content = x'.content := by
  have hsame : (order.particulars sessionId').exchangeRate =
        (order.particulars sessionId).exchangeRate ∧
      (order.particulars sessionId').kind = (order.particulars sessionId).kind ∧
      (order.particulars sessionId').description = (order.particulars sessionId).description ∧
      (order.particulars sessionId').remarks = (order.particulars sessionId).remarks := by
    cases order <;> exact ⟨rfl, rfl, rfl, rfl⟩
  obtain ⟨hrate, hkind, hdescription, hremarks⟩ := hsame
  have hmovement := movement_eq h hx h' hx' hrate.symm
  have hcurrency : x.currency = x'.currency := congrArg Transaction.Movement.currency hmovement
  have hsaid := h'.describes.description
  rw [hkind, h'.flow, ← h.flow, ← hcurrency, hdescription, h.describes.description] at hsaid
  have hremarked := h'.describes.remarks
  rw [hremarks, h.describes.remarks] at hremarked
  simp only [Transaction.content, Transaction.Content.mk.injEq]
  exact ⟨hmovement, by rw [h.describes.kind, h'.describes.kind, hkind],
    Except.ok.inj hsaid, Except.ok.inj hremarked⟩

end Leg

namespace Order.Performed

variable {now now' : Moment} {userId : Int} {sessionId sessionId' : String} {a b a' b' : Tables}
  {order order' : Order} {rows rows' : List Transaction}

/-- The rows of an order stand behind the others. -/
theorem transactions (h : order.Performed now userId sessionId a b rows) :
    b.transactions = a.transactions ++ rows := by
  cases h with
  | funding provided leg new =>
    rw [leg.moved.transactions, provided.transactions]
  | exchange hplan debit provided credit newDebit newCredit =>
    rw [credit.moved.transactions, provided.transactions, debit.moved.transactions,
      List.append_assoc]
    rfl

/-- An order leaves the rows of other users alone. -/
theorem spares (ha : a.Lawful) (h : order.Performed now userId sessionId a b rows) :
    a.Spares userId b := by
  cases h with
  | funding provided leg new =>
    exact provided.spares.trans (.of_moved (provided.lawful ha) leg.moved leg.userId)
  | exchange hplan debit provided credit newDebit newCredit =>
    have hc := ha.moved debit.moved
    exact (Tables.Spares.of_moved ha debit.moved debit.userId).trans
      (provided.spares.trans (.of_moved (provided.lawful hc) credit.moved credit.userId))

/-- An order says the same in its rows wherever and whenever it is carried out. -/
theorem contents_eq (h : order.Performed now userId sessionId a b rows)
    (h' : order.Performed now' userId sessionId' a' b' rows') :
    rows.map (·.content) = rows'.map (·.content) := by
  cases h with
  | funding provided leg new =>
    cases h' with
    | funding provided' leg' new' =>
      simp only [List.map_cons, List.map_nil, leg.content_eq new leg' new']
    | exchange hplan' => cases hplan'
  | exchange hplan debit provided credit newDebit newCredit =>
    cases h' with
    | funding => cases hplan
    | exchange hplan' debit' provided' credit' newDebit' newCredit' =>
      obtain rfl := Option.some.inj (hplan.symm.trans hplan')
      simp only [List.map_cons, List.map_nil, debit.content_eq newDebit debit' newDebit',
        credit.content_eq newCredit credit' newCredit']

end Order.Performed

/-! ### Answers -/

/-- What an answer says, the names and moments of its rows apart. -/
structure Report where
  rows : List Transaction.Content
  /-- The rate and the amount received, where money was exchanged. -/
  quote : Option (String × Int) := none
  /-- The action of a trade. -/
  action : Option TradeAction := none

/-- The report of an answer. -/
def Answer.report (answer : Answer) : Report :=
  let rows := answer.rows.map (·.content)
  match answer with
  | .funded _ => { rows }
  | .converted e => { rows, quote := some (e.rate, e.converted) }
  | .traded action e => { rows, quote := some (e.rate, e.converted), action }

/-- The report of an order whose rows say what they do. -/
def Order.report (rows : List Transaction.Content) : Order → Report
  | .funding .. => { rows }
  | .conversion c => { rows, quote := some (c.plan.rate, c.plan.credit) }
  | .trade t => { rows, quote := some (t.plan.rate, t.plan.credit), action := t.action }

/-- Besides its rows, an answer reports what the order says. -/
theorem Order.report_of_move {order : Order} {userId : Int} {sessionId : String} {s t : Session}
    {answer : Answer} (h : (order.move userId sessionId).on s = (.ok answer, t)) :
    answer.report = order.report (answer.rows.map (·.content)) := by
  cases order with
  | funding n code =>
    obtain ⟨w, u, -, h⟩ := Action.on_bind_eq_ok.1 h
    obtain ⟨x, t', -, h⟩ := Action.on_bind_eq_ok.1 h
    cases h
    rfl
  | conversion c =>
    obtain ⟨legs, -, rfl⟩ := Action.on_map_eq_ok.1 h
    rfl
  | trade q =>
    obtain ⟨legs, -, rfl⟩ := Action.on_map_eq_ok.1 h
    rfl

/-- A call that succeeds when no rival is near has performed its order and reports it. -/
theorem Call.performed_of_run {c : Call} {o : Options} {s t : Session} {answer : Answer}
    (ha : s.working.Lawful) (hr : s.rival = none) (h : (c.run o).on s = (.ok answer, t)) :
    ∃ order, c.order = .ok order ∧ order.Performed s.clock c.userId s.names.session.1 s.working
      t.committed answer.rows ∧ answer.report = order.report (answer.rows.map (·.content)) := by
  obtain ⟨order, horder, v, hv, rfl⟩ := Call.on_run_eq_ok.1 h
  obtain ⟨names, u, hmove, -, rfl⟩ := Order.on_carryOut_eq_ok hv
  -- The names drawn before the unit of work opened change nothing in what the order does.
  have hperformed :=
    Order.performed_of_move (s := { s with names }) (Call.proper_order horder) ha hr hmove
  exact ⟨order, horder, hperformed, Order.report_of_move hmove⟩

/-- How an undisturbed call ends: as its order does on what users hold. -/
theorem Undisturbed.outcome {c : Call} {o : Options} {s : Session} (h : Undisturbed c o s) :
    match c.onHoldings s.committed.holdings with
    | .ok held => ∃ order answer t, c.order = .ok order ∧ (c.run o).on s = (.ok answer, t) ∧
      t.committed.holdings = held ∧
      order.Performed s.clock c.userId s.names.session.1 s.committed t.committed answer.rows ∧
      answer.report = order.report (answer.rows.map (·.content))
    | .error f => ∃ t, (c.run o).on s = (.error f, t) ∧ t.committed = s.committed := by
  rw [Call.onHoldings_eq]
  cases hc : c.order with
  | error f => exact ⟨s, Call.on_run_eq_error.2 (.inl ⟨hc, rfl⟩), rfl⟩
  | ok order =>
    have hdone := h.on_carryOut hc
    show match order.onHoldings c.userId s.committed.holdings with
      | .ok held => _
      | .error f => _
    cases hheld : order.onHoldings c.userId s.committed.holdings with
    | error f =>
      rw [hheld] at hdone
      obtain ⟨t, ht, hcommitted⟩ := hdone
      exact ⟨t, Call.on_run_eq_error.2 (.inr ⟨order, hc, ht⟩), hcommitted⟩
    | ok held =>
      rw [hheld] at hdone
      obtain ⟨answer, u, hu, hcommitted⟩ := hdone
      have hrun := Call.on_run_eq_ok.2 ⟨order, hc, u, hu, rfl⟩
      have hworking : s.working = s.committed := h.settled.working
      obtain ⟨order', horder', hperformed, hreport⟩ :=
        Call.performed_of_run (hworking ▸ h.lawful) h.rival hrun
      obtain rfl : order = order' := Except.ok.inj (hc.symm.trans horder')
      rw [hworking] at hperformed
      exact ⟨order, answer, _, rfl, hrun, hcommitted, hperformed, hreport⟩

end Operation

end CurrencyLedger
