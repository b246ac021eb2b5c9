import CurrencyLedger.Proofs.Calm
import CurrencyLedger.Proofs.Runs

/-!
Operations as what they do to what users hold.

In a calm session with new names an operation on the tables does exactly what it does on the map of
what users hold, and fails exactly when that fails, in the same way. Taking is finding a wallet and
debiting it; giving is resolving a wallet and crediting it. Between the two, one rejection decides:
the first of the checks that does not pass.
-/

namespace CurrencyLedger.Operation

open Session Wallets

/-- An action does to the working tables what was done to the map, or fails in the same way. -/
def Yields (a : Action Session α) (s : Session) : Except Failure Holdings → Prop
  | .ok h => ∃ x t, a.on s = (.ok x, t) ∧ t.aborted = false ∧ t.faults = s.faults ∧
    t.working.holdings = h
  | .error f => f.isDatabase = false ∧ ∃ t, a.on s = (.error f, t)

/-- An action commits what was done to the map, or fails in the same way and commits nothing. -/
def Commits (a : Action Session α) (s : Session) : Except Failure Holdings → Prop
  | .ok h => ∃ x t, a.on s = (.ok x, t) ∧ t.committed.holdings = h
  | .error f => ∃ t, a.on s = (.error f, t) ∧ t.committed = s.committed

theorem Commits.congr {a b : Action Session α} {s t : Session} {r : Except Failure Holdings}
    (h : Commits b t r) (hon : a.on s = b.on t) (hcommitted : t.committed = s.committed) :
    Commits a s r := by
  cases r with
  | ok held =>
    obtain ⟨x, u, hx, hu⟩ := h
    exact ⟨x, u, hon.trans hx, hu⟩
  | error f =>
    obtain ⟨u, hf, hu⟩ := h
    exact ⟨u, hon.trans hf, hu.trans hcommitted⟩

namespace Yields

variable {a : Action Session α} {s t : Session} {r : Except Failure Holdings}

theorem of_ok {f : α → Action Session β} {x : α} (h : a.on s = (.ok x, t)) (hs : Calm s)
    (ht : Calm t) (hf : Yields (f x) t r) : Yields (a >>= f) s r := by
  have hfaults : t.faults = s.faults := funext fun st => (ht.faults st).trans (hs.faults st).symm
  cases r with
  | ok held =>
    obtain ⟨y, u, hy, hu, hsame, hheld⟩ := hf
    exact ⟨y, u, Action.on_bind_eq_ok.2 ⟨x, t, h, hy⟩, hu, hsame.trans hfaults, hheld⟩
  | error e =>
    obtain ⟨he, u, hu⟩ := hf
    exact ⟨he, u, Action.on_bind_eq_error.2 (.inr ⟨x, t, h, hu⟩)⟩

theorem of_error {f : α → Action Session β} {e : Failure} (he : e.isDatabase = false)
    (h : a.on s = (.error e, t)) : Yields (a >>= f) s (.error e) :=
  ⟨he, t, Action.on_bind_eq_error.2 (.inl h)⟩

theorem map (h : Yields a s r) (f : α → β) : Yields (f <$> a) s r := by
  cases r with
  | ok held =>
    obtain ⟨x, t, hx, ht⟩ := h
    exact ⟨f x, t, Action.on_map_eq_ok.2 ⟨x, hx, rfl⟩, ht⟩
  | error e =>
    obtain ⟨he, t, ht⟩ := h
    refine ⟨he, t, ?_⟩
    rw [Action.on_map, ht]
    rfl

/-- In a unit of work what was done is committed, and what failed has left nothing committed. -/
theorem unitOfWork {body : Action Session α} (h : Yields body s r) (hbody : body.Within SameUnit)
    (hs : Calm s) {limit : Option TimeLimit} (hadmits : s.AdmitsLimit limit)
    (hinTime : UnitOfWork.overrun? limit s.elapsed = none) :
    Commits (Session.unitOfWork limit body) s r := by
  cases r with
  | ok held =>
    obtain ⟨x, t, hx, ha, hfaults, ht⟩ := h
    have hcommit : t.faults .commit = none := by rw [hfaults, hs.faults]
    exact ⟨x, _, on_unitOfWork_eq_ok.2 ⟨hadmits, t, hx, hinTime, hcommit, ha, rfl⟩, ht⟩
  | error f =>
    obtain ⟨hf, t, ht⟩ := h
    have hfailed := on_unitOfWork_of_error hadmits ht
    rw [UnitOfWork.reported, hf] at hfailed
    have hsame : SameUnit s t := by simpa [ht] using hbody s
    exact ⟨_, hfailed, hsame.upholds.committed hs.shared⟩

end Yields

theorem fits_natCast {n : Nat} : Column.fits n = true ↔ (n : Int) ≤ Column.maxInteger := by
  simp only [Column.fits, Bool.and_eq_true, decide_eq_true_eq, and_iff_right_iff_imp]
  intro _
  have hlow : Column.minInteger ≤ 0 := by decide
  omega

section

variable {s : Session} {userId : Int} {amount : Int} {p : History.Particulars} {n : Nat}

/-- Resolving a wallet and crediting it is giving. -/
theorem yields_give (hs : Calm s) (ha : s.working.Lawful) {code : String}
    (hcode : Currency.isCode code = true) (huser : Column.fits userId = true) (hpos : 0 < amount)
    (hp : Recordable p) (hrows : FreshRows p.kind.mark (n + 1) s.names s.working)
    (hf : FreshWallet s.names s.working) :
    Yields (do let w ← resolve userId (.text code); credit w.id (.int amount) p) s
      (s.working.holdings.give userId code amount.toNat) := by
  obtain ⟨w, t, hresolve, ht, hlawful, hmem, rfl, rfl, hbalance, hheld, hrows⟩ :=
    on_resolve_calm hs ha hcode huser hrows hf
  refine Yields.of_ok hresolve hs ht ?_
  have hw := Tables.wallet?_of_mem hlawful.walletIds hmem
  rw [Holdings.give, ← hbalance]
  split_ifs with hfits
  · obtain ⟨x, u, hx, hu, -, hwallets, -⟩ :=
      on_settle_calm ht hp hrows w (fits_natCast.2 hfits) amount.toNat .credit
    refine ⟨x, u, (on_credit_calm ht hw hpos p).trans hx, hu.aborted, ?_, ?_⟩
    · exact funext fun st => (hu.faults st).trans (ht.faults st).symm
    · rw [Tables.holdings_congr hwallets, Tables.holdings_setBalance hlawful hmem, hheld,
        Holdings.set_set]
  · refine ⟨rfl, { t with aborted := true }, (on_credit_calm ht hw hpos p).trans ?_⟩
    exact on_settle_overflow ht p w (fun h => hfits (fits_natCast.1 h)) amount.toNat .credit

/-- Debiting a wallet that is there is taking from its entry. -/
theorem yields_take (hs : Calm s) (ha : s.working.Lawful) {w : Wallet} {code : String}
    (hfound : s.working.walletOf? userId code = some w) (hpos : 0 < amount) (hp : Recordable p)
    (hrows : FreshRows p.kind.mark (n + 1) s.names s.working) :
    match s.working.holdings.take userId code amount.toNat with
    | .ok h => ∃ x t, (debit w.id (.int amount) p).on s = (.ok x, t) ∧ Calm t ∧ t.working.Lawful ∧
      t.working.holdings = h ∧ t.names.wallets = s.names.wallets ∧
      t.working.wallets.map (·.id) = s.working.wallets.map (·.id) ∧
      FreshRows p.kind.mark n t.names t.working
    | .error f => f.isDatabase = false ∧
      ∃ t, (debit w.id (.int amount) p).on s = (.error f, t) := by
  obtain ⟨hmem, rfl, rfl⟩ := Tables.walletOf?_eq_some hfound
  have hw := Tables.wallet?_of_mem ha.walletIds hmem
  have hheld : s.working.holdings w.userId w.currency = some w.balance := by
    simp [Tables.holdings, hfound]
  simp only [Holdings.take, hheld]
  by_cases hless : w.balance < amount.toNat
  · rw [if_pos hless]
    exact ⟨rfl, s, by rw [on_debit_calm hs hw hpos, if_pos hless]⟩
  · rw [if_neg hless]
    have hbalance : Column.fits (w.balance - amount.toNat : Nat) = true := by
      have := fits_natCast.1 (ha.balances w hmem)
      exact fits_natCast.2 (by omega)
    obtain ⟨x, t, hx, ht, hwallet, hwallets, hrest⟩ :=
      on_settle_calm hs hp hrows w hbalance amount.toNat .debit
    have hdebit : (debit w.id (.int amount) p).on s = (.ok x, t) := by
      rw [on_debit_calm hs hw hpos, if_neg hless]
      exact hx
    obtain ⟨v, hid, hmoved, -⟩ := on_debit_eq_ok hdebit
    refine ⟨x, t, hdebit, ht, ha.moved hmoved, ?_, hwallet, ?_, hrest⟩
    · rw [Tables.holdings_congr hwallets, Tables.holdings_setBalance ha hmem]
    · rw [hwallets, Tables.map_setBalance fun _ _ _ => rfl]

/-- Moving the legs of an exchange is taking and then giving. -/
theorem yields_moveLegs (hs : Calm s) (ha : s.working.Lawful) {plan : Exchange.Plan}
    (hplan : plan.Distinct) (hsized : plan.Sized) (hp : Recordable p)
    (hrows : FreshRows p.kind.mark 2 s.names s.working) (hf : FreshWallet s.names s.working) :
    Yields (moveLegs userId plan p) s (Order.onHoldings.onPlan userId s.working.holdings plan) := by
  rw [Order.onHoldings.onPlan, Holdings.requireUser]
  split_ifs with huser
  · refine Yields.of_ok (on_find_calm hs hplan.source huser) hs hs ?_
    cases hfound : s.working.walletOf? userId plan.source with
    | none =>
      have hheld : s.working.holdings userId plan.source = none := by
        simp [Tables.holdings, hfound]
      simp only [Holdings.take, hheld]
      exact ⟨rfl, s, rfl⟩
    | some w =>
      have htake := yields_take hs ha hfound hsized.debit hp hrows
      cases hheld : s.working.holdings.take userId plan.source plan.debit.toNat with
      | error f =>
        rw [hheld] at htake
        obtain ⟨hf, t, ht⟩ := htake
        exact Yields.of_error hf ht
      | ok h =>
        rw [hheld] at htake
        obtain ⟨x, t, hdebit, ht, hlawful, rfl, hwallet, hids, hrest⟩ := htake
        refine Yields.of_ok hdebit hs ht ?_
        have hgive := yields_give ht hlawful hplan.target huser hsized.credit hp hrest
          (hf.congr hwallet hids)
        have hmap := hgive.map fun y => ({ debit := x, credit := y } : Legs)
        rw [map_bind] at hmap
        exact hmap
  · exact Yields.of_error rfl (on_find_overflow hs hplan.source huser)

end

/-! ### Orders -/

/-- An order that is fit to be carried out. -/
def Order.Sized : Order → Prop
  | .funding amount _ => 0 < amount
  | .conversion c => c.plan.Sized
  | .trade t => t.plan.Sized

theorem Call.sized_order {c : Call} {order : Order} (h : c.order = .ok order) : order.Sized := by
  cases Call.gives_of_order h with
  | fund hn _ => exact Amount.pos_of_ofValue hn
  | convert hplan => exact Exchange.sized_of_planConversion hplan
  | trade hplan => exact Exchange.sized_of_planTrade hplan

/-- What kind of rows a call writes. -/
def Call.kind : Call → Transaction.Kind
  | .fund .. => .funding
  | .convert .. => .conversion
  | .trade .. => .trade

/-- How many rows a call writes. -/
def Call.legs : Call → Nat
  | .fund .. => 1
  | _ => 2

theorem recordable_funding (amount : Nat) (code sessionId : String) :
    Recordable ((Order.funding amount code).particulars sessionId) := by
  have hrate : ∃ s, Rate.format (.text "1") = .ok s := by
    have h : (Rate.format (.text "1")).toBool = true := by decide +kernel
    cases hr : Rate.format (.text "1") with
    | error e => simp [hr, Except.toBool] at h
    | ok s => exact ⟨s, rfl⟩
  refine ⟨hrate, ⟨.null, rfl⟩, fun standing => ⟨standing, rfl⟩, fun standing => ?_⟩
  exact ⟨_, Column.givenTextOr_text (append_ne_empty (by simp) code)⟩

theorem recordable_exchange {order : Order} {plan : Exchange.Plan} (h : order.plan? = some plan)
    (hsized : plan.Sized) {sessionId : String} (hne : sessionId ≠ "") :
    Recordable (order.particulars sessionId) := by
  have hparticulars := saysOfExchange h sessionId
  obtain ⟨description, hdescription, heq⟩ := hparticulars.description
  obtain ⟨remarks, hremarks, -⟩ := hparticulars.remarksOn
  have hrate : (order.particulars sessionId).exchangeRate = .text plan.rate := by
    cases order <;> cases h <;> rfl
  refine ⟨⟨plan.rate, by rw [hrate]; exact hsized.rate⟩, ⟨remarks, hremarks⟩, fun standing => ?_,
    fun standing => ?_⟩
  · rw [hparticulars.session]
    exact ⟨_, Column.givenTextOr_text hne⟩
  · rw [heq]
    exact ⟨_, Column.givenTextOr_text hdescription⟩

/-- Moving the money of a call's order does to the tables what the order does to the map. -/
theorem Call.yields_move {c : Call} {order : Order} (hc : c.order = .ok order) {s : Session}
    (hs : Calm s) (ha : s.working.Lawful) (hrows : FreshRows c.kind.mark c.legs s.names s.working)
    (hf : FreshWallet s.names s.working) {sessionId : String} (hne : sessionId ≠ "") :
    Yields (order.move c.userId sessionId) s (order.onHoldings c.userId s.working.holdings) := by
  have hproper := Call.proper_order hc
  have hsized := Call.sized_order hc
  cases Call.gives_of_order hc with
  | @fund userId amount currency n code _ _ =>
    show Yields (resolve userId (.text code) >>= _) s (Holdings.requireUser userId >>= _)
    rw [Holdings.requireUser]
    split_ifs with huser
    · have hgive := yields_give hs ha hproper huser (Int.natCast_pos.2 hsized)
        (recordable_funding n code sessionId) hrows hf
      have hmap := hgive.map Answer.funded
      rw [map_bind] at hmap
      exact hmap
    · exact Yields.of_error rfl (on_resolve_overflow hs hproper huser)
  | @convert _ _ _ _ _ c _ =>
    have hp : Recordable ((Order.conversion c).particulars sessionId) :=
      recordable_exchange rfl hsized hne
    exact (yields_moveLegs hs ha hproper hsized hp hrows hf).map _
  | @trade _ _ _ _ _ _ t _ =>
    have hp : Recordable ((Order.trade t).particulars sessionId) :=
      recordable_exchange rfl hsized hne
    exact (yields_moveLegs hs ha hproper hsized hp hrows hf).map _

/-! ### Calls -/

/--
A call on a store with nothing pending, when no statement is bound to fail and no rival is near, the
time limit can be told and does not pass, and the names that will be drawn are new.
-/
structure Undisturbed (c : Call) (o : Options) (s : Session) : Prop where
  settled : Settled s
  lawful : s.committed.Lawful
  faults : ∀ st, s.faults st = none
  rival : s.rival = none
  limit : ∀ l, UnitOfWork.effective? o.limit = some l → s.dialect = .postgresql →
    ∃ ms, l.milliseconds = .ok ms
  inTime : UnitOfWork.overrun? o.limit s.elapsed = none
  rows : FreshRows c.kind.mark c.legs s.names s.committed
  wallet : FreshWallet s.names s.committed

/--
A store with nothing pending, on which no statement is bound to fail, no rival is near, and the
names that a call will draw are new.
-/
structure Quiet (c : Call) (s : Session) : Prop where
  settled : Settled s
  lawful : s.committed.Lawful
  faults : ∀ st, s.faults st = none
  rival : s.rival = none
  rows : FreshRows c.kind.mark c.legs s.names s.committed
  wallet : FreshWallet s.names s.committed

theorem Undisturbed.quiet {c : Call} {o : Options} {s : Session} (h : Undisturbed c o s) :
    Quiet c s :=
  ⟨h.settled, h.lawful, h.faults, h.rival, h.rows, h.wallet⟩

/-- There the body of the call's unit of work does what the order does to the map. -/
theorem Quiet.opens {c : Call} {s : Session} (h : Quiet c s) (o : Options) {order : Order}
    (hc : c.order = .ok order) : ∃ u : Session, u.committed = s.committed ∧
      u.elapsed = s.elapsed ∧ u.dialect = s.dialect ∧ Calm u ∧
      (order.carryOut c.userId o).on s =
        (Session.unitOfWork o.limit (order.move c.userId s.names.session.1)).on u ∧
      Yields (order.move c.userId s.names.session.1) u
        (order.onHoldings c.userId s.committed.holdings) := by
  obtain ⟨sessions, hcarry⟩ := order.on_carryOut c.userId o s
  -- Where the unit of work opens, at most the name of a session has been drawn.
  let u : Session := { s with names := { s.names with sessions } }
  have hcalm : Calm u := ⟨h.settled.aborted, h.faults, h.rival⟩
  have hworking : u.working = s.committed := h.settled.working
  have hrows : FreshRows c.kind.mark c.legs u.names u.working := by
    rw [hworking]
    exact ⟨h.rows.transactions, h.rows.references⟩
  have hwallet : FreshWallet u.names u.working := by
    rw [hworking]
    exact h.wallet
  have hne : s.names.session.1 ≠ "" := append_ne_empty (by decide) _
  have hyields := Call.yields_move hc hcalm (hworking ▸ h.lawful) hrows hwallet hne
  rw [hworking] at hyields
  exact ⟨u, rfl, rfl, rfl, hcalm, hcarry, hyields⟩

/-- An undisturbed call carries out its order as the order is carried out on the map. -/
theorem Undisturbed.on_carryOut {c : Call} {o : Options} {s : Session} (h : Undisturbed c o s)
    {order : Order} (hc : c.order = .ok order) : Commits (order.carryOut c.userId o) s
      (order.onHoldings c.userId s.committed.holdings) := by
  obtain ⟨u, hcommitted, helapsed, hdialect, hcalm, hcarry, hyields⟩ := h.quiet.opens o hc
  have hadmits : u.AdmitsLimit o.limit := admitsLimit_iff.2 fun l hl hd =>
    ⟨h.limit l hl (hdialect ▸ hd), hcalm.faults _, hcalm.aborted⟩
  have hdone := hyields.unitOfWork (order.within_move _ _) hcalm hadmits (helapsed ▸ h.inTime)
  exact hdone.congr hcarry hcommitted

/--
A call that is not disturbed does to what users hold what the operation does to a map: it succeeds
exactly when that does, with its result, and otherwise fails as it does and changes nothing.
-/
theorem Call.refines_holdings {c : Call} {o : Options} {s : Session} (h : Undisturbed c o s) :
    match c.onHoldings s.committed.holdings with
    | .ok held => ∃ answer t, (c.run o).on s = (.ok answer, t) ∧ t.committed.holdings = held
    | .error f => ∃ t, (c.run o).on s = (.error f, t) ∧
      t.committed.holdings = s.committed.holdings := by
  rw [Call.onHoldings_eq]
  cases hc : c.order with
  | error f => exact ⟨s, Call.on_run_eq_error.2 (.inl ⟨hc, rfl⟩), rfl⟩
  | ok order =>
    have hdone := h.on_carryOut hc
    show match order.onHoldings c.userId s.committed.holdings with
      | .ok held => _
      | .error f => _
    cases hheld : order.onHoldings c.userId s.committed.holdings with
    | ok held =>
      rw [hheld] at hdone
      obtain ⟨answer, t, ht, hcommitted⟩ := hdone
      exact ⟨answer, _, Call.on_run_eq_ok.2 ⟨order, hc, t, ht, rfl⟩, hcommitted⟩
    | error f =>
      rw [hheld] at hdone
      obtain ⟨t, ht, hcommitted⟩ := hdone
      exact ⟨t, Call.on_run_eq_error.2 (.inr ⟨order, hc, ht⟩), by rw [hcommitted]⟩

/-- A purse that has been committed, in a session where nothing is the matter. -/
def undisturbedSession : Session :=
  .ofTables { wallets := [purse] } ⟨⟨2024, 1, 15⟩, 12, 0, 0⟩

theorem conversion_of_kobo_refines_holdings :
    Undisturbed conversionOfKobo {} undisturbedSession ∧
    (conversionOfKobo.onHoldings undisturbedSession.committed.holdings).toOption.map
      (fun held => (held 1 "NGN", held 1 "USD")) = some (some 700, some 600) ∧
    match conversionOfKobo.onHoldings undisturbedSession.committed.holdings with
    | .ok held => ∃ answer t, (conversionOfKobo.run {}).on undisturbedSession = (.ok answer, t) ∧
      t.committed.holdings = held
    | .error f => ∃ t, (conversionOfKobo.run {}).on undisturbedSession = (.error f, t) ∧
      t.committed.holdings = undisturbedSession.committed.holdings := by
  have h : Undisturbed conversionOfKobo {} undisturbedSession :=
    { settled := ⟨rfl, rfl⟩
      lawful := by constructor <;> decide +kernel
      faults := fun _ => rfl
      rival := rfl
      limit := fun _ _ hd => by cases hd
      inTime := by decide +kernel
      rows := ⟨by decide +kernel, by decide +kernel⟩
      wallet := Tables.wallet?_eq_none.2 (by decide +kernel) }
  exact ⟨h, by decide +kernel, Call.refines_holdings h⟩

end CurrencyLedger.Operation
