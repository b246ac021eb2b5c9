import CurrencyLedger.Proofs.Outcomes
import CurrencyLedger.Proofs.Pairing

/-!
What is announced.

An operation never looks at what has been announced, so a call does the same whether someone listens
or not, and whatever was announced before it. Listening adds one thing: a call that succeeds tells
its event, once, when its rows have been committed and nothing is left to do. If the listener fails,
that is noted and forgotten. The event is the user's, and its text says of every row that the call
has written how much it moved, in which currency and, of an exchange, at which rate.
-/

namespace CurrencyLedger

/-! ### Overlooking a part of the state -/

namespace Action

variable {σ α β : Type} {g : σ → σ}

/-- An action that does not notice a change of the state, and leaves it standing. -/
def Overlooks (g : σ → σ) (a : Action σ α) : Prop := ∀ s, a.on (g s) = ((a.on s).1, g (a.on s).2)

theorem overlooks_bind {a : Action σ α} {f : α → Action σ β} (ha : a.Overlooks g)
    (hf : ∀ x, (f x).Overlooks g) : (a >>= f).Overlooks g := by
  intro s
  rw [on_bind, on_bind, ha s]
  rcases a.on s with ⟨e | x, t⟩
  · rfl
  · exact hf x t

theorem overlooks_map (f : α → β) {a : Action σ α} (ha : a.Overlooks g) :
    (f <$> a).Overlooks g := by
  intro s
  rw [on_map, on_map, ha s]

theorem overlooks_outcome {a : Action σ α} (ha : a.Overlooks g) : a.outcome.Overlooks g := by
  intro s
  rw [on_outcome, on_outcome, ha s]

theorem overlooks_lift (r : Except Failure α) : (lift r : Action σ α).Overlooks g := fun _ => rfl

theorem overlooks_pure (x : α) : (pure x : Action σ α).Overlooks g := fun _ => rfl

theorem overlooks_read {f : σ → α} (h : ∀ s, f (g s) = f s) : (read f).Overlooks g := by
  intro s
  rw [on_read, on_read, h]

end Action

namespace Session

/-- The session as if other events had been announced. -/
def withAnnouncements (as : List Announcement) (s : Session) : Session :=
  { s with announcements := as }

section

variable {as : List Announcement}

theorem overlooks_query (st : Statement) (bound : List Int) (f : Tables → α) :
    (query st bound f).Overlooks (withAnnouncements as) := by
  intro s
  simp only [query, Action.on_of, withAnnouncements]
  split
  · rfl
  · split_ifs <;> rfl

theorem overlooks_write (st : Statement) (change : Tables → Except Failure Tables) :
    (write st change).Overlooks (withAnnouncements as) := by
  intro s
  simp only [write, Action.on_of, withAnnouncements]
  split_ifs
  · rfl
  · split
    · rfl
    · split <;> rfl

theorem overlooks_draw (f : Names → String × Names) :
    (draw f).Overlooks (withAnnouncements as) := fun _ => rfl

theorem overlooks_clock : (Action.read clock).Overlooks (withAnnouncements as) :=
  Action.overlooks_read fun _ => rfl

theorem overlooks_admitRival : admitRival.Overlooks (withAnnouncements as) := by
  intro s
  simp only [admitRival, Action.on_update, withAnnouncements]
  split <;> rfl

theorem overlooks_nested {a : Action Session α} (h : a.Overlooks (withAnnouncements as)) :
    (nested a).Overlooks (withAnnouncements as) := by
  intro s
  have hbracketed : (bracketed a).Overlooks (withAnnouncements as) :=
    Action.overlooks_bind (overlooks_query _ _ _) fun _ => Action.overlooks_bind h fun _ =>
      Action.overlooks_bind (overlooks_query _ _ _) fun _ => Action.overlooks_pure _
  rw [nested, Action.on_of, Action.on_of, hbracketed s]
  rcases (bracketed a).on s with ⟨f | x, t⟩ <;> rfl

theorem overlooks_commit : commit.Overlooks (withAnnouncements as) := by
  intro s
  simp only [commit, Action.on_of, withAnnouncements]
  split
  · rfl
  · split_ifs <;> rfl

/-- A unit of work overlooks what its body does. -/
theorem overlooks_unitOfWork (limit : Option TimeLimit) {body : Action Session α}
    (h : body.Overlooks (withAnnouncements as)) :
    (unitOfWork limit body).Overlooks (withAnnouncements as) := by
  intro s
  have hsetUp : (UnitOfWork.setUp s.connection limit).Overlooks (withAnnouncements as) := by
    rw [UnitOfWork.setUp]
    split
    · refine Action.overlooks_bind (Action.overlooks_lift _) fun ms => ?_
      show (run .limitTime).Overlooks (withAnnouncements as)
      exact overlooks_query _ _ _
    · exact Action.overlooks_pure _
  have hattempt : (UnitOfWork.attempt s.connection limit s.elapsed body).Overlooks
      (withAnnouncements as) := by
    refine Action.overlooks_bind hsetUp fun _ => Action.overlooks_bind h fun x => ?_
    split
    · exact Action.overlooks_lift _
    · exact Action.overlooks_bind overlooks_commit fun _ => Action.overlooks_pure _
  have hsame : (unitOfWork limit body).on (s.withAnnouncements as) =
      (UnitOfWork.run s.connection limit s.elapsed body).on (s.withAnnouncements as) := rfl
  rw [hsame, unitOfWork, Action.on_of, UnitOfWork.run, Action.on_of, Action.on_of, hattempt s]
  rcases (UnitOfWork.attempt s.connection limit s.elapsed body).on s with ⟨f | x, t⟩ <;> rfl

end

end Session

open Session

/-! ### Wallets and rows -/

section

variable {as : List Announcement}

theorem History.overlooks_record (w : Wallet) (amount : Nat) (flow : Transaction.Flow)
    (p : Particulars) : (record w amount flow p).Overlooks (withAnnouncements as) := by
  refine Action.overlooks_bind (overlooks_draw _) fun _ => ?_
  refine Action.overlooks_bind (Action.overlooks_lift _) fun _ => ?_
  refine Action.overlooks_bind (Action.overlooks_lift _) fun _ => ?_
  refine Action.overlooks_bind (overlooks_draw _) fun _ => ?_
  refine Action.overlooks_bind overlooks_clock fun _ => ?_
  exact Action.overlooks_bind (overlooks_write _ _) fun _ => Action.overlooks_lift _

namespace Wallets

theorem overlooks_load (flow : Transaction.Flow) (id : String) :
    (load flow id).Overlooks (withAnnouncements as) := by
  refine Action.overlooks_bind (overlooks_query _ _ _) fun found => ?_
  cases found with
  | some w => exact Action.overlooks_pure w
  | none => exact Action.overlooks_lift _

theorem overlooks_store (flow : Transaction.Flow) (w : Wallet) (balance : Nat) :
    (store flow w balance).Overlooks (withAnnouncements as) :=
  Action.overlooks_bind overlooks_clock fun _ => overlooks_write _ _

theorem overlooks_credit (id : String) (amount : Value) (p : History.Particulars) :
    (credit id amount p).Overlooks (withAnnouncements as) := by
  refine Action.overlooks_bind (Action.overlooks_lift _) fun _ => ?_
  refine Action.overlooks_bind (overlooks_load _ _) fun w => ?_
  exact Action.overlooks_bind (overlooks_store _ _ _) fun _ => History.overlooks_record _ _ _ _

theorem overlooks_debit (id : String) (amount : Value) (p : History.Particulars) :
    (debit id amount p).Overlooks (withAnnouncements as) := by
  refine Action.overlooks_bind (Action.overlooks_lift _) fun _ => ?_
  refine Action.overlooks_bind (overlooks_load _ _) fun w => ?_
  split
  · exact Action.overlooks_lift _
  · exact Action.overlooks_bind (overlooks_store _ _ _) fun _ => History.overlooks_record _ _ _ _

theorem overlooks_resolve (userId : Int) (currency : Value) :
    (resolve userId currency).Overlooks (withAnnouncements as) := by
  have hcreate (code : String) : (create userId code).Overlooks (withAnnouncements as) :=
    Action.overlooks_bind (overlooks_draw _) fun _ => Action.overlooks_bind overlooks_clock fun _ =>
      Action.overlooks_bind (overlooks_write _ _) fun _ => Action.overlooks_pure _
  refine Action.overlooks_bind (Action.overlooks_lift _) fun code => ?_
  refine Action.overlooks_bind (overlooks_query _ _ _) fun found => ?_
  cases found with
  | some w => exact Action.overlooks_pure w
  | none =>
    refine Action.overlooks_bind overlooks_admitRival fun _ => ?_
    refine Action.overlooks_bind
      (Action.overlooks_outcome (overlooks_nested (hcreate code))) fun made => ?_
    split
    · exact Action.overlooks_pure _
    · refine Action.overlooks_bind (overlooks_query _ _ _) fun found => ?_
      cases found with
      | some w => exact Action.overlooks_pure w
      | none => exact Action.overlooks_lift _
    · exact Action.overlooks_lift _

end Wallets

end

namespace Operation

open Wallets

/-! ### Calls -/

section

variable {as : List Announcement}

theorem overlooks_moveLegs (userId : Int) (plan : Exchange.Plan) (p : History.Particulars) :
    (moveLegs userId plan p).Overlooks (withAnnouncements as) := by
  refine Action.overlooks_bind
    (Action.overlooks_bind (Action.overlooks_lift _) fun _ => overlooks_query _ _ _) fun found => ?_
  cases found with
  | none => exact Action.overlooks_lift _
  | some source =>
    refine Action.overlooks_bind (overlooks_debit _ _ _) fun _ => ?_
    refine Action.overlooks_bind (overlooks_resolve _ _) fun _ => ?_
    exact Action.overlooks_bind (overlooks_credit _ _ _) fun _ => Action.overlooks_pure _

/-- Carrying an order out has nothing to do with what has been announced. -/
theorem Order.overlooks_carryOut (order : Order) (userId : Int) (o : Options) :
    (order.carryOut userId o).Overlooks (withAnnouncements as) := by
  have henter : order.enter.Overlooks (withAnnouncements as) := by
    cases order with
    | funding n code => exact Action.overlooks_pure _
    | conversion c => exact overlooks_draw Names.session
    | trade t => exact overlooks_draw Names.session
  refine Action.overlooks_bind henter fun sessionId => overlooks_unitOfWork _ ?_
  cases order with
  | funding n code =>
    refine Action.overlooks_bind (overlooks_resolve _ _) fun w => ?_
    exact Action.overlooks_bind (overlooks_credit _ _ _) fun x => Action.overlooks_pure _
  | conversion c => exact Action.overlooks_map _ (overlooks_moveLegs _ _ _)
  | trade t => exact Action.overlooks_map _ (overlooks_moveLegs _ _ _)

end

/-- The same options, with nobody listening. -/
def Options.unheard (o : Options) : Options := { o with listener := none }

section

variable {c : Call} {o : Options} {s t : Session} {as : List Announcement}

/-- What has been announced is left as it is by whatever overlooks it. -/
theorem announcements_of_carryOut {order : Order} {userId : Int} {r : Except Failure Answer}
    (h : (order.carryOut userId o).on s = (r, t)) : t.announcements = s.announcements := by
  have hsame : (order.carryOut userId o).on (withAnnouncements s.announcements s) = _ :=
    order.overlooks_carryOut userId o s
  rw [show withAnnouncements s.announcements s = s from rfl, h] at hsame
  exact congrArg (fun p => p.2.announcements) hsame

/-- A call that fails has announced nothing. -/
theorem Call.announcements_of_error {f : Failure} (h : (c.run o).on s = (.error f, t)) :
    t.announcements = s.announcements := by
  rcases Call.on_run_eq_error.1 h with ⟨-, rfl⟩ | ⟨order, -, h⟩
  · rfl
  · exact announcements_of_carryOut h

/-- Without a listener a call ends in the same way, and in the same session but for its event. -/
theorem Call.on_run_unheard (c : Call) (o : Options) (s : Session) :
    (c.run o.unheard).on s =
      (((c.run o).on s).1, ((c.run o).on s).2.withAnnouncements s.announcements) := by
  rcases h : (c.run o).on s with ⟨f | answer, t⟩
  · rw [show withAnnouncements s.announcements t = t by rw [← announcements_of_error h]; rfl]
    rcases Call.on_run_eq_error.1 h with ⟨hc, rfl⟩ | ⟨order, hc, hu⟩
    · exact Call.on_run_eq_error.2 (.inl ⟨hc, rfl⟩)
    · exact Call.on_run_eq_error.2 (.inr ⟨order, hc, hu⟩)
  · obtain ⟨order, hc, u, hu, rfl⟩ := Call.on_run_eq_ok.1 h
    refine Call.on_run_eq_ok.2 ⟨order, hc, u, hu, ?_⟩
    simp only [heard, List.append_nil, Options.unheard, announcements_of_carryOut hu,
      withAnnouncements]

/-- Without a listener it matters to nobody what has been announced. -/
theorem Call.overlooks_run (c : Call) (o : Options) :
    (c.run o.unheard).Overlooks (withAnnouncements as) := by
  have hannounce (order : Order) :
      (announce o.unheard c.userId order.eventKind order.eventText).Overlooks
        (withAnnouncements as) := by
    intro s
    simp only [on_announce, heard, Options.unheard, List.append_nil]
  rw [Call.run_eq]
  refine Action.overlooks_bind (Action.overlooks_lift _) fun order => ?_
  refine Action.overlooks_bind (order.overlooks_carryOut _ _) fun answer => ?_
  exact Action.overlooks_bind (hannounce order) fun _ => Action.overlooks_pure _

end

end Operation

/-! ### What an event says of the rows -/

namespace Exchange

section

variable {rates : RateSource}

/-- A conversion gives up the amount that it is of. -/
theorem debit_of_planConversion {source target amount : Value} {c : Conversion}
    (h : planConversion rates source target amount = .ok c) : c.plan.debit = c.amount := by
  obtain ⟨a, b, -, -, -, -, hp⟩ := plan_of_planConversion h
  obtain ⟨-, -, rate, hdebit⟩ := ends_of_plan hp
  exact (Except.ok.inj hdebit).symm

/-- Which currency a trade gives up for which: a sale gives up its amount of the base currency. -/
inductive Trade.Sides (t : Trade) : Prop
  | buy (action : t.action = .buy) (source : t.plan.source = t.quote)
    (target : t.plan.target = t.base)
  | sell (action : t.action = .sell) (source : t.plan.source = t.base)
    (target : t.plan.target = t.quote) (debit : t.plan.debit = t.amount)

theorem sides_of_planTrade {base quote amount action : Value} {t : Trade}
    (h : planTrade rates base quote amount action = .ok t) : t.Sides := by
  obtain ⟨-, -, -, -, hplanned⟩ := planned_of_planTrade h
  cases hplanned with
  | buy haction hp =>
    obtain ⟨hsource, htarget, -⟩ := ends_of_plan hp
    exact .buy haction hsource htarget
  | sell haction hp =>
    obtain ⟨hsource, htarget, rate, hdebit⟩ := ends_of_plan hp
    exact .sell haction hsource htarget (Except.ok.inj hdebit).symm

end

end Exchange

namespace Operation

/-- What a row moved, as events say it. -/
def moved (x : Transaction) : String := money x.amount x.currency

/-- The text of an event states what the rows of an answer say. -/
inductive States : Answer → String → Prop
  | funded (x : Transaction) : States (.funded x)
      ("Funded " ++ x.currency ++ " wallet with " ++ Text.natText x.amount)
  | converted {e : Exchanged} (rate : e.legs.debit.exchangeRate = e.legs.credit.exchangeRate) :
    States (.converted e) ("Converted " ++ moved e.legs.debit ++ " to " ++ moved e.legs.credit
      ++ " at rate " ++ e.legs.credit.exchangeRate)
  /-- A purchase names the amount that was asked for, and what was exchanged for it. -/
  | bought {e : Exchanged} (rate : e.legs.debit.exchangeRate = e.legs.credit.exchangeRate)
    (asked : Nat) : States (.traded .buy e)
      ("Executed trade: buy " ++ money asked e.legs.credit.currency ++ " with "
        ++ e.legs.debit.currency ++ ". Final exchange: " ++ moved e.legs.debit ++ " for "
        ++ moved e.legs.credit ++ " at rate " ++ e.legs.credit.exchangeRate)
  | sold {e : Exchanged} (rate : e.legs.debit.exchangeRate = e.legs.credit.exchangeRate) :
    States (.traded .sell e)
      ("Executed trade: sell " ++ moved e.legs.debit ++ " with " ++ e.legs.credit.currency
        ++ ". Final exchange: " ++ moved e.legs.debit ++ " for " ++ moved e.legs.credit
        ++ " at rate " ++ e.legs.credit.exchangeRate)

/-- Two rows that record what a plan exchanges. -/
structure Records (plan : Exchange.Plan) (x y : Transaction) : Prop where
  debit : moved x = money plan.debit plan.source
  credit : moved y = money plan.credit plan.target
  source : x.currency = plan.source
  target : y.currency = plan.target
  debitRate : x.exchangeRate = plan.rate
  creditRate : y.exchangeRate = plan.rate

section

variable {origin : Wallet → Prop} {now : Moment} {userId : Int} {sessionId : String}
  {a b : Tables} {order : Order} {plan : Exchange.Plan} {x y : Transaction}

theorem Order.Done.records (hplan : order.plan? = some plan) (hsized : plan.Sized)
    (h : order.Done origin now userId sessionId a b [x, y]) : Records plan x y := by
  cases h with
  | exchange hplan' debit opened credit =>
    obtain rfl := Option.some.inj (hplan.symm.trans hplan')
    have hrate {z : Transaction} (hz : History.Describes (order.particulars sessionId) z) :
        z.exchangeRate = plan.rate := by
      have hformat := hz.rate
      rw [Order.exchangeRate_of_plan? hplan, hsized.rate] at hformat
      exact (Except.ok.inj hformat).symm
    have hx := debit.moved.currency.trans debit.currency
    have hy := credit.moved.currency.trans credit.currency
    exact ⟨by rw [moved, debit.amount, hx], by rw [moved, credit.amount, hy], hx, hy,
      hrate debit.describes, hrate credit.describes⟩

/-- The rows of an order that is done stand behind the others. -/
theorem Order.Done.transactions {rows : List Transaction}
    (h : order.Done origin now userId sessionId a b rows) :
    b.transactions = a.transactions ++ rows := by
  cases h with
  | funding opened leg =>
    rw [leg.moved.transactions, transactions_of_opened opened]
  | exchange hplan debit opened credit =>
    rw [credit.moved.transactions, transactions_of_opened opened, debit.moved.transactions,
      List.append_assoc]
    rfl

end

/-- The shape that the answer to an order has. -/
inductive Order.Fits : Order → Answer → Prop
  | funding {n : Nat} {code : String} (x : Transaction) : Fits (.funding n code) (.funded x)
  | conversion {c : Exchange.Conversion} (e : Exchanged) : Fits (.conversion c) (.converted e)
  | trade {t : Exchange.Trade} (e : Exchanged) : Fits (.trade t) (.traded t.action e)

/-- An answer that reports what an order says has its shape. -/
theorem Order.fits_of_report {order : Order} {answer : Answer} {rows : List Transaction.Content}
    (h : answer.report = order.report rows) : order.Fits answer := by
  have hquote := congrArg Report.quote h
  have haction := congrArg Report.action h
  cases order with
  | funding n code =>
    cases answer with
    | funded x => exact .funding x
    | converted e => cases hquote
    | traded action e => cases hquote
  | conversion c =>
    cases answer with
    | funded x => cases hquote
    | converted e => exact .conversion e
    | traded action e => cases haction
  | trade t =>
    cases answer with
    | funded x => cases hquote
    | converted e => cases haction
    | traded action e =>
      obtain rfl : action = t.action := Option.some.inj haction
      exact .trade e

/-- A conversion that a call asks for gives up the amount that it is of. -/
theorem Call.debit_of_order {call : Call} {c : Exchange.Conversion}
    (h : call.order = .ok (.conversion c)) : c.plan.debit = c.amount := by
  cases Call.gives_of_order h with
  | convert hplan => exact Exchange.debit_of_planConversion hplan

/-- A trade that it asks for has its two sides. -/
theorem Call.sides_of_order {call : Call} {t : Exchange.Trade}
    (h : call.order = .ok (.trade t)) : t.Sides := by
  cases Call.gives_of_order h with
  | trade hplan => exact Exchange.sides_of_planTrade hplan

section

variable {c : Call} {order : Order} {answer : Answer} {origin : Wallet → Prop} {now : Moment}
  {userId : Int} {sessionId : String} {a b : Tables}

/-- Whatever a call has done, the text of its event states it. -/
theorem Call.states_of_done (hc : c.order = .ok order) (hfits : order.Fits answer)
    (h : order.Done origin now userId sessionId a b answer.rows) :
    States answer order.eventText := by
  have hsized := Call.sized_order hc
  cases hfits with
  | funding x =>
    rename_i n code
    cases h with
    | funding opened leg =>
      have hamount : x.amount = n := by exact_mod_cast leg.amount
      have hcurrency := leg.moved.currency.trans leg.currency
      show States (.funded x) ("Funded " ++ code ++ " wallet with " ++ Text.natText n)
      rw [← hamount, ← hcurrency]
      exact .funded x
  | conversion e =>
    have hdebit := Call.debit_of_order hc
    have hrecords := h.records rfl hsized
    show States _ (conversionText _)
    rw [conversionText, ← hdebit, ← hrecords.debit, ← hrecords.credit, ← hrecords.creditRate]
    exact .converted (hrecords.debitRate.trans hrecords.creditRate.symm)
  | trade e =>
    rename_i t
    have hrecords := h.records rfl hsized
    have hrate := hrecords.debitRate.trans hrecords.creditRate.symm
    show States _ (tradeText t)
    unfold tradeText
    rw [← hrecords.debit, ← hrecords.credit, ← hrecords.creditRate]
    have hbuy : "Executed trade: " ++ TradeAction.buy.text ++ " " = "Executed trade: buy " := rfl
    have hsell : "Executed trade: " ++ TradeAction.sell.text ++ " " = "Executed trade: sell " := rfl
    cases Call.sides_of_order hc with
    | buy haction hsource htarget =>
      rw [haction, hbuy, ← hsource, ← htarget, ← hrecords.source, ← hrecords.target]
      exact .bought hrate t.amount
    | sell haction hsource htarget hdebit =>
      rw [haction, hsell, ← hdebit, ← hsource, ← htarget, ← hrecords.debit, ← hrecords.target]
      exact .sold hrate

end

/-! ### Runs -/

/-- The kind of event with which an answer comes. -/
def Answer.eventKind : Answer → Event.Kind
  | .funded _ => .credit
  | _ => .update

theorem Order.Fits.eventKind {order : Order} {answer : Answer} (h : order.Fits answer) :
    order.eventKind = answer.eventKind := by
  cases h <;> rfl

/-- The events that were announced between two states of a session, each as it was taken. -/
def told (s t : Session) : List Announcement := t.announcements.drop s.announcements.length

/--
What a call announces follows its money. If it succeeds, it would have succeeded unheard, with the
same answer, in a session where the rows of the answer have been committed; there its event is
announced, to whoever listens. If it fails, it would have failed unheard, and nothing is announced.
-/
inductive Call.Accounted (c : Call) (o : Options) (s : Session) :
    Except Failure Answer → Session → Prop
  | succeeded {answer : Answer} {t u : Session} {e : Event}
    (unheard : (c.run o.unheard).on s = (.ok answer, u)) (settled : Settled u)
    (written : u.committed.transactions = s.committed.transactions ++ answer.rows)
    (announced : (Session.announce o.listener e).on u = (.ok (), t))
    (told : told s t = heard o.listener e) (userId : e.userId = c.userId)
    (kind : e.kind = answer.eventKind) (states : States answer e.text) :
    Accounted c o s (.ok answer) t
  | failed {f : Failure} {t : Session} (unheard : (c.run o.unheard).on s = (.error f, t))
    (told : told s t = []) : Accounted c o s (.error f) t

/-- On settled and lawful tables every call is accounted for. -/
theorem Call.accounted (c : Call) (o : Options) {s : Session} (hs : Settled s)
    (hlawful : s.committed.Lawful) (hr : RivalFits s) :
    c.Accounted o s ((c.run o).on s).1 ((c.run o).on s).2 := by
  have hunheard := Call.on_run_unheard c o s
  have hworking : s.working = s.committed := hs.working
  rcases h : (c.run o).on s with ⟨f | answer, t⟩
  all_goals rw [h] at hunheard
  · have hkept := Call.announcements_of_error h
    rw [show withAnnouncements s.announcements t = t by rw [← hkept]; rfl] at hunheard
    exact .failed hunheard (by rw [told, hkept, List.drop_length])
  · obtain ⟨hsettled, -, order, hc, hdone⟩ := Call.done_of_run (hworking ▸ hlawful) hr hunheard
    obtain ⟨order', hc', v, hv, rfl⟩ := Call.on_run_eq_ok.1 h
    obtain rfl : order = order' := Except.ok.inj (hc.symm.trans hc')
    obtain ⟨names, w, hmove, -, -⟩ := Order.on_carryOut_eq_ok hv
    have hkept := announcements_of_carryOut hv
    have hfits := Order.fits_of_report (Order.report_of_move hmove)
    refine .succeeded (e := order.event c.userId o v.clock) hunheard hsettled ?_ ?_ ?_ rfl
      hfits.eventKind (Call.states_of_done hc hfits hdone)
    · rw [hdone.transactions, hworking]
    · rw [on_announce_event, hkept]
      rfl
    · rw [told, hkept, List.drop_left]

/-- A call of a run, as it went. -/
structure Episode where
  step : Step
  /-- The session that the call met. -/
  before : Session
  outcome : Except Failure Answer
  after : Session

/-- The step with nobody listening. -/
def Step.unheard (x : Step) : Step := { x with options := x.options.unheard }

namespace Run

/-- One call of a run after the other, as they go. -/
def episodes (r : Run) : List Step → List Episode
  | [] => []
  | x :: xs =>
    { step := x
      before := under r.session x.conditions
      outcome := ((x.call.run x.options).on (under r.session x.conditions)).1
      after := r.next x } :: (r.step x).episodes xs

/-- The run as if other events had been announced. -/
def withAnnouncements (as : List Announcement) (r : Run) : Run :=
  { r with session := r.session.withAnnouncements as }

/-- Every call of a run is accounted for. -/
theorem Sound.accounted {r : Run} (hr : r.Sound) (xs : List Step) :
    ∀ e ∈ r.episodes xs, e.step.call.Accounted e.step.options e.before e.outcome e.after := by
  induction xs generalizing r with
  | nil => exact fun _ h => absurd h List.not_mem_nil
  | cons x xs ih =>
    refine List.forall_mem_cons.2 ⟨?_, ih (hr.step x)⟩
    exact x.call.accounted x.options ⟨hr.settled.working, hr.settled.aborted⟩ hr.lawful
      x.conditions.rival_fits

/-- What a call announces goes behind what had been announced before. -/
theorem announcements_next (r : Run) (x : Step) : (r.next x).announcements =
    r.session.announcements ++ told (under r.session x.conditions) (r.next x) := by
  have hsame : r.session.announcements = (under r.session x.conditions).announcements := rfl
  rw [next, hsame, told]
  rcases h : (x.call.run x.options).on (under r.session x.conditions) with ⟨f | answer, t⟩
  · rw [Call.announcements_of_error h, List.drop_length, List.append_nil]
  · obtain ⟨order, -, v, hv, rfl⟩ := Call.on_run_eq_ok.1 h
    simp only [announcements_of_carryOut hv, List.drop_left]

theorem announcements_steps (r : Run) (xs : List Step) : (r.steps xs).session.announcements =
    r.session.announcements ++ (r.episodes xs).flatMap fun e => told e.before e.after := by
  induction xs generalizing r with
  | nil => exact (List.append_nil _).symm
  | cons x xs ih =>
    rw [episodes, List.flatMap_cons, ← List.append_assoc, ← announcements_next]
    exact ih (r.step x)

/-- A step unheard goes as it does, but for what is announced. -/
theorem on_unheard (r : Run) (as : List Announcement) (x : Step) :
    (x.unheard.call.run x.unheard.options).on
        (under (r.withAnnouncements as).session x.unheard.conditions) =
      (((x.call.run x.options).on (under r.session x.conditions)).1,
        (r.next x).withAnnouncements as) := by
  have hsame : (x.call.run x.options.unheard).on
      (Session.withAnnouncements as (under r.session x.conditions)) = _ :=
    x.call.overlooks_run x.options (under r.session x.conditions)
  rw [Call.on_run_unheard x.call x.options (under r.session x.conditions)] at hsame
  exact hsame

theorem step_unheard (r : Run) (as : List Announcement) (x : Step) :
    (r.withAnnouncements as).step x.unheard = (r.step x).withAnnouncements as := by
  have hnext : (r.withAnnouncements as).next x.unheard = (r.next x).withAnnouncements as :=
    congrArg Prod.snd (on_unheard r as x)
  simp only [step, hnext]
  rfl

theorem steps_unheard (r : Run) (as : List Announcement) (xs : List Step) :
    (r.withAnnouncements as).steps (xs.map Step.unheard) =
      (r.steps xs).withAnnouncements as := by
  induction xs generalizing r with
  | nil => rfl
  | cons x xs ih =>
    show ((r.withAnnouncements as).step x.unheard).steps (xs.map Step.unheard) = _
    rw [step_unheard]
    exact ih (r.step x)

theorem outcomes_unheard (r : Run) (as : List Announcement) (xs : List Step) :
    ((r.withAnnouncements as).episodes (xs.map Step.unheard)).map (·.outcome) =
      (r.episodes xs).map (·.outcome) := by
  induction xs generalizing r with
  | nil => rfl
  | cons x xs ih =>
    simp only [List.map_cons, episodes, step_unheard, ih, on_unheard]

/--
However many calls are made, and whoever listens to them: each call that succeeds is announced once,
after its rows have been committed, by an event of its user that states what they say, and a call
that fails is not announced. All calls end as they would with nobody listening, and so does the run.
-/
theorem announcements_follow_money {r : Run} (hr : r.Sound) (xs : List Step) :
    (∀ e ∈ r.episodes xs, e.step.call.Accounted e.step.options e.before e.outcome e.after) ∧
    (r.steps xs).session.announcements =
      r.session.announcements ++ ((r.episodes xs).flatMap fun e => told e.before e.after) ∧
    (r.episodes (xs.map Step.unheard)).map (·.outcome) = (r.episodes xs).map (·.outcome) ∧
    r.steps (xs.map Step.unheard) = (r.steps xs).withAnnouncements r.session.announcements :=
  ⟨hr.accounted xs, announcements_steps r xs, outcomes_unheard r r.session.announcements xs,
    steps_unheard r r.session.announcements xs⟩

/-- A listener that takes in credits and fails at everything else. -/
def creditListener : Listener := fun e =>
  if e.kind = .credit then .ok () else .error (.database {})

/-- A trading day with that listener. -/
def heardDay : List Step :=
  tradingDay.map fun x => { x with options := { x.options with listener := some creditListener } }

/-- The call without a rate is not announced, and the failures of the listener change nothing. -/
theorem trading_day_announced :
    let r := start [] [] ⟨⟨2024, 1, 15⟩, 12, 0, 0⟩
    ((r.steps heardDay).session.announcements.map fun a => (a.event.text, a.taken)) =
      [("Funded NGN wallet with 1000", true),
       ("Converted 300 NGN to 600 USD at rate 2.00000000", false),
       ("Executed trade: sell 10 USD with NGN. Final exchange: 10 USD for 5 NGN at rate 0.50000000",
         false)] ∧
    (r.episodes (heardDay.map Step.unheard)).map (·.outcome) =
      (r.episodes heardDay).map (·.outcome) ∧
    r.steps (heardDay.map Step.unheard) = (r.steps heardDay).withAnnouncements [] := by
  intro r
  obtain ⟨-, -, houtcomes, hsteps⟩ :=
    announcements_follow_money (sound_start [] [] ⟨⟨2024, 1, 15⟩, 12, 0, 0⟩) heardDay
  exact ⟨by decide +kernel, houtcomes, hsteps⟩

end Run

end Operation

end CurrencyLedger
