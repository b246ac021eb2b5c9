import CurrencyLedger.Http.Service
import CurrencyLedger.Proofs.Bookings
import CurrencyLedger.Proofs.Documents
import CurrencyLedger.Proofs.Privacy

/-!
What answers say of the ledger.

Everything that an endpoint does before it makes a call, and everything at all that an endpoint does
which only shows rows, leaves the session alone, and an early answer is never a success. A call is
made at the end, where nothing can stop the answer any more: it fails without a trace, or its rows
are appended and shown. Activities that are written down afterwards are no part of the money. So a
request is either without effect on wallets and transactions, or it is answered with success and
with the very rows that say what has changed.
-/

namespace CurrencyLedger.Http

open Operation (Call Order Settled)
open Validation

/-! ### Steps that move no money -/

/-- A step that leaves a part of the service alone, and answers early only to refuse. -/
def Steady (part : Service → γ) (h : Handler α) : Prop :=
  ∀ s, part (h.on s).2 = part s ∧ ∀ a, (h.on s).1 = .error a → a.isSuccess = false

/-- An action that only reads. -/
theorem within_query_eq (st : Statement) (bound : List Int) (f : Tables → α) :
    (Session.query st bound f).Within Eq :=
  fun s => (Session.on_query_snd st bound f s).symm

namespace Steady

variable {α β γ : Type} {part : Service → γ}

theorem pure (x : α) : Steady part (Pure.pure x) :=
  fun _ => ⟨rfl, fun _ h => by cases h⟩

theorem stop {a : Answer} (h : a.isSuccess = false) : Steady part (Handler.stop a : Handler α) :=
  fun _ => ⟨rfl, by rintro _ ⟨⟩; exact h⟩

theorem bind {h : Handler α} {f : α → Handler β} (hh : Steady part h)
    (hf : ∀ x, Steady part (f x)) : Steady part (h >>= f) := by
  intro s
  obtain ⟨hsame, hrefused⟩ := hh s
  rw [Handler.on_bind]
  rcases hr : h.on s with ⟨a | x, t⟩
  all_goals rw [hr] at hsame hrefused
  · exact ⟨hsame, fun b hb => hrefused b (by cases hb; rfl)⟩
  · exact ⟨(hf x t).1.trans hsame, (hf x t).2⟩

/-- An action leaves alone what is no part of the session. -/
theorem act_of_same {a : Action Session α}
    (h : ∀ s : Service, part { s with session := (a.on s.session).2 } = part s) :
    Steady part (Handler.act a) := by
  intro s
  have hon : (Handler.act a).on s = _ := run_act a s
  rw [hon]
  refine ⟨h s, fun b hb => ?_⟩
  cases hr : (a.on s.session).1 with
  | error f =>
    rw [hr] at hb
    cases hb
    exact isSuccess_ofFailure f
  | ok x =>
    rw [hr] at hb
    cases hb

theorem act {a : Action Session α} (h : a.Within Eq) : Steady part (Handler.act a) :=
  act_of_same fun s => by rw [← h s.session]

theorem validate (c : Checked α) : Steady part (Handler.validate c) := by
  cases c with
  | error is => exact .stop rfl
  | ok x => exact .pure x

end Steady

section

variable {γ : Type} {part : Service → γ}

theorem steady_authenticate (r : Request) : Steady part (authenticate r) := by
  intro s
  rcases authenticate_cases r s with ⟨u, hon, -⟩ | ⟨a, hon, ha⟩
  all_goals rw [hon]
  · exact ⟨rfl, fun _ h => by cases h⟩
  · exact ⟨rfl, by rintro _ ⟨⟩; exact ha⟩

theorem steady_authenticateAdmin (r : Request) : Steady part (authenticateAdmin r) := by
  refine .bind (steady_authenticate r) fun u => ?_
  split_ifs
  · exact .pure u
  · exact .stop rfl

theorem refused_of_readDocument {r : Request} {a : Answer} (h : readDocument r = .error a) :
    a.isSuccess = false := by
  rw [readDocument] at h
  split_ifs at h
  split at h <;> cases h <;> rfl

theorem steady_takeOrder (read : List (String × Value) → Checked α) (body : Option Value) :
    Steady part (takeOrder read body) := by
  rw [takeOrder]
  split
  · exact .pure _
  · refine .stop ?_
    rw [issuesAnswer]
    split_ifs <;> rfl

theorem Steady.withBody {r : Request} {f : Option Value → Handler Answer}
    (hf : ∀ v, Steady part (f v)) : Steady part (withBody r f) := by
  rw [Http.withBody]
  cases hbody : readDocument r with
  | ok v => exact hf v
  | error a => exact .stop (refused_of_readDocument hbody)

theorem steady_rateProvider (c : Configuration) : Steady part (rateProvider c) := by
  rw [rateProvider]
  split
  · exact .pure _
  · exact .stop (isSuccess_ofFailure _)

/-- What is asked of a provider changes nothing but the rates that are kept. -/
theorem steady_askRate (hpart : ∀ (s : Service) rates, part { s with rates } = part s)
    (r : Request) (p : Rate.Provider) (ends : String × String) :
    Steady part (askRate r p ends) := by
  intro s
  rw [on_askRate]
  exact ⟨hpart s _, nofun⟩

/-- To count a request changes nothing but what is counted. -/
theorem steady_countRequest (hpart : ∀ (s : Service) hits, part { s with hits } = part s)
    (c : Configuration) (r : Request) : Steady part (countRequest c r) := by
  intro s
  simp only [countRequest, Handler.on, ExceptT.run, ExceptT.mk]
  cases c.limits with
  | none => exact ⟨rfl, fun _ h => by cases h⟩
  | some limits =>
    dsimp only
    cases (s.hits.take r.uptime (clientAddress r) r.target.path (RateLimit.readAll limits)).1 with
    | none => exact ⟨hpart s _, fun _ h => by cases h⟩
    | some l => exact ⟨hpart s _, by rintro _ ⟨⟩; rfl⟩

/-- What an endpoint carries out and shows changes nothing but the session. -/
theorem steady_carriedOut (hpart : ∀ (s : Service) session, part { s with session } = part s)
    {α : Type} (a : Action Session α) (f : α → Answer) : Steady part (do
      let x ← Handler.act a
      Handler.recordAnnounced
      return f x) := by
  have hrecord : Steady part Handler.recordAnnounced := fun s => ⟨hpart s _, nofun⟩
  exact .bind (.act_of_same fun s => hpart s _) fun _ => .bind hrecord fun _ => .pure _

/-! ### Endpoints that show rows -/

theorem steady_fundUser (hpart : ∀ (s : Service) session, part { s with session } = part s)
    (c : Configuration) (r : Request) (body : Option Value) : Steady part (fundUser c r body) := by
  refine .bind (steady_authenticateAdmin r) fun admin => ?_
  refine .bind (steady_takeOrder _ _) fun order => ?_
  refine .bind (.act (within_query_eq _ _ _)) fun found => ?_
  cases found with
  | none => exact .stop rfl
  | some u => exact steady_carriedOut hpart _ _

theorem steady_listWallets (r : Request) : Steady part (listWallets r) := by
  refine .bind (steady_authenticate r) fun u => .bind (.act ?_) fun _ => .pure _
  rw [Wallets.list]
  split_ifs
  · exact Action.within_bind (Action.within_lift _) fun _ => within_query_eq _ _ _
  · exact within_query_eq _ _ _

theorem steady_listingPage (l : Listing) : Steady part (listingPage l) := by
  rw [listingPage]
  split_ifs
  · exact .stop rfl
  · refine .bind (.act ?_) fun _ => .pure _
    refine Action.within_bind (Action.within_lift _) fun _ => ?_
    refine Action.within_bind (Action.within_lift _) fun _ => ?_
    refine Action.within_bind (Action.within_lift _) fun _ => ?_
    refine Action.within_bind (within_query_eq _ _ _) fun _ => ?_
    exact Action.within_bind (within_query_eq _ _ _) fun _ => Action.within_pure _

theorem steady_showTransaction (r : Request) (id : String) :
    Steady part (showTransaction r id) := by
  refine .bind (steady_authenticate r) fun u => .bind (.act (within_query_eq _ _ _)) fun found => ?_
  cases found with
  | none => exact .stop rfl
  | some x => exact .pure _

theorem steady_listAllWallets (r : Request) : Steady part (listAllWallets r) := by
  refine .bind (steady_authenticateAdmin r) fun _ => .bind (.validate _) fun l => ?_
  have hrows (currency : Option String) : Steady part (do
      let ws ← Handler.act <| Session.query .listRows l.userId.toList
        (selectWallets l.userId currency l.limit)
      return Answer.ok (.list (ws.map Wallet.document))) :=
    .bind (.act (within_query_eq _ _ _)) fun _ => .pure _
  dsimp only
  split
  · exact .bind (.pure _) hrows
  · exact .bind (.act (Action.within_map _ (Action.within_lift _))) hrows

theorem steady_listActivities (r : Request) : Steady part (listActivities r) :=
  .bind (steady_authenticate r) fun _ => .bind (.validate _) fun _ =>
    .bind (.act (within_query_eq _ _ _)) fun _ => .pure _

/-- The flows of the rows that an endpoint appends and shows, if it is one that moves money. -/
def Endpoint.flows? : Endpoint → Option (List Transaction.Flow)
  | .fund => some [.credit]
  | .fundUser => some [.credit]
  | .convert => some [.debit, .credit]
  | .trade => some [.debit, .credit]
  | _ => none

/-- The other endpoints leave the session alone. -/
theorem steady_answerAt (c : Configuration) (r : Request) {e : Endpoint} (he : e.flows? = none) :
    Steady part (answerAt c r e) := by
  cases e with
  | wallets => exact steady_listWallets r
  | transactions =>
    exact .bind (steady_authenticate r) fun _ => .bind (.validate _) steady_listingPage
  | transaction id => exact steady_showTransaction r id
  | activities => exact steady_listActivities r
  | allTransactions =>
    exact .bind (steady_authenticateAdmin r) fun _ => .bind (.validate _) steady_listingPage
  | allWallets => exact steady_listAllWallets r
  | fund => cases he
  | convert => cases he
  | trade => cases he
  | fundUser => cases he
  | _ => exact .pure _

end

/-! ### Endpoints that move money -/

/-- What an endpoint shows of a call that succeeded. -/
def callDocument : Operation.Answer → Value
  | .funded x => x.document
  | .converted e => e.document
  | .traded action e => Operation.tradeDocument action e

/-- Makes a call, writes down what it announced, and shows what came of it. -/
def pay (call : Call) (o : Operation.Options) : Handler Answer := do
  let x ← Handler.act (call.run o)
  Handler.recordAnnounced
  return .ok (callDocument x)

theorem act_map (f : α → β) (a : Action Session α) :
    Handler.act (f <$> a) = f <$> Handler.act a := by
  refine funext fun s => ?_
  have hact : (Handler.act (f <$> a)).on s = _ := run_act (f <$> a) s
  have hmap : (f <$> Handler.act a).on s = (Handler.act a >>= fun x => pure (f x)).on s := by
    rw [map_eq_pure_bind]
  have hon : (Handler.act a).on s = _ := run_act a s
  rw [Handler.on_bind, hon] at hmap
  refine hact.trans (Eq.trans ?_ hmap.symm)
  rw [Action.on_map]
  cases (a.on s.session).1 <;> rfl

/--
Whose money a request moves at an endpoint: the sender's, or that of the user whom an administrator
names in the order.
-/
def payee? (r : Request) (now : Moment) : Endpoint → Option Int
  | .fundUser => do
    let body ← (readDocument r).toOption
    let order ← (readOrder FundUserOrder.read body).toOption
    return order.userId
  | _ => (senderId r now).toOption

/-- The flows of the rows that a call appends. -/
def callFlows : Call → List Transaction.Flow
  | .fund .. => [.credit]
  | _ => [.debit, .credit]

/-- A call that a request may ask for at an endpoint. -/
structure Asks (r : Request) (now : Moment) (e : Endpoint) (call : Call) : Prop where
  payee : payee? r now e = some call.userId
  flows : e.flows? = some (callFlows call)

/--
From a service a handler refuses without having touched the session, or it comes down to one call on
the session as it is.
-/
inductive Pays (P : Call → Prop) (h : Handler Answer) (s : Service) : Prop
  | refused {a : Answer} {t : Service} (hanswer : h.on s = (.error a, t))
    (hrefusal : a.isSuccess = false) (hsame : t.session = s.session)
  | paid {call : Call} {o : Operation.Options} {t : Service} (hcall : P call)
    (hsame : t.session = s.session) (hanswer : h.on s = (pay call o).on t)

namespace Pays

variable {α : Type} {P : Call → Prop} {s : Service}

theorem stop {a : Answer} (h : a.isSuccess = false) : Pays P (Handler.stop a) s :=
  .refused rfl h rfl

/-- A call whose answer is rewritten before it is shown. -/
theorem call {call : Call} (h : P call) {o : Operation.Options} {f : α → Operation.Answer}
    {a : Action Session α} (hrun : call.run o = f <$> a) :
    Pays P (do
      let x ← Handler.act a
      Handler.recordAnnounced
      return .ok (callDocument (f x))) s := by
  refine .paid h rfl (o := o) ?_
  rw [pay, hrun, act_map, bind_map_left]

/-- What comes before the call touches nothing and may refuse. -/
theorem bind {h : Handler α} {f : α → Handler Answer} (hh : Steady Service.session h)
    (hf : ∀ x t, h.on s = (.ok x, t) → t.session = s.session → Pays P (f x) t) :
    Pays P (h >>= f) s := by
  obtain ⟨hsame, hrefused⟩ := hh s
  have hbind := Handler.on_bind h f s
  rcases hr : h.on s with ⟨a | x, t⟩
  all_goals rw [hr] at hsame hrefused hbind
  · exact .refused hbind (hrefused a rfl) hsame
  · cases hf x t hr hsame with
    | refused hanswer hrefusal hsame' =>
      exact .refused (hbind.trans hanswer) hrefusal (hsame'.trans hsame)
    | paid hcall hsame' hanswer =>
      exact .paid hcall (hsame'.trans hsame) (hbind.trans hanswer)

theorem withBody {r : Request} {f : Option Value → Handler Answer}
    (hf : ∀ v, readDocument r = .ok v → Pays P (f v) s) : Pays P (withBody r f) s := by
  rw [Http.withBody]
  cases hbody : readDocument r with
  | ok v => exact hf v hbody
  | error a => exact .stop (refused_of_readDocument hbody)

end Pays

theorem order_of_takeOrder {read : List (String × Value) → Checked α} {body : Option Value}
    {s t : Service} {x : α} (h : (takeOrder read body).on s = (.ok x, t)) :
    readOrder read body = .ok x := by
  rw [takeOrder] at h
  split at h
  · rename_i y hy
    cases h
    exact hy
  · cases h

section

variable (c : Configuration) (r : Request) (body : Option Value) (s : Service)

theorem pays_fund : Pays (Asks r s.session.clock .fund) (fund c r body) s := by
  refine .bind (steady_authenticate r) fun u _ hu _ => ?_
  refine .bind (steady_takeOrder _ _) fun order _ _ _ => ?_
  refine .bind (steady_countRequest (fun _ _ => rfl) _ _) fun _ _ _ _ => ?_
  have hasks : Asks r s.session.clock .fund
      (.fund u.id (.int order.amount) (.text order.currency)) :=
    ⟨congrArg Except.toOption (isSender_of_authenticate hu).named, rfl⟩
  exact .call hasks rfl

theorem pays_convert : Pays (Asks r s.session.clock .convert) (convert c r body) s := by
  refine .bind (steady_authenticate r) fun u _ hu _ => ?_
  refine .bind (steady_rateProvider c) fun provider _ _ _ => ?_
  refine .bind (steady_takeOrder _ _) fun order _ _ _ => ?_
  refine .bind (steady_countRequest (fun _ _ => rfl) _ _) fun _ _ _ _ => ?_
  refine .bind (steady_askRate (fun _ _ => rfl) _ _ _) fun rates _ _ _ => ?_
  have hasks : Asks r s.session.clock .convert
      (.convert rates u.id (.text order.source) (.text order.target) (.int order.amount)) :=
    ⟨congrArg Except.toOption (isSender_of_authenticate hu).named, rfl⟩
  exact .call hasks rfl

theorem pays_trade : Pays (Asks r s.session.clock .trade) (trade c r body) s := by
  refine .bind (steady_authenticate r) fun u _ hu _ => ?_
  refine .bind (steady_rateProvider c) fun provider _ _ _ => ?_
  refine .bind (steady_takeOrder _ _) fun order _ _ _ => ?_
  refine .bind (steady_countRequest (fun _ _ => rfl) _ _) fun _ _ _ _ => ?_
  refine .bind (steady_askRate (fun _ _ => rfl) _ _ _) fun rates _ _ _ => ?_
  have hasks : Asks r s.session.clock .trade
      (.trade rates u.id (.text order.base) (.text order.quote) (.int order.amount)
        (.text order.action.text)) :=
    ⟨congrArg Except.toOption (isSender_of_authenticate hu).named, rfl⟩
  exact .call hasks rfl

theorem pays_fundUser (hbody : readDocument r = .ok body) :
    Pays (Asks r s.session.clock .fundUser) (fundUser c r body) s := by
  refine .bind (steady_authenticateAdmin r) fun admin _ _ _ => ?_
  refine .bind (steady_takeOrder _ _) fun order t horder _ => ?_
  refine .bind (.act (within_query_eq _ _ _)) fun found z hfound _ => ?_
  cases found with
  | none => exact .stop rfl
  | some u =>
    obtain ⟨-, -, -, huser, -⟩ := Session.on_query_eq_ok.1 (act_eq_ok hfound)
    have hid : u.id = order.userId := by simpa using List.find?_some huser
    have hasks : Asks r s.session.clock .fundUser
        (.fund u.id (.int order.amount) (.text order.currency)) := by
      refine ⟨?_, rfl⟩
      simp [payee?, hbody, order_of_takeOrder horder, Except.toOption, Call.userId, hid]
    exact .call hasks rfl

/-- At each of these endpoints a request is refused or comes down to one call. -/
theorem pays_answerAt {e : Endpoint} (he : e.flows?.isSome = true) :
    Pays (Asks r s.session.clock e) (answerAt c r e) s := by
  cases e with
  | fund => exact .withBody fun v _ => pays_fund c r v s
  | convert => exact .withBody fun v _ => pays_convert c r v s
  | trade => exact .withBody fun v _ => pays_trade c r v s
  | fundUser => exact .withBody fun v hv => pays_fundUser c r v s hv
  | _ => cases he

end

/-! ### The money of a session -/

/-- A session between requests: nothing is pending, the tables are lawful, and no rival is near. -/
structure Ready (s : Session) : Prop where
  settled : Settled s
  lawful : s.committed.Lawful
  rival : s.rival = none

/-- The wallets and transactions of the store are the same, whatever became of its activities. -/
structure SameMoney (s t : Session) : Prop where
  wallets : t.committed.wallets = s.committed.wallets
  transactions : t.committed.transactions = s.committed.transactions
  ready : Ready s → Ready t

namespace SameMoney

variable {s t u : Session}

theorem refl (s : Session) : SameMoney s s := ⟨rfl, rfl, id⟩

theorem trans (hst : SameMoney s t) (htu : SameMoney t u) : SameMoney s u :=
  ⟨htu.wallets.trans hst.wallets, htu.transactions.trans hst.transactions, htu.ready ∘ hst.ready⟩

theorem lawful_congr {a b : Tables} (ha : a.Lawful) (hw : b.wallets = a.wallets)
    (hx : b.transactions = a.transactions) : b.Lawful := by
  constructor
  · exact hw ▸ ha.walletIds
  · exact hw ▸ ha.owners
  · exact hw ▸ ha.balances
  · exact hx ▸ ha.transactionIds
  · exact hx ▸ ha.references

/-- Writing an event down is no movement of money. -/
theorem recordEvent (e : Event) (s : Session) : SameMoney s (s.recordEvent e) := by
  rw [Session.recordEvent, Session.recordActivity]
  split
  · exact .refl s
  · refine ⟨rfl, rfl, fun h => ⟨⟨?_, h.settled.aborted⟩, lawful_congr h.lawful rfl rfl, h.rival⟩⟩
    show s.working.insertActivity _ = s.committed.insertActivity _
    rw [h.settled.working]

theorem recordEvents (es : List Event) (s : Session) :
    SameMoney s (es.foldl (fun t e => t.recordEvent e) s) := by
  induction es generalizing s with
  | nil => exact .refl s
  | cons e es ih => exact (recordEvent e s).trans (ih _)

/-- A handler that writes down what was announced. -/
theorem recordAnnounced (s : Service) :
    ∃ t, Handler.recordAnnounced.on s = (.ok (), t) ∧ SameMoney s.session t.session := by
  refine ⟨_, rfl, ?_⟩
  have hforgotten : SameMoney s.session { s.session with announcements := [] } :=
    ⟨rfl, rfl, fun h => ⟨⟨h.settled.working, h.settled.aborted⟩, h.lawful, h.rival⟩⟩
  exact hforgotten.trans (recordEvents _ _)

end SameMoney

theorem rival_of_sameUnit {s t : Session} (h : Session.SameUnit s t) (hr : s.rival = none) :
    t.rival = none := by
  rcases h.rival with ⟨hsame, -⟩ | ⟨r, hcame, -⟩
  · exact hsame.trans hr
  · rw [hr] at hcame
    cases hcame

/-- A call that fails moves no money. -/
theorem sameMoney_of_failed {call : Call} {o : Operation.Options} {s t : Session} {f : Failure}
    (hr : s.rival = none) (h : (call.run o).on s = (.error f, t)) : SameMoney s t := by
  rcases Call.on_run_eq_error.1 h with ⟨-, rfl⟩ | ⟨order, -, hcarry⟩
  · exact .refl _
  · obtain ⟨u, hu, rfl⟩ := order.on_carryOut_eq_error hcarry
    have hcommitted := hu.upholds.committed (Session.shared_of_none hr)
    refine ⟨congrArg Tables.wallets hcommitted, congrArg Tables.transactions hcommitted,
      fun hs => ⟨⟨rfl, rfl⟩, ?_, ?_⟩⟩
    · exact hcommitted ▸ hs.lawful
    · have hnone := rival_of_sameUnit hu hs.rival
      exact hnone

/-- The rows that a call has appended account for what it has done. -/
structure Accounted (userId : Int) (flows : List Transaction.Flow) (rows : List Transaction)
    (s t : Session) : Prop where
  users : ∀ x ∈ rows, x.userId = userId
  flows : rows.map (·.flow) = flows
  booked : s.committed.Booked rows t.committed
  ready : Ready t

/-- What has become of the money before does not depend on what is no money. -/
theorem Accounted.of_sameMoney {userId : Int} {flows : List Transaction.Flow}
    {rows : List Transaction} {s t u : Session} (h : Accounted userId flows rows s t)
    (htu : SameMoney t u) : Accounted userId flows rows s u where
  users := h.users
  flows := h.flows
  booked := h.booked.congr htu.wallets htu.transactions
  ready := htu.ready h.ready

/-- The flows of an order are those of the call that asked for it. -/
theorem flows_of_performed {call : Call} {order : Order} {now : Moment} {userId : Int}
    {sessionId : String} {a b : Tables} {rows : List Transaction} (horder : call.order = .ok order)
    (h : order.Performed now userId sessionId a b rows) : rows.map (·.flow) = callFlows call := by
  have hgives := Call.gives_of_order horder
  cases h with
  | funding provided leg new =>
    cases hgives
    simp [callFlows, leg.flow]
  | exchange hplan debit provided credit newDebit newCredit =>
    cases hgives with
    | fund => cases hplan
    | convert => simp [callFlows, debit.flow, credit.flow]
    | trade => simp [callFlows, debit.flow, credit.flow]

/-- A call that succeeds is accounted for by the rows of its answer. -/
theorem accounted_of_run {call : Call} {o : Operation.Options} {s t : Session}
    {x : Operation.Answer} (hs : Ready s) (h : (call.run o).on s = (.ok x, t)) :
    Accounted call.userId (callFlows call) x.rows s t := by
  have hworking : s.working = s.committed := hs.settled.working
  have hlawful : s.working.Lawful := hworking ▸ hs.lawful
  have hrival : Operation.RivalFits s := fun r hr => by
    rw [hs.rival] at hr
    cases hr
  obtain ⟨order, horder, hperformed, -⟩ := Call.performed_of_run hlawful hs.rival h
  obtain ⟨hsettled, -⟩ := Call.done_of_run hlawful hrival h
  rw [hworking] at hperformed
  refine ⟨hperformed.userId_of_mem, flows_of_performed horder hperformed, hperformed.booked,
    hsettled, hperformed.lawful hs.lawful, ?_⟩
  obtain ⟨order, -, v, hv, rfl⟩ := Call.on_run_eq_ok.1 h
  obtain ⟨names, u, hmove, -, rfl⟩ := Order.on_carryOut_eq_ok hv
  have hu : Session.SameUnit { s with names } u := by
    simpa [hmove] using order.within_move call.userId s.names.session.1 { s with names }
  have hnone := rival_of_sameUnit hu hs.rival
  exact hnone

/-! ### Answers -/

/-- The documents in a body: both legs of an exchange, or the one that it is. -/
def Body.rows : Body → List Value
  | .document v => match v.field? "debit_transaction", v.field? "credit_transaction" with
    | some debit, some credit => [debit, credit]
    | _, _ => [v]
  | _ => []

/-- What is shown of a call are its rows, each field by field. -/
theorem shown_callDocument (x : Operation.Answer) :
    List.Forall₂ Transaction.Shown x.rows (Body.document (callDocument x)).rows := by
  have hrows : (Body.document (callDocument x)).rows = x.rows.map Transaction.document := by
    cases x <;> rfl
  rw [hrows, List.forall₂_map_right_iff, List.forall₂_same]
  exact fun row _ => row.shown_document

theorem on_pay {call : Call} {o : Operation.Options} {s t : Service} {r : Except Answer Answer}
    (hr : s.session.rival = none) (h : (pay call o).on s = (r, t)) :
    (∃ f, r = .error (.ofFailure f) ∧ SameMoney s.session t.session) ∨
      ∃ x u, (call.run o).on s.session = (.ok x, u) ∧ r = .ok (.ok (callDocument x)) ∧
        SameMoney u t.session := by
  have hact : (Handler.act (call.run o)).on s = _ := run_act (call.run o) s
  rw [pay, Handler.on_bind, hact] at h
  rcases hrun : (call.run o).on s.session with ⟨f | x, u⟩
  all_goals rw [hrun] at h
  · cases h
    exact .inl ⟨f, rfl, sameMoney_of_failed hr hrun⟩
  · obtain ⟨t', hrecord, hsame⟩ := SameMoney.recordAnnounced { s with session := u }
    dsimp only [Except.mapError] at h
    rw [Handler.on_bind, hrecord] at h
    cases h
    exact .inr ⟨x, u, rfl, rfl, hsame⟩

/-- What a request has done, and what its answer says of it. -/
inductive Served (r : Request) (s : Service) (a : Answer) (t : Service) : Prop
  | still (hsame : SameMoney s.session t.session)
    (hanswer : a.isSuccess = true → ∀ e, route r.method r.target.path = .endpoint e →
      e.flows? = none)
  | paid {e : Endpoint} {flows : List Transaction.Flow} {userId : Int} {rows : List Transaction}
    (hroute : route r.method r.target.path = .endpoint e) (hflows : e.flows? = some flows)
    (hpayee : payee? r s.session.clock e = some userId) (hsuccess : a.isSuccess = true)
    (hshown : List.Forall₂ Transaction.Shown rows a.body.rows)
    (haccounted : Accounted userId flows rows s.session t.session)

/-- A route leads to the endpoint of its path, if that answers the method. -/
theorem route_eq_endpoint {method path : String} {e : Endpoint}
    (h : route method path = .endpoint e) :
    Endpoint.ofPath? path = some e ∧ e.accepts method = true := by
  rw [route] at h
  split at h
  · rename_i e' he'
    split_ifs at h with haccepts
    cases h
    exact ⟨he', haccepts⟩
  · split_ifs at h

/-- An endpoint that moves money is reached by one method only. -/
theorem method_of_flows {method path : String} {e : Endpoint}
    (h : route method path = .endpoint e) (he : e.flows?.isSome = true) : method = "POST" := by
  obtain ⟨-, haccepts⟩ := route_eq_endpoint h
  obtain ⟨hpost, hpage⟩ : e.method = "POST" ∧ (e == .manual) = false := by
    cases e <;> first | exact ⟨rfl, rfl⟩ | cases he
  rw [Endpoint.accepts, hpost, hpage] at haccepts
  exact (eq_of_beq (by simpa using haccepts)).symm

theorem isSuccess_trimBody (method : String) (a : Answer) :
    (trimBody method a).isSuccess = a.isSuccess := by
  rw [trimBody]
  split_ifs <;> rfl

/-- Nothing comes before an endpoint that moves money. -/
theorem handle_of_flows (c : Configuration) {r : Request} {e : Endpoint}
    (hroute : route r.method r.target.path = .endpoint e) (he : e.flows?.isSome = true) :
    handle c r = answerAt c r e := by
  rw [handle, hroute, preflight?, method_of_flows hroute he]
  rfl

/-- A request that reaches no endpoint that moves money moves none. -/
theorem steady_handle {γ : Type} {part : Service → γ} (c : Configuration) {r : Request}
    (hroute : ∀ e, route r.method r.target.path = .endpoint e → e.flows? = none) :
    Steady part (handle c r) := by
  rw [handle]
  split
  · exact .pure _
  · split
    · rename_i e he
      exact steady_answerAt c r (hroute e he)
    · exact .pure _
    · exact .pure _
    · exact .pure _

/-- A request is for no endpoint that moves money, or is handled at one. -/
theorem handle_cases (c : Configuration) (r : Request) :
    (∀ e, route r.method r.target.path = .endpoint e → e.flows? = none) ∨
      ∃ e, route r.method r.target.path = .endpoint e ∧ e.flows?.isSome = true ∧
        handle c r = answerAt c r e := by
  by_cases hroute : ∀ e, route r.method r.target.path = .endpoint e → e.flows? = none
  · exact .inl hroute
  · simp only [not_forall] at hroute
    obtain ⟨e, hroute, he⟩ := hroute
    have hsome := Option.isSome_iff_ne_none.2 he
    exact .inr ⟨e, hroute, hsome, handle_of_flows c hroute hsome⟩

/-- An endpoint that moves money answers what its call ends with. -/
theorem served_of_pays {r : Request} {s : Service} {e : Endpoint}
    (hroute : route r.method r.target.path = .endpoint e) {flows : List Transaction.Flow}
    (hflows : e.flows? = some flows) {h : Handler Answer}
    (hs : Ready s.session) (hpays : Pays (Asks r s.session.clock e) h s) :
    Served r s (trimBody r.method (match (h.on s).1 with | .ok a => a | .error a => a))
      (h.on s).2 := by
  have hpost : r.method = "POST" := method_of_flows hroute (hflows ▸ rfl)
  rw [hpost]
  cases hpays with
  | refused hanswer hrefusal hsame =>
    rw [hanswer]
    refine .still (hsame ▸ .refl _) fun hsuccess => ?_
    rw [isSuccess_trimBody, hrefusal] at hsuccess
    cases hsuccess
  | @paid call o t hcall hsame hanswer =>
    rw [hanswer]
    rcases hpay : (pay call o).on t with ⟨result, u⟩
    have hnone : t.session.rival = none := by
      rw [hsame]
      exact hs.rival
    rcases on_pay hnone hpay with ⟨f, rfl, hmoney⟩ | ⟨x, v, hrun, rfl, hmoney⟩
    · refine .still (hsame ▸ hmoney) fun hsuccess => ?_
      rw [isSuccess_trimBody, isSuccess_ofFailure] at hsuccess
      cases hsuccess
    · rw [hsame] at hrun
      refine .paid hroute hflows hcall.payee (isSuccess_trimBody ..) (shown_callDocument x) ?_
      obtain rfl := Option.some.inj (hflows.symm.trans hcall.flows)
      exact (accounted_of_run hs hrun).of_sameMoney hmoney

/-- The answer is what the handler ends with, early or not. -/
theorem serve_eq_trimBody (c : Configuration) (r : Request) (s : Service) :
    serve c r s = (trimBody r.method (match ((handle c r).on s).1 with
      | .ok a => a
      | .error a => a), ((handle c r).on s).2) := by
  rw [serve]
  rcases (handle c r).on s with ⟨a | a, t⟩ <;> rfl

theorem served_of_serve (c : Configuration) (r : Request) {s : Service} (hs : Ready s.session) :
    Served r s (serve c r s).1 (serve c r s).2 := by
  rw [serve_eq_trimBody]
  rcases handle_cases c r with hroute | ⟨e, hroute, hsome, hhandle⟩
  · have hsteady : Steady Service.session (handle c r) := steady_handle c hroute
    exact .still ((hsteady s).1 ▸ .refl _) fun _ => hroute
  · obtain ⟨flows, hflows⟩ := Option.isSome_iff_exists.1 hsome
    rw [hhandle]
    exact served_of_pays hroute hflows hs (pays_answerAt c r s hsome)

/-- Whatever a request has done is accounted for by rows, and leaves the session ready for more. -/
theorem Served.booked {r : Request} {s t : Service} {a : Answer} (h : Served r s a t)
    (hs : Ready s.session) :
    Ready t.session ∧ ∃ rows, s.session.committed.Booked rows t.session.committed := by
  cases h with
  | still hsame hanswer =>
    exact ⟨hsame.ready hs, [], (Tables.Booked.refl _).congr hsame.wallets hsame.transactions⟩
  | paid hroute hflows hpayee hsuccess hshown haccounted =>
    exact ⟨haccounted.ready, _, haccounted.booked⟩

/-- The service after requests, one after the other. -/
def serveAll (c : Configuration) (rs : List Request) (s : Service) : Service :=
  rs.foldl (fun t r => (serve c r t).2) s

/-- So are any number of requests, whatever they are. -/
theorem booked_of_serveAll (c : Configuration) (rs : List Request) {s : Service}
    (hs : Ready s.session) : Ready (serveAll c rs s).session ∧
      ∃ rows, s.session.committed.Booked rows (serveAll c rs s).session.committed := by
  induction rs generalizing s with
  | nil => exact ⟨hs, [], .refl _⟩
  | cons r rs ih =>
    obtain ⟨hready, rows, hbooked⟩ := (served_of_serve c r hs).booked hs
    obtain ⟨hready', rows', hbooked'⟩ := ih hready
    exact ⟨hready', rows ++ rows', hbooked.trans hbooked'⟩

/-- What an answer says of the ledger, for a request and the services before and after it. -/
structure Reflects (r : Request) (s : Service) (a : Answer) (t : Service) : Prop where
  ready : Ready t.session
  unchanged : r.method = "GET" ∨ a.isSuccess = false →
    t.session.committed.wallets = s.session.committed.wallets ∧
      t.session.committed.transactions = s.session.committed.transactions
  shown : ∀ e flows, route r.method r.target.path = .endpoint e → e.flows? = some flows →
    a.isSuccess = true → ∃ userId rows, payee? r s.session.clock e = some userId ∧
      List.Forall₂ Transaction.Shown rows a.body.rows ∧ rows.map (·.flow) = flows ∧
      (∀ x ∈ rows, x.userId = userId) ∧ s.session.committed.Booked rows t.session.committed

/--
Answers reflect the ledger. Whatever is requested: a request that only asks, and one that is
answered with anything but success, leaves wallets and transactions as they are. Success at an
endpoint that moves money shows the very rows that were appended, one credit or a debit and a
credit; they are of the user whose money was to be moved, and they account for every balance.
-/
theorem answers_reflect_ledger (c : Configuration) (r : Request) {s : Service}
    (hs : Ready s.session) : Reflects r s (serve c r s).1 (serve c r s).2 := by
  cases served_of_serve c r hs with
  | still hsame hanswer =>
    refine ⟨hsame.ready hs, fun _ => ⟨hsame.wallets, hsame.transactions⟩,
      fun e flows hroute hflows hsuccess => ?_⟩
    rw [hanswer hsuccess e hroute] at hflows
    cases hflows
  | paid hroute hflows hpayee hsuccess hshown haccounted =>
    obtain ⟨husers, hrows, hbooked, hready⟩ := haccounted
    refine ⟨hready, fun hquiet => ?_, fun e flows hroute' hflows' _ => ?_⟩
    · have hpost : r.method = "POST" := method_of_flows hroute (by rw [hflows]; rfl)
      rcases hquiet with hget | hfailed
      · rw [hpost] at hget
        exact absurd hget (by decide)
      · rw [hsuccess] at hfailed
        cases hfailed
    · obtain rfl := Route.endpoint.inj (hroute.symm.trans hroute')
      obtain rfl := Option.some.inj (hflows.symm.trans hflows')
      exact ⟨_, _, hpayee, hshown, hrows, husers, hbooked⟩

/-- A service on a store with one user, who has a purse of a thousand kobo. -/
def counter : Service where
  session := .ofTables { users := [{ id := 1 }], wallets := [Operation.purse] }
    ⟨⟨2024, 1, 15⟩, 12, 0, 0⟩

/-- Two kobo for a dollar. -/
def twoForOne : Configuration where
  appName := .text "ledger"
  rates := { staticRates := .text "USD:1,NGN:2" }

/-- The user asks for dollars. -/
def exchangeRequest : Request where
  method := "POST"
  target := ⟨"/api/v1/wallets/convert", []⟩
  body := "\x7b\"from_currency\": \"NGN\", \"to_currency\": \"USD\", \"amount\": 300\x7d"
  credentials := .token ⟨[("sub", .text "1"), ("type", .text "access")], true⟩

/-- Rates come from an online service. -/
def askingOnline : Configuration where
  appName := .text "ledger"
  rates := { provider := .text "currencyapi", apiKey := .text "key" }

/-- The user asks for dollars, and the service of rates says the same of them. -/
def quotedRequest : Request :=
  { exchangeRequest with
    rateReply := .answered 200 "\x7b\"data\": \x7b\"NGN\": \x7b\"value\": 2\x7d\x7d\x7d" }

/-- The fields of a document, each in its plain form. -/
def fieldTexts : Value → List String
  | .object fields => fields.map fun f => f.2.plain
  | _ => []

/-- What is shown of the exchange. -/
def shownExchange : List (List String) :=
  [["t1", "CNV_00000000000000000001", "SES_000000000000000000000001", "1", "purse", "NGN", "300",
      "debit", "conversion", "completed", "0.50000000", "Currency conversion: NGN to USD", "None",
      "False", "2024-01-15T12:00:00", "2024-01-15T12:00:00"],
    ["t2", "CNV_00000000000000000002", "SES_000000000000000000000001", "1", "w1", "USD", "150",
      "credit", "conversion", "completed", "0.50000000", "Currency conversion: NGN to USD", "None",
      "False", "2024-01-15T12:00:00", "2024-01-15T12:00:00"]]

theorem exchange_answer_reflects_ledger :
    Ready counter.session ∧
      route exchangeRequest.method exchangeRequest.target.path = .endpoint .convert ∧
      (serve twoForOne exchangeRequest counter).1.isSuccess = true ∧
      (serve twoForOne exchangeRequest counter).1.body.rows.map fieldTexts = shownExchange ∧
      (serve twoForOne exchangeRequest counter).2.session.committed.wallets.map
        (fun w => (w.currency, w.balance)) = [("NGN", 700), ("USD", 150)] ∧
      Reflects exchangeRequest counter (serve twoForOne exchangeRequest counter).1
        (serve twoForOne exchangeRequest counter).2 ∧
      (serve askingOnline quotedRequest counter).1.body.rows.map fieldTexts = shownExchange ∧
      Reflects quotedRequest counter (serve askingOnline quotedRequest counter).1
        (serve askingOnline quotedRequest counter).2 := by
  have hready : Ready counter.session :=
    ⟨⟨rfl, rfl⟩, by constructor <;> decide +kernel, rfl⟩
  exact ⟨hready, by decide +kernel, by decide +kernel, by decide +kernel, by decide +kernel,
    answers_reflect_ledger twoForOne exchangeRequest hready, by decide +kernel,
    answers_reflect_ledger askingOnline quotedRequest hready⟩

end CurrencyLedger.Http
