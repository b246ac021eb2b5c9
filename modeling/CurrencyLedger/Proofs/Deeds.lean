import CurrencyLedger.Proofs.Atomicity
import CurrencyLedger.Proofs.Codes
import CurrencyLedger.Proofs.Lawful

/-!
What an order does.

An order that is carried out moves money in legs. Funding has one, a credit. An exchange has two, a
debit and then a credit, in two currencies; between them the wallet to credit may be opened. Each
leg is a recorded movement of the user's wallet in its currency, and its row says what the order
wants said. Nothing else happens to the tables, so an order is a sequence of deeds.
-/

namespace CurrencyLedger.Operation

open Session Wallets

/-- The wallet of a rival who is about to come fits its columns. -/
def RivalFits (s : Session) : Prop := ∀ r, s.rival = some r → Column.fits r.balance = true

theorem fits_of_origin {s t : Session} (hs : RivalFits s) {w : Wallet} (h : Origin s t w) :
    Column.fits w.balance = true := by
  rcases h with ⟨name, userId, code, now, -, rfl⟩ | ⟨-, r, hr, rfl⟩
  · exact (by decide : Column.fits (0 : Nat) = true)
  · exact hs r hr

/-- Who has come does not depend on what else was done within the unit of work. -/
theorem opened_of_edited {s s' t t' : Session} (hs : Edited s s') (ht : Edited t t') {a b : Tables}
    (h : Relation.ReflTransGen (Opened (Origin s' t)) a b) :
    Relation.ReflTransGen (Opened (Origin s t')) a b := by
  rw [Edited] at hs ht
  refine Relation.ReflTransGen.mono (fun a b ⟨w, hw, h⟩ => ⟨w, ?_, h⟩) _ _ h
  rcases hw with hw | ⟨hn, r, hr, rfl⟩
  · exact .inl hw
  · rw [hs] at hn hr ⊢
    rw [ht]
    exact .inr ⟨hn, r, hr, rfl⟩

/-- One movement of an order. -/
structure Leg (now : Moment) (userId : Int) (currency : String) (flow : Transaction.Flow)
    (amount : Int) (p : History.Particulars) (w : Wallet) (x : Transaction) (a b : Tables) :
    Prop where
  moved : Moved now w x a b
  userId : w.userId = userId
  currency : w.currency = currency
  flow : x.flow = flow
  amount : (x.amount : Int) = amount
  describes : History.Describes p x

/-- The plan of an exchange; funding has none. -/
def Order.plan? : Order → Option Exchange.Plan
  | .funding .. => none
  | .conversion c => some c.plan
  | .trade t => some t.plan

/-- Whether the currencies of an order are codes, and two that differ where it has two. -/
def Order.Proper : Order → Prop
  | .funding _ code => Currency.isCode code = true
  | .conversion c => c.plan.Distinct
  | .trade t => t.plan.Distinct

theorem Call.proper_order {c : Call} {order : Order} (h : c.order = .ok order) : order.Proper := by
  cases Call.gives_of_order h with
  | fund _ hcode => exact Currency.isCode_of_normalize hcode
  | convert hplan => exact Exchange.distinct_of_planConversion hplan
  | trade hplan => exact Exchange.distinct_of_planTrade hplan

/-- What an order has done to the tables, and the rows that it has written. -/
inductive Order.Done (origin : Wallet → Prop) (now : Moment) (userId : Int) (sessionId : String)
    (a b : Tables) : Order → List Transaction → Prop
  | funding {n : Nat} {code : String} {w : Wallet} {x : Transaction} {c : Tables}
    (opened : Relation.ReflTransGen (Opened origin) a c)
    (leg : Leg now userId code .credit n ((Order.funding n code).particulars sessionId) w x c b) :
    Done origin now userId sessionId a b (.funding n code) [x]
  | exchange {order : Order} {plan : Exchange.Plan} {v w : Wallet} {x y : Transaction}
    {c d : Tables} (hplan : order.plan? = some plan)
    (debit : Leg now userId plan.source .debit plan.debit (order.particulars sessionId) v x a c)
    (opened : Relation.ReflTransGen (Opened origin) c d)
    (credit : Leg now userId plan.target .credit plan.credit (order.particulars sessionId)
      w y d b) :
    Done origin now userId sessionId a b order [x, y]

theorem deed_of_opened {origin : Wallet → Prop} (now : Moment) {a b : Tables}
    (h : Relation.ReflTransGen (Opened origin) a b) :
    Relation.ReflTransGen (Deed origin now) a b :=
  Relation.ReflTransGen.mono (fun _ _ ⟨w, hw, h⟩ => .opening w hw h) _ _ h

theorem Order.Done.deeds {origin : Wallet → Prop} {now : Moment} {userId : Int}
    {sessionId : String} {a b : Tables} {order : Order} {rows : List Transaction}
    (h : order.Done origin now userId sessionId a b rows) :
    Relation.ReflTransGen (Deed origin now) a b := by
  cases h with
  | funding opened leg => exact (deed_of_opened now opened).tail (.movement _ _ leg.moved)
  | exchange hplan debit opened credit =>
    exact (Relation.ReflTransGen.single (.movement _ _ debit.moved)).trans
      ((deed_of_opened now opened).tail (.movement _ _ credit.moved))

/-- Whatever each deed keeps is kept by a sequence of them. -/
theorem kept_of_deeds {origin : Wallet → Prop} {now : Moment} {P : Tables → Prop}
    (hP : ∀ {a b}, P a → Deed origin now a b → P b) {a b : Tables}
    (h : Relation.ReflTransGen (Deed origin now) a b) (ha : P a) : P b := by
  induction h with
  | refl => exact ha
  | tail _ hdeed ih => exact hP ih hdeed

/-- Wallets that are opened leave the tables lawful. -/
theorem lawful_of_opened {s t : Session} (hs : RivalFits s) {a b : Tables} (ha : a.Lawful)
    (h : Relation.ReflTransGen (Opened (Origin s t)) a b) : b.Lawful :=
  kept_of_deeds (Tables.Lawful.deed fun _ => fits_of_origin hs) (deed_of_opened s.clock h) ha

/-- On lawful tables the wallet that moves is the one that was named. -/
theorem eq_of_moved {now : Moment} {v w : Wallet} {x : Transaction} {a b : Tables} (ha : a.Lawful)
    (hv : v ∈ a.wallets) (hid : w.id = v.id) (h : Moved now w x a b) : w = v :=
  Tables.eq_of_id_eq ha.walletIds (Tables.wallet?_eq_some h.found).1 hv hid

/-- A resolved wallet that is credited: what funding does, and what an exchange ends with. -/
theorem on_resolve_credit_eq_ok {userId : Int} {code : String} (hcode : Currency.isCode code = true)
    {amount : Int} {p : History.Particulars} {s t : Session} {x : Transaction} {w : Wallet}
    {u : Session} (ha : s.working.Lawful) (hr : RivalFits s)
    (hresolve : (resolve userId (.text code)).on s = (.ok w, u))
    (hcredit : (credit w.id (.int amount) p).on u = (.ok x, t)) :
    Relation.ReflTransGen (Opened (Origin s t)) s.working u.working ∧
      Leg s.clock userId code .credit amount p w x u.working t.working := by
  obtain ⟨c, hc, hw, hopened⟩ := on_resolve_eq_ok hresolve
  rw [Currency.normalize_text hcode] at hc
  cases hc
  have hu : SameUnit s u := by simpa [hresolve] using within_resolve userId (.text code) s
  have ht : Edited u t := by simpa [hcredit] using within_credit w.id (.int amount) p u
  obtain ⟨hmem, huser, hcurrency⟩ := Tables.walletOf?_eq_some hw
  obtain ⟨v, hid, hmoved, hflow, hamount, hp⟩ := on_credit_eq_ok hcredit
  obtain rfl := eq_of_moved (lawful_of_opened hr ha hopened) hmem hid hmoved
  refine ⟨opened_of_edited (refl_of Edited s) ht hopened, ?_⟩
  rw [hu.clock] at hmoved
  exact ⟨hmoved, huser, hcurrency, hflow, (Amount.ofValue_int_eq_ok.1 hamount).2, hp⟩

/-- A wallet that was found and is debited: what an exchange begins with. -/
theorem leg_of_debit {userId : Int} {code : String} {amount : Int} {p : History.Particulars}
    {s t : Session} {x : Transaction} {v : Wallet} (ha : s.working.Lawful)
    (hfound : s.working.walletOf? userId code = some v)
    (h : (debit v.id (.int amount) p).on s = (.ok x, t)) :
    Leg s.clock userId code .debit amount p v x s.working t.working := by
  obtain ⟨hmem, huser, hcurrency⟩ := Tables.walletOf?_eq_some hfound
  obtain ⟨w, hid, hmoved, hflow, hamount, hp⟩ := on_debit_eq_ok h
  obtain rfl := eq_of_moved ha hmem hid hmoved
  exact ⟨hmoved, huser, hcurrency, hflow, (Amount.ofValue_int_eq_ok.1 hamount).2, hp⟩

/-- The steps of an exchange: debit what was found, credit what is resolved. -/
theorem steps_of_moveLegs {userId : Int} {plan : Exchange.Plan} (hplan : plan.Distinct)
    {p : History.Particulars} {s t : Session} {legs : Legs}
    (h : (moveLegs userId plan p).on s = (.ok legs, t)) :
    ∃ source target u u', s.working.walletOf? userId plan.source = some source ∧
      (debit source.id (.int plan.debit) p).on s = (.ok legs.debit, u) ∧
      (resolve userId (.text plan.target)).on u = (.ok target, u') ∧
      (credit target.id (.int plan.credit) p).on u' = (.ok legs.credit, t) := by
  obtain ⟨found, _, hfind, h⟩ := Action.on_bind_eq_ok.1 h
  obtain ⟨c, hc, -, -, -, hfound, rfl⟩ := on_find_eq_ok.1 hfind
  rw [Currency.normalize_text hplan.source] at hc
  cases hc
  cases found with
  | none => simp at h
  | some source =>
    obtain ⟨x, u, hdebit, h⟩ := Action.on_bind_eq_ok.1 h
    obtain ⟨target, u', hresolve, h⟩ := Action.on_bind_eq_ok.1 h
    obtain ⟨y, t', hcredit, h⟩ := Action.on_bind_eq_ok.1 h
    cases h
    exact ⟨source, target, u, u', hfound, hdebit, hresolve, hcredit⟩

/-- The two legs of an exchange, with the wallets that are opened between them. -/
theorem on_moveLegs_eq_ok {userId : Int} {plan : Exchange.Plan} (hplan : plan.Distinct)
    {p : History.Particulars} {s t : Session} {legs : Legs} (ha : s.working.Lawful)
    (hr : RivalFits s) (h : (moveLegs userId plan p).on s = (.ok legs, t)) :
    ∃ v w c d, Leg s.clock userId plan.source .debit plan.debit p v legs.debit s.working c ∧
      Relation.ReflTransGen (Opened (Origin s t)) c d ∧
      Leg s.clock userId plan.target .credit plan.credit p w legs.credit d t.working := by
  obtain ⟨source, target, u, u', hfound, hdebit, hresolve, hcredit⟩ := steps_of_moveLegs hplan h
  have hleg := leg_of_debit ha hfound hdebit
  have hu : Edited s u := by simpa [hdebit] using within_debit source.id (.int plan.debit) p s
  have hr' : RivalFits u := by
    rw [Edited] at hu
    rw [hu]
    exact hr
  obtain ⟨hopened, hcredited⟩ :=
    on_resolve_credit_eq_ok hplan.target (ha.moved hleg.moved) hr' hresolve hcredit
  rw [hu.sameUnit.clock] at hcredited
  exact ⟨source, target, u.working, u'.working, hleg,
    opened_of_edited hu (refl_of Edited _) hopened, hcredited⟩

/-- An order whose money has been moved is done, and has written the rows of its answer. -/
theorem Order.on_move_eq_ok {order : Order} (hproper : order.Proper) {userId : Int}
    {sessionId : String} {s t : Session} {answer : Answer} (ha : s.working.Lawful)
    (hr : RivalFits s) (h : (order.move userId sessionId).on s = (.ok answer, t)) :
    order.Done (Origin s t) s.clock userId sessionId s.working t.working answer.rows := by
  cases order with
  | funding n code =>
    obtain ⟨w, u, hresolve, h⟩ := Action.on_bind_eq_ok.1 h
    obtain ⟨x, t', hcredit, h⟩ := Action.on_bind_eq_ok.1 h
    cases h
    obtain ⟨hopened, hleg⟩ := on_resolve_credit_eq_ok hproper ha hr hresolve hcredit
    exact .funding hopened hleg
  | conversion c =>
    obtain ⟨legs, hlegs, rfl⟩ : ∃ legs, (moveLegs userId c.plan
        ((Order.conversion c).particulars sessionId)).on s = (.ok legs, t) ∧
        .converted (exchanged c.plan legs) = answer := by
      simpa only [move, Action.on_map_eq_ok] using h
    obtain ⟨v, w, a, b, hdebit, hopened, hcredit⟩ := on_moveLegs_eq_ok hproper ha hr hlegs
    exact .exchange rfl hdebit hopened hcredit
  | trade q =>
    obtain ⟨legs, hlegs, rfl⟩ : ∃ legs, (moveLegs userId q.plan
        ((Order.trade q).particulars sessionId)).on s = (.ok legs, t) ∧
        .traded q.action (exchanged q.plan legs) = answer := by
      simpa only [move, Action.on_map_eq_ok] using h
    obtain ⟨v, w, a, b, hdebit, hopened, hcredit⟩ := on_moveLegs_eq_ok hproper ha hr hlegs
    exact .exchange rfl hdebit hopened hcredit

/-! ### What the rows of an exchange say -/

/-- What the legs of an exchange remark: nothing of a conversion, its action of a trade. -/
inductive RemarksOn : Transaction.Kind → Value → Prop
  | conversion : RemarksOn .conversion .null
  | trade (action : TradeAction) : RemarksOn .trade (.object [("action", .text action.text)])

/-- What the rows of an exchange say beside wallet and amount. -/
structure SaysOfExchange (sessionId : String) (p : History.Particulars) : Prop where
  session : p.sessionId = .text sessionId
  description : ∃ s, s ≠ "" ∧ p.description = .text s
  remarksOn : ∃ v, History.keptRemarks p.remarks = .ok v ∧ RemarksOn p.kind v

theorem append_ne_empty {s : String} (h : s ≠ "") (t : String) : s ++ t ≠ "" :=
  fun heq => h (String.append_eq_empty_iff.1 heq).1

theorem saysOfExchange {order : Order} {plan : Exchange.Plan} (h : order.plan? = some plan)
    (sessionId : String) : SaysOfExchange sessionId (order.particulars sessionId) := by
  cases order with
  | funding n code => cases h
  | conversion c =>
    have hne : conversionDescription c.plan ≠ "" :=
      append_ne_empty (append_ne_empty (append_ne_empty (by simp) _) _) _
    exact ⟨rfl, ⟨_, hne, rfl⟩, .null, rfl, .conversion⟩
  | trade t =>
    have hne : tradeDescription t ≠ "" :=
      append_ne_empty (append_ne_empty (append_ne_empty (append_ne_empty (append_ne_empty
        (by simp) _) _) _) _) _
    exact ⟨rfl, ⟨_, hne, rfl⟩, tradeRemarks t, rfl, .trade t.action⟩

end CurrencyLedger.Operation
