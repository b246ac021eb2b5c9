import CurrencyLedger.Operation
import CurrencyLedger.Proofs.Movements
import CurrencyLedger.Proofs.Units

/-!
Calls of the operations.

Funding, converting and trading have one shape. A `Call` is first checked and sized without looking
at the session; what comes of that is an `Order`. The order is carried out in one unit of work, and
what was done is announced. So a call is refused before its unit of work opens exactly when it gives
no order.
-/

namespace CurrencyLedger.Operation

/-- A call of an operation, with its arguments. -/
inductive Call where
  | fund (userId : Int) (amount currency : Value)
  | convert (rates : Exchange.RateSource) (userId : Int) (source target amount : Value)
  | trade (rates : Exchange.RateSource) (userId : Int) (base quote amount action : Value)

/-- What a call asks for, once it has been checked and sized. -/
inductive Order where
  | funding (amount : Nat) (currency : String)
  | conversion (c : Exchange.Conversion)
  | trade (t : Exchange.Trade)

/-- What a call answers. -/
inductive Answer where
  | funded (x : Transaction)
  | converted (e : Exchanged)
  | traded (action : TradeAction) (e : Exchanged)

/-- The rows that an answer shows, in the order in which they were written. -/
def Answer.rows : Answer → List Transaction
  | .funded x => [x]
  | .converted e => [e.legs.debit, e.legs.credit]
  | .traded _ e => [e.legs.debit, e.legs.credit]

namespace Call

/-- The user whose money a call moves. -/
def userId : Call → Int
  | .fund userId _ _ => userId
  | .convert _ userId _ _ _ => userId
  | .trade _ userId _ _ _ _ => userId

/-- Makes the call. -/
def run (o : Options) : Call → Action Session Answer
  | .fund userId amount currency => .funded <$> Operation.fund userId amount currency o
  | .convert rates userId source target amount =>
    .converted <$> Operation.convert rates userId source target amount o
  | .trade rates userId base quote amount action =>
    (fun p => .traded p.1 p.2) <$> Operation.trade rates userId base quote amount action o

/-- Checks and sizes the call. -/
def order : Call → Except Failure Order
  | .fund _ amount currency => do
    let amount ← ofLedger (Amount.ofValue amount)
    let currency ← ofLedger (Currency.normalize currency)
    return .funding amount currency
  | .convert rates _ source target amount =>
    .conversion <$> Exchange.planConversion rates source target amount
  | .trade rates _ base quote amount action =>
    .trade <$> Exchange.planTrade rates base quote amount action

end Call

namespace Order

/-- Names the session that the rows of an exchange share; funding needs none. -/
def enter : Order → Action Session String
  | .funding .. => pure ""
  | _ => Session.draw Names.session

/-- What the rows of an order say beside wallet and amount. -/
def particulars (sessionId : String) : Order → History.Particulars
  | .funding _ currency =>
    { kind := .funding, description := .text ("Wallet funding - " ++ currency) }
  | .conversion c =>
    { exchangeRate := .text c.plan.rate, kind := .conversion
      description := .text (conversionDescription c.plan), sessionId := .text sessionId }
  | .trade t =>
    { exchangeRate := .text t.plan.rate, kind := .trade
      description := .text (tradeDescription t), remarks := tradeRemarks t
      sessionId := .text sessionId }

/-- An answer to an exchange that followed a plan. -/
def exchanged (plan : Exchange.Plan) (legs : Legs) : Exchanged :=
  { legs, rate := plan.rate, converted := plan.credit }

/-- Moves the money, within a unit of work. -/
def move (userId : Int) (sessionId : String) (order : Order) : Action Session Answer :=
  let p := order.particulars sessionId
  match order with
  | .funding amount currency => do
    let w ← Wallets.resolve userId (.text currency)
    let x ← Wallets.credit w.id (.int amount) p
    return .funded x
  | .conversion c => (fun legs => .converted (exchanged c.plan legs)) <$> moveLegs userId c.plan p
  | .trade t => (fun legs => .traded t.action (exchanged t.plan legs)) <$> moveLegs userId t.plan p

/-- Carries the order out. -/
def carryOut (userId : Int) (o : Options) (order : Order) : Action Session Answer := do
  let sessionId ← order.enter
  Session.unitOfWork o.limit (order.move userId sessionId)

/-- What kind of event the order is announced as. -/
def eventKind : Order → Event.Kind
  | .funding .. => .credit
  | _ => .update

/-- What the event says. -/
def eventText : Order → String
  | .funding amount currency => fundingText currency amount
  | .conversion c => conversionText c
  | .trade t => tradeText t

end Order

/-- An exchange whose answer is rewritten as soon as its legs have been moved. -/
theorem map_exchange (f : Legs → α) (userId : Int) (plan : Exchange.Plan)
    (kind : Transaction.Kind) (description : String) (remarks : Value) (o : Options) :
    f <$> exchange userId plan kind description remarks o = (do
      let sessionId ← Session.draw Names.session
      Session.unitOfWork o.limit <| f <$> moveLegs userId plan
        { exchangeRate := .text plan.rate, kind, description := .text description, remarks
          sessionId := .text sessionId }) := by
  rw [exchange, map_bind]
  simp only [Session.unitOfWork_map]

theorem Order.carryOut_funding (userId : Int) (o : Options) (n : Nat) (code : String) :
    (Order.funding n code).carryOut userId o = .funded <$> Session.unitOfWork o.limit (do
      let w ← Wallets.resolve userId (.text code)
      Wallets.credit w.id (.int n) ((Order.funding n code).particulars "")) := by
  rw [← Session.unitOfWork_map, map_bind]
  rfl

/-- A call asks for an order of its own kind, which is sized from its arguments. -/
inductive Call.Gives : Call → Order → Prop
  | fund {userId : Int} {amount currency : Value} {n : Nat} {code : String}
    (units : Amount.ofValue amount = .ok n) (spelled : Currency.normalize currency = .ok code) :
    Gives (.fund userId amount currency) (.funding n code)
  | convert {rates : Exchange.RateSource} {userId : Int} {source target amount : Value}
    {c : Exchange.Conversion} (plan : Exchange.planConversion rates source target amount = .ok c) :
    Gives (.convert rates userId source target amount) (.conversion c)
  | trade {rates : Exchange.RateSource} {userId : Int} {base quote amount action : Value}
    {t : Exchange.Trade} (plan : Exchange.planTrade rates base quote amount action = .ok t) :
    Gives (.trade rates userId base quote amount action) (.trade t)

theorem Call.gives_of_order {c : Call} {order : Order} (h : c.order = .ok order) :
    c.Gives order := by
  cases c with
  | fund userId amount currency =>
    simp only [Call.order, bind_eq_ok, ofLedger_eq_ok] at h
    obtain ⟨n, hn, code, hcode, h⟩ := h
    cases h
    exact .fund hn hcode
  | convert rates userId source target amount =>
    obtain ⟨c, hc, rfl⟩ := map_eq_ok.1 h
    exact .convert hc
  | trade rates userId base quote amount action =>
    obtain ⟨t, ht, rfl⟩ := map_eq_ok.1 h
    exact .trade ht

/-- A call is checked and sized, carried out in one unit of work, and announced. -/
theorem Call.run_eq (c : Call) (o : Options) : c.run o = do
    let order ← .lift c.order
    let answer ← order.carryOut c.userId o
    announce o c.userId order.eventKind order.eventText
    return answer := by
  cases c with
  | fund userId amount currency =>
    simp only [run, order, Operation.fund]
    cases Amount.ofValue amount with
    | error e => rfl
    | ok n =>
      cases Currency.normalize currency with
      | error e => rfl
      | ok code =>
        show Answer.funded <$> (do
            let x ← Session.unitOfWork o.limit _
            announce o userId .credit (fundingText code n)
            return x) = (do
            let answer ← (Order.funding n code).carryOut userId o
            announce o userId .credit (fundingText code n)
            return answer)
        rw [Order.carryOut_funding]
        simp only [map_bind, map_pure, bind_map_left]
        rfl
  | convert rates userId source target amount =>
    simp only [run, order, Operation.convert]
    cases Exchange.planConversion rates source target amount with
    | error f => rfl
    | ok c =>
      show Answer.converted <$> (do
          let legs ← exchange userId c.plan .conversion (conversionDescription c.plan) .null o
          announce o userId .update (conversionText c)
          return (Order.exchanged c.plan legs)) = (do
          let answer ← (Order.conversion c).carryOut userId o
          announce o userId .update (conversionText c)
          return answer)
      rw [show (Order.conversion c).carryOut userId o = _ from (map_exchange _ ..).symm]
      simp only [map_bind, map_pure, bind_map_left]
  | trade rates userId base quote amount action =>
    simp only [run, order, Operation.trade]
    cases Exchange.planTrade rates base quote amount action with
    | error f => rfl
    | ok t =>
      show (fun p : TradeAction × Exchanged => Answer.traded p.1 p.2) <$> (do
          let legs ← exchange userId t.plan .trade (tradeDescription t) (tradeRemarks t) o
          announce o userId .update (tradeText t)
          return (t.action, Order.exchanged t.plan legs)) = (do
          let answer ← (Order.trade t).carryOut userId o
          announce o userId .update (tradeText t)
          return answer)
      rw [show (Order.trade t).carryOut userId o = _ from (map_exchange _ ..).symm]
      simp only [map_bind, map_pure, bind_map_left]

/-! ### Endings -/

/-- What a listener is told of an event. -/
def heard (listener : Option Listener) (e : Event) : List Announcement :=
  match listener with
  | none => []
  | some listen => [⟨e, (listen e).toBool⟩]

/-- The event of an order at a moment. -/
def Order.event (userId : Int) (o : Options) (date : Moment) (order : Order) : Event :=
  { userId, text := order.eventText, kind := order.eventKind, requestMeta := o.requestMeta, date }

/-- An announcement cannot fail, and adds what the listener was told. -/
theorem on_announce_event (listener : Option Listener) (e : Event) (s : Session) :
    (Session.announce listener e).on s =
      (.ok (), { s with announcements := s.announcements ++ heard listener e }) := by
  rw [Session.announce, Action.on_update]
  cases listener with
  | none => simp [heard]
  | some listen => rfl

theorem on_announce (o : Options) (userId : Int) (order : Order) (s : Session) :
    (announce o userId order.eventKind order.eventText).on s = (.ok (),
      { s with
        announcements :=
          s.announcements ++ heard o.listener (order.event userId o s.clock) }) := by
  rw [announce, Action.on_bind, Action.on_read]
  exact on_announce_event o.listener (order.event userId o s.clock) s

section

variable {c : Call} {o : Options} {s t : Session}

/-- A call succeeds when its order is carried out; its event is the last thing that happens. -/
theorem Call.on_run_eq_ok {answer : Answer} : (c.run o).on s = (.ok answer, t) ↔
    ∃ order, c.order = .ok order ∧ ∃ u, (order.carryOut c.userId o).on s = (.ok answer, u) ∧
      { u with
        announcements :=
          u.announcements ++ heard o.listener (order.event c.userId o u.clock) } = t := by
  rw [Call.run_eq]
  simp only [Action.on_bind_eq_ok, Action.on_lift, on_announce, Action.on_pure, Prod.mk.injEq,
    Except.ok.injEq]
  constructor
  · rintro ⟨order, _, ⟨hc, rfl⟩, _, u, hu, _, _, ⟨-, rfl⟩, rfl, rfl⟩
    exact ⟨order, hc, u, hu, rfl⟩
  · rintro ⟨order, hc, u, hu, rfl⟩
    exact ⟨order, s, ⟨hc, rfl⟩, answer, u, hu, (), _, ⟨trivial, rfl⟩, rfl, rfl⟩

/-- A call fails without an order, or because its order cannot be carried out. -/
theorem Call.on_run_eq_error {f : Failure} : (c.run o).on s = (.error f, t) ↔
    (c.order = .error f ∧ s = t) ∨
      ∃ order, c.order = .ok order ∧ (order.carryOut c.userId o).on s = (.error f, t) := by
  rw [Call.run_eq]
  simp only [Action.on_bind_eq_error, Action.on_lift, on_announce, Action.on_pure, Prod.mk.injEq]
  constructor
  · rintro (h | ⟨order, _, ⟨hc, rfl⟩, h | ⟨_, _, -, h⟩⟩)
    · exact .inl h
    · exact .inr ⟨order, hc, h⟩
    · simp at h
  · rintro (h | ⟨order, hc, h⟩)
    · exact .inl h
    · exact .inr ⟨order, s, ⟨hc, rfl⟩, .inl h⟩

end

/-- An order draws no names but a session, and funding says nothing of one. -/
theorem Order.on_enter (order : Order) (s : Session) : ∃ sessionId sessions,
    order.enter.on s = (.ok sessionId, { s with names := { s.names with sessions } }) ∧
      ∀ userId, order.move userId sessionId = order.move userId s.names.session.1 := by
  cases order with
  | funding n code => exact ⟨"", s.names.sessions, rfl, fun _ => rfl⟩
  | conversion c => exact ⟨s.names.session.1, s.names.session.2.sessions, rfl, fun _ => rfl⟩
  | trade t => exact ⟨s.names.session.1, s.names.session.2.sessions, rfl, fun _ => rfl⟩

theorem Order.on_carryOut (order : Order) (userId : Int) (o : Options) (s : Session) :
    ∃ sessions, (order.carryOut userId o).on s =
      (Session.unitOfWork o.limit (order.move userId s.names.session.1)).on
        { s with names := { s.names with sessions } } := by
  obtain ⟨sessionId, sessions, henter, hmove⟩ := order.on_enter s
  refine ⟨sessions, ?_⟩
  rw [carryOut, Action.on_bind, henter, ← hmove]

end CurrencyLedger.Operation
