import CurrencyLedger.Proofs.Deeds

/-!
Runs.

A run is any number of calls, one after the other, on a store that holds no money at first. What a
call meets is not up to the calls before it: the clock, the time that its unit of work takes, the
statements that fail, a rival, even the names that it is given are new conditions for every call.
Beside the session a run keeps the wallets with which rivals have come, in order.

Between calls a session is settled: nothing is pending and nothing is aborted. A call settles it
again, and either the committed tables are upheld, or its order has been done to them.
-/

namespace CurrencyLedger.Operation

open Session Wallets

/-- Nothing is pending in the session. -/
structure Settled (s : Session) : Prop where
  working : s.working = s.committed
  aborted : s.aborted = false

/-- What a call meets when it is made. -/
structure Conditions where
  names : Names := {}
  clock : Moment
  elapsed : Binary64 := .finite false 0 0
  dialect : Dialect := .sqlite
  faults : Statement → Option Failure := fun _ => none
  rival : Option Rival := none
  /-- A rival writes to the same columns, so its balance fits them. -/
  rival_fits : ∀ r, rival = some r → Column.fits r.balance = true

/-- A session that goes on under new conditions. -/
def under (s : Session) (c : Conditions) : Session :=
  { s with
    names := c.names
    clock := c.clock
    elapsed := c.elapsed
    dialect := c.dialect
    faults := c.faults
    rival := c.rival }

/-- A call, made under conditions. -/
structure Step where
  call : Call
  options : Options := {}
  conditions : Conditions

/-- The wallet of the rival who has come between two states of a session, if one has. -/
def arrival? (s t : Session) : Option Wallet :=
  if t.rivals = s.rivals then none else s.rival.map s.rivalWallet

/-- A run so far. -/
structure Run where
  session : Session
  arrivals : List Wallet := []

namespace Run

/-- The beginning of a run: users, perhaps with a history, but no wallets and no transactions. -/
def start (users : List User) (activities : List Activity) (clock : Moment) : Run where
  session := .ofTables { users, activities } clock

/-- The session after one more call. -/
def next (r : Run) (x : Step) : Session :=
  ((x.call.run x.options).on (under r.session x.conditions)).2

/-- A run with one more call. -/
def step (r : Run) (x : Step) : Run where
  session := r.next x
  arrivals := r.arrivals ++ (arrival? (under r.session x.conditions) (r.next x)).toList

/-- A run with more calls. -/
def steps (r : Run) (xs : List Step) : Run := xs.foldl step r

/-- What every call keeps is kept by a run. -/
theorem kept_of_steps {P : Run → Prop} (hP : ∀ r x, P r → P (r.step x)) {r : Run} (hr : P r)
    (xs : List Step) : P (r.steps xs) := by
  induction xs generalizing r with
  | nil => exact hr
  | cons x xs ih => exact ih (hP r x hr)

end Run

/-- What a call has done, whatever came of it. -/
structure Effect (c : Call) (s t : Session) : Prop where
  settled : Settled t
  rivals : t.rivals = s.rivals ∨ ∃ r, s.rival = some r ∧ t.rivals = s.rivals + 1
  tables : Upholds s t ∨ ∃ order rows, c.order = .ok order ∧
    order.Done (Origin s t) s.clock c.userId s.names.session.1 s.committed t.committed rows

/-- An order that is carried out has moved its money and committed it. -/
theorem Order.on_carryOut_eq_ok {order : Order} {userId : Int} {o : Options} {s t : Session}
    {answer : Answer} (h : (order.carryOut userId o).on s = (.ok answer, t)) :
    ∃ names u, (order.move userId s.names.session.1).on { s with names } = (.ok answer, u) ∧
      u.aborted = false ∧ { u with committed := u.working } = t := by
  obtain ⟨sessions, hcarry⟩ := order.on_carryOut userId o s
  obtain ⟨-, u, hu, -, -, ha, ht⟩ := on_unitOfWork_eq_ok.1 (hcarry.symm.trans h)
  exact ⟨_, u, hu, ha, ht⟩

/-- A rival comes once in a call, or not at all. -/
theorem rivals_of_sameUnit {s t : Session} (h : SameUnit s t) :
    t.rivals = s.rivals ∨ ∃ r, s.rival = some r ∧ t.rivals = s.rivals + 1 := by
  rcases h.rival with ⟨-, hn, -⟩ | ⟨r, hr, -, hn, -⟩
  · exact .inl hn
  · exact .inr ⟨r, hr, hn⟩

/-- A call that succeeds has done its order to what the session saw, and committed it. -/
theorem Call.done_of_run {c : Call} {o : Options} {s t : Session} {answer : Answer}
    (ha : s.working.Lawful) (hr : RivalFits s) (h : (c.run o).on s = (.ok answer, t)) :
    Settled t ∧ (t.rivals = s.rivals ∨ ∃ r, s.rival = some r ∧ t.rivals = s.rivals + 1) ∧
      ∃ order, c.order = .ok order ∧ order.Done (Origin s t) s.clock c.userId s.names.session.1
        s.working t.committed answer.rows := by
  obtain ⟨order, horder, v, hv, rfl⟩ := Call.on_run_eq_ok.1 h
  obtain ⟨names, u, hmove, haborted, rfl⟩ := Order.on_carryOut_eq_ok hv
  have hu : SameUnit { s with names } u := by
    simpa [hmove] using order.within_move c.userId s.names.session.1 { s with names }
  have hrivals := rivals_of_sameUnit hu
  -- The names drawn before the unit of work opened change nothing in what the order does.
  have hdone := Order.on_move_eq_ok (s := { s with names }) (Call.proper_order horder) ha hr hmove
  exact ⟨⟨rfl, haborted⟩, hrivals, order, horder, hdone⟩

theorem Call.effect (c : Call) (o : Options) {s : Session} (hs : Settled s)
    (hlawful : s.committed.Lawful) (hr : RivalFits s) :
    Effect c s ((c.run o).on s).2 := by
  rcases h : (c.run o).on s with ⟨f | answer, t⟩
  · rcases Call.on_run_eq_error.1 h with ⟨-, rfl⟩ | ⟨order, -, h⟩
    · exact ⟨hs, .inl rfl, .inl (.same rfl)⟩
    · obtain ⟨u, hu, rfl⟩ := order.on_carryOut_eq_error h
      have hrivals := rivals_of_sameUnit hu
      exact ⟨⟨rfl, rfl⟩, hrivals, .inl hu.upholds.rollback⟩
  · have hworking : s.working = s.committed := hs.working
    obtain ⟨hsettled, hrivals, order, horder, hdone⟩ :=
      Call.done_of_run (hworking ▸ hlawful) hr h
    rw [hworking] at hdone
    exact ⟨hsettled, hrivals, .inr ⟨order, answer.rows, horder, hdone⟩⟩

/-- Whatever came of a call, it has come of deeds. -/
theorem Effect.deeds {c : Call} {s t : Session} (h : Effect c s t) :
    Relation.ReflTransGen (Deed (Origin s t) s.clock) s.committed t.committed := by
  rcases h.tables with hupholds | ⟨order, rows, -, hdone⟩
  · exact deed_of_opened s.clock (opened_of_upholds hupholds)
  · exact hdone.deeds

theorem Effect.lawful {c : Call} {s t : Session} (h : Effect c s t) (ha : s.committed.Lawful)
    (hr : RivalFits s) : t.committed.Lawful :=
  kept_of_deeds (Tables.Lawful.deed fun _ => fits_of_origin hr) h.deeds ha

namespace Run

/-- Between calls a session is settled, and its tables are lawful. -/
structure Sound (r : Run) : Prop where
  settled : Settled r.session
  lawful : r.session.committed.Lawful

theorem sound_start (users : List User) (activities : List Activity) (clock : Moment) :
    (start users activities clock).Sound :=
  ⟨⟨rfl, rfl⟩, .empty rfl rfl⟩

theorem Sound.effect {r : Run} (hr : r.Sound) (x : Step) :
    Effect x.call (under r.session x.conditions) (r.next x) :=
  x.call.effect x.options ⟨hr.settled.working, hr.settled.aborted⟩ hr.lawful
    x.conditions.rival_fits

theorem Sound.step {r : Run} (hr : r.Sound) (x : Step) : (r.step x).Sound :=
  ⟨(hr.effect x).settled, (hr.effect x).lawful hr.lawful x.conditions.rival_fits⟩

end Run

end CurrencyLedger.Operation
