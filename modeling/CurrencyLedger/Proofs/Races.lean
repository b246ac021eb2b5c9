import CurrencyLedger.Proofs.Ownership

/-!
Lost races.

A rival may create the very wallet that a call is about to credit, after the call has looked for it
and before it inserts its own. Then the call's insertion fails, and only that is undone: what the
call did before stands, the rival's wallet is the one to credit, and the balance that the rival gave
it stays part of the balance after.

So the tables can be written down in full. They are those before the credit, which an exchange has
debited already, with one wallet and one transaction behind the others.
-/

namespace CurrencyLedger

open Session Wallets

namespace Tables

variable {t : Tables} {w : Wallet}

/-- A wallet with a new name, behind the others, is found by it. -/
theorem wallet?_snoc (h : t.wallet? w.id = none) :
    ({ t with wallets := t.wallets ++ [w] } : Tables).wallet? w.id = some w := by
  rw [wallet?] at h ⊢
  simp [h]

/-- Its balance can be set without touching the others. -/
theorem setBalance_snoc (h : t.wallet? w.id = none) (balance : Nat) (now : Moment) :
    ({ t with wallets := t.wallets ++ [w] } : Tables).setBalance w.id balance now =
      { t with wallets := t.wallets ++ [{ w with balance, updatedAt := now }] } := by
  simp only [setBalance, List.map_append, List.map_singleton, beq_self_eq_true, if_pos]
  congr 2
  refine (List.map_congr_left fun v hv => ?_).trans (List.map_id _)
  simp [wallet?_eq_none.1 h v hv]

/-- Setting a balance brings no identifier in. -/
theorem wallet?_setBalance_eq_none {id : String} (h : t.wallet? id = none) (named : String)
    (balance : Nat) (now : Moment) : (t.setBalance named balance now).wallet? id = none := by
  rw [wallet?_eq_none] at h ⊢
  intro v hv
  rcases mem_setBalance.1 hv with ⟨hmem, -⟩ | ⟨v, hmem, -, rfl⟩ <;> exact h v hmem

/-- And no owner. -/
theorem walletOf?_setBalance_eq_none {userId : Int} {currency : String}
    (h : t.walletOf? userId currency = none) (named : String) (balance : Nat) (now : Moment) :
    (t.setBalance named balance now).walletOf? userId currency = none := by
  rw [walletOf?_setBalance, h]
  rfl

end Tables

/-- A recorded movement sets one balance and adds one row. -/
theorem Wallets.Moved.eq {now : Moment} {w : Wallet} {x : Transaction} {a b : Tables}
    (h : Moved now w x a b) :
    b = { a.setBalance w.id (balanceAfter x.flow w.balance x.amount) now with
      transactions := a.transactions ++ [x] } :=
  (Tables.insertTransaction?_eq_some.1 h.inserted).2.symm

namespace Session

/-- The wallet of a rival, once an amount has been added to it. -/
def creditedWallet (s : Session) (r : Rival) (amount : Nat) : Wallet :=
  { s.rivalWallet r with balance := r.balance + amount }

/-- A debit of another wallet keeps nobody from winning. -/
theorem Wins.of_moved {s u : Session} {r : Rival} (h : s.Wins r) (hu : Edited s u) {now : Moment}
    {v : Wallet} {x : Transaction} (hmoved : Moved now v x s.working u.working) :
    u.Wins r ∧ u.rivalWallet r = s.rivalWallet r := by
  have hrival : u.rivalWallet r = s.rivalWallet r := by
    rw [Edited] at hu
    rw [hu]
    rfl
  refine ⟨⟨?_, ?_, ?_⟩, hrival⟩
  · rw [Edited] at hu
    rw [hu]
    exact h.comes
  · rw [hrival, hmoved.eq]
    exact Tables.wallet?_setBalance_eq_none h.named _ _ _
  · rw [hmoved.eq]
    exact Tables.walletOf?_setBalance_eq_none h.absent _ _ _

end Session

namespace Operation

/-- The tables `b` are `a` with the wallet of a rival behind them, credited by the last row. -/
structure CreditedTo (s : Session) (r : Rival) (amount : Int) (x : Transaction) (a b : Tables) :
    Prop where
  walletId : x.walletId = (s.rivalWallet r).id
  userId : x.userId = r.userId
  currency : x.currency = r.currency
  flow : x.flow = .credit
  amount : (x.amount : Int) = amount
  tables : b =
    { a with
      wallets := a.wallets ++ [s.creditedWallet r x.amount]
      transactions := a.transactions ++ [x] }

/-- Only the rival's wallet counts, not the rest of the session. -/
theorem CreditedTo.of_rivalWallet_eq {s u : Session} {r : Rival} {amount : Int} {x : Transaction}
    {a b : Tables} (h : CreditedTo u r amount x a b) (hrival : u.rivalWallet r = s.rivalWallet r) :
    CreditedTo s r amount x a b := by
  refine ⟨hrival ▸ h.walletId, h.userId, h.currency, h.flow, h.amount, ?_⟩
  rw [h.tables, creditedWallet, creditedWallet, hrival]

/-- What is resolved in a lost race and then credited is the wallet of the rival. -/
theorem creditedTo_of_wins {s u t : Session} {r : Rival} (hr : s.Wins r)
    (hcode : Currency.isCode r.currency = true) {w : Wallet} {amount : Int}
    {p : History.Particulars} {x : Transaction}
    (hresolve : (resolve r.userId (.text r.currency)).on s = (.ok w, u))
    (hcredit : (credit w.id (.int amount) p).on u = (.ok x, t)) :
    CreditedTo s r amount x s.working t.working := by
  obtain ⟨rfl, -, hu⟩ := resolve_of_wins hr (Currency.normalize_text hcode) hresolve
  have hclock : u.clock = s.clock := by
    have hsame : SameUnit s u := by
      simpa [hresolve] using within_resolve r.userId (.text r.currency) s
    exact hsame.clock
  obtain ⟨v, hid, hmoved, hflow, hamount, -⟩ := on_credit_eq_ok hcredit
  obtain rfl : v = s.rivalWallet r := by
    have hfound := hmoved.found
    rw [hid, hu, Tables.wallet?_snoc hr.named] at hfound
    exact (Option.some.inj hfound).symm
  refine ⟨hmoved.walletId, hmoved.userId, hmoved.currency, hflow,
    (Amount.ofValue_int_eq_ok.1 hamount).2, ?_⟩
  rw [hmoved.eq, hu, Tables.setBalance_snoc hr.named, hflow, hclock]
  rfl

/-- The currency that an order adds to. -/
def Order.target : Order → String
  | .funding _ code => code
  | .conversion c => c.plan.target
  | .trade t => t.plan.target

/-- What an order adds. -/
def Order.received : Order → Int
  | .funding n _ => n
  | .conversion c => c.plan.credit
  | .trade t => t.plan.credit

/-- What an order has done, and the rows that it has written, when it comes to what it adds. -/
inductive Order.Paid (now : Moment) (userId : Int) (a : Tables) :
    Order → List Transaction → Tables → Prop
  | funding {n : Nat} {code : String} : Paid now userId a (.funding n code) [] a
  | exchange {order : Order} {plan : Exchange.Plan} {v : Wallet} {x : Transaction}
    (hplan : order.plan? = some plan) (mem : v ∈ a.wallets) (user : v.userId = userId)
    (currency : v.currency = plan.source) (covered : x.amount ≤ v.balance)
    (walletId : x.walletId = v.id) (flow : x.flow = .debit)
    (amount : (x.amount : Int) = plan.debit) :
    Paid now userId a order [x]
      { a.setBalance v.id (v.balance - x.amount) now with transactions := a.transactions ++ [x] }

/-- A debit is all that an exchange does before. -/
theorem Order.paid_of_leg {order : Order} {plan : Exchange.Plan} (hplan : order.plan? = some plan)
    {now : Moment} {userId : Int} {p : History.Particulars} {v : Wallet} {x : Transaction}
    {a b : Tables} (h : Leg now userId plan.source .debit plan.debit p v x a b) :
    order.Paid now userId a [x] b := by
  have hb := h.moved.eq
  rw [h.flow] at hb
  rw [hb]
  exact .exchange hplan (Tables.wallet?_eq_some h.moved.found).1 h.userId h.currency
    (h.moved.covered h.flow) h.moved.walletId h.flow h.amount

/-- What has been done by then opens no wallet. -/
theorem Order.Paid.absent {now : Moment} {userId : Int} {a b : Tables} {order : Order}
    {rows : List Transaction} (h : order.Paid now userId a rows b) {user : Int} {currency : String}
    (ha : a.walletOf? user currency = none) : b.walletOf? user currency = none := by
  cases h with
  | funding => exact ha
  | exchange => exact Tables.walletOf?_setBalance_eq_none ha _ _ _

/-- The legs of an exchange in which the race for the second wallet is lost. -/
theorem on_moveLegs_of_wins {plan : Exchange.Plan} (hplan : plan.Distinct)
    {p : History.Particulars} {s t : Session} {legs : Legs} {r : Rival} (ha : s.working.Lawful)
    (hr : s.Wins r) (htarget : r.currency = plan.target)
    (h : (moveLegs r.userId plan p).on s = (.ok legs, t)) :
    ∃ v b, Leg s.clock r.userId plan.source .debit plan.debit p v legs.debit s.working b ∧
      CreditedTo s r plan.credit legs.credit b t.working := by
  obtain ⟨source, target, u, u', hfound, hdebit, hresolve, hcredit⟩ := steps_of_moveLegs hplan h
  have hleg := leg_of_debit ha hfound hdebit
  have hu : Edited s u := by simpa [hdebit] using within_debit source.id (.int plan.debit) p s
  obtain ⟨hwins, hrival⟩ := hr.of_moved hu hleg.moved
  have hcode := hplan.target
  rw [← htarget] at hcode hresolve
  have hcredited := creditedTo_of_wins hwins hcode hresolve hcredit
  exact ⟨source, u.working, hleg, hcredited.of_rivalWallet_eq hrival⟩

/-- An order in which the race for the wallet to credit is lost. -/
theorem Order.on_move_of_wins {order : Order} (hproper : order.Proper) {sessionId : String}
    {s t : Session} {answer : Answer} {r : Rival} (ha : s.working.Lawful) (hr : s.Wins r)
    (htarget : r.currency = order.target)
    (h : (order.move r.userId sessionId).on s = (.ok answer, t)) :
    ∃ paid before x, order.Paid s.clock r.userId s.working paid before ∧
      answer.rows = paid ++ [x] ∧ CreditedTo s r order.received x before t.working := by
  cases order with
  | funding n code =>
    obtain ⟨w, u, hresolve, h⟩ := Action.on_bind_eq_ok.1 h
    obtain ⟨x, t', hcredit, h⟩ := Action.on_bind_eq_ok.1 h
    cases h
    obtain rfl : r.currency = code := htarget
    exact ⟨[], s.working, x, .funding, rfl, creditedTo_of_wins hr hproper hresolve hcredit⟩
  | conversion c =>
    obtain ⟨legs, hlegs, rfl⟩ := Action.on_map_eq_ok.1 h
    obtain ⟨v, b, hleg, hcredited⟩ := on_moveLegs_of_wins hproper ha hr htarget hlegs
    exact ⟨[legs.debit], b, legs.credit, Order.paid_of_leg rfl hleg, rfl, hcredited⟩
  | trade q =>
    obtain ⟨legs, hlegs, rfl⟩ := Action.on_map_eq_ok.1 h
    obtain ⟨v, b, hleg, hcredited⟩ := on_moveLegs_of_wins hproper ha hr htarget hlegs
    exact ⟨[legs.debit], b, legs.credit, Order.paid_of_leg rfl hleg, rfl, hcredited⟩

/--
A call that succeeds although a rival has created the wallet to credit loses nothing. There is one
such wallet, that of the rival, with the rival's balance and what was credited; what the call had
done before is kept; and nothing else has happened to the tables, in which all of this is committed.
-/
theorem lost_race_loses_no_update {c : Call} {o : Options} {order : Order} {r : Rival}
    {s t : Session} {answer : Answer} (horder : c.order = .ok order) (ha : s.working.Lawful)
    (hr : s.Wins r) (huser : r.userId = c.userId) (htarget : r.currency = order.target)
    (h : (c.run o).on s = (.ok answer, t)) :
    ∃ paid before x, order.Paid s.clock c.userId s.working paid before ∧
      answer.rows = paid ++ [x] ∧ CreditedTo s r order.received x before t.committed ∧
      t.committed.wallets.filter (fun w => w.userId == c.userId && w.currency == order.target) =
        [s.creditedWallet r x.amount] := by
  obtain ⟨order', horder', v, hv, rfl⟩ := Call.on_run_eq_ok.1 h
  obtain rfl : order = order' := Except.ok.inj (horder.symm.trans horder')
  obtain ⟨names, u, hmove, -, rfl⟩ := Order.on_carryOut_eq_ok hv
  rw [← huser] at hmove ⊢
  -- The names drawn before the unit of work opened change nothing of the race.
  have hr' : Wins { s with names } r := ⟨hr.comes, hr.named, hr.absent⟩
  obtain ⟨paid, before, x, hpaid, hrows, hcredited⟩ :=
    Order.on_move_of_wins (Call.proper_order horder) (s := { s with names }) ha hr' htarget hmove
  refine ⟨paid, before, x, hpaid, hrows, hcredited.of_rivalWallet_eq rfl, ?_⟩
  have hbefore := Tables.walletOf?_eq_none.1 (hpaid.absent hr.absent)
  show u.working.wallets.filter _ = _
  rw [hcredited.tables, List.filter_append, ← htarget]
  have hnone : before.wallets.filter
      (fun w => w.userId == r.userId && w.currency == r.currency) = [] := by
    simpa [List.filter_eq_nil_iff] using hbefore
  rw [hnone]
  simp [creditedWallet, rivalWallet]

/-- A session with a purse, where a rival is about to create a wallet of dollars. -/
def racedSession : Session :=
  { Session.ofTables { wallets := [purse] } ⟨⟨2024, 1, 15⟩, 12, 0, 0⟩ with
    rival := some { userId := 1, currency := "USD", balance := 50 } }

/-- What the conversion of three hundred kobo comes to. -/
def koboToCents : Exchange.Conversion where
  amount := 300
  plan := { source := "NGN", target := "USD", debit := 300, credit := 600, rate := "2.00000000" }

theorem conversion_in_lost_race :
    let r : Rival := { userId := 1, currency := "USD", balance := 50 }
    let order := Order.conversion koboToCents
    let t := ((conversionOfKobo.run {}).on racedSession).2
    t.committed.wallets.map (fun w => (w.id, w.balance)) = [("purse", 700), ("rival1", 650)] ∧
      ∃ answer : Answer, ∃ paid before x,
        order.Paid racedSession.clock 1 racedSession.working paid before ∧
        answer.rows = paid ++ [x] ∧ CreditedTo racedSession r order.received x before t.committed ∧
        t.committed.wallets.filter (fun w => w.userId == 1 && w.currency == "USD") =
          [racedSession.creditedWallet r x.amount] := by
  intro r order t
  have hplan : (Exchange.planConversion (Exchange.oneRate (.int 2)) (.text "ngn") (.text "USD")
      (.int 300)).toOption = some koboToCents := by decide +kernel
  have horder : conversionOfKobo.order = .ok order :=
    map_eq_ok.2 ⟨koboToCents, Action.toOption_eq_some.1 hplan, rfl⟩
  have hlawful : racedSession.working.Lawful := by constructor <;> decide +kernel
  have hwins : racedSession.Wins r := ⟨rfl, by decide +kernel, by decide +kernel⟩
  obtain ⟨answer, h⟩ : ∃ answer, (conversionOfKobo.run {}).on racedSession = (.ok answer, t) :=
    Action.exists_on_eq_ok (by decide +kernel)
  exact ⟨by decide +kernel, answer,
    lost_race_loses_no_update horder hlawful hwins rfl rfl h⟩

end Operation

end CurrencyLedger
