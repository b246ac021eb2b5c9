import CurrencyLedger.Proofs.Runs

/-!
Two legs or none.

The transactions of one session are either a single credit of funding, which is its own session, or
the two legs of one exchange, next to each other. References and sessions are told apart by their
first letters, references of two rows are never the same, and a session of its own is drawn for
every exchange; so a row that is added starts a group of its own, unless it is the second leg.
-/

namespace CurrencyLedger.Operation

open Session Wallets

/-- A credit of funding, alone in its session. -/
structure IsFunding (x : Transaction) : Prop where
  kind : x.kind = .funding
  flow : x.flow = .credit
  session : x.sessionId = x.reference

/-- The legs of one exchange. -/
structure AreLegs (d c : Transaction) : Prop where
  debit : d.flow = .debit
  credit : c.flow = .credit
  session : d.sessionId = c.sessionId
  user : d.userId = c.userId
  wallet : d.walletId ≠ c.walletId
  currency : d.currency ≠ c.currency
  kind : d.kind = c.kind
  rate : d.exchangeRate = c.exchangeRate
  description : d.description = c.description
  remarks : d.remarks = c.remarks
  remarksOn : RemarksOn d.kind d.remarks

/-- The rows of a session, in order. -/
def inSession (rows : List Transaction) (sessionId : String) : List Transaction :=
  rows.filter fun x => x.sessionId == sessionId

/-- Rows that were added group by group, each group in a session of its own. -/
inductive Grouped : List Transaction → Prop
  | nil : Grouped []
  | funding {rows : List Transaction} {x : Transaction} (h : Grouped rows) (hx : IsFunding x)
    (hnew : ∀ y ∈ rows, y.sessionId ≠ x.sessionId) : Grouped (rows ++ [x])
  | exchange {rows : List Transaction} {d c : Transaction} (h : Grouped rows) (hlegs : AreLegs d c)
    (hnew : ∀ y ∈ rows, y.sessionId ≠ d.sessionId) : Grouped (rows ++ [d, c])

theorem inSession_append (xs ys : List Transaction) (sessionId : String) :
    inSession (xs ++ ys) sessionId = inSession xs sessionId ++ inSession ys sessionId :=
  List.filter_append xs ys

theorem inSession_eq_nil {rows : List Transaction} {sessionId : String}
    (h : ∀ y ∈ rows, y.sessionId ≠ sessionId) : inSession rows sessionId = [] := by
  rw [inSession, List.filter_eq_nil_iff]
  intro y hy
  simpa using h y hy

/-- Rows of other sessions behind it leave a group as it is. -/
theorem inSession_append_of_ne (rows : List Transaction) {more : List Transaction}
    {sessionId : String} (h : ∀ y ∈ more, y.sessionId ≠ sessionId) :
    inSession (rows ++ more) sessionId = inSession rows sessionId := by
  rw [inSession_append, inSession_eq_nil h, List.append_nil]

/-- In grouped rows every session is one of funding or one of an exchange. -/
theorem Grouped.inSession {rows : List Transaction} (h : Grouped rows) {x : Transaction}
    (hx : x ∈ rows) : (inSession rows x.sessionId = [x] ∧ IsFunding x) ∨
      ∃ d c, inSession rows x.sessionId = [d, c] ∧ AreLegs d c ∧ [d, c] <:+: rows := by
  induction h with
  | nil => exact absurd hx List.not_mem_nil
  | @funding rows z h hz hnew ih =>
    rcases List.mem_append.1 hx with hx | hx
    · rw [inSession_append_of_ne rows (by simpa using (hnew x hx).symm)]
      rcases ih hx with hone | ⟨d, c, hgroup, hlegs, hnext⟩
      · exact .inl hone
      · exact .inr ⟨d, c, hgroup, hlegs, hnext.trans (List.prefix_append _ _).isInfix⟩
    · obtain rfl := List.mem_singleton.1 hx
      rw [inSession_append, inSession_eq_nil hnew]
      exact .inl ⟨by simp [Operation.inSession], hz⟩
  | @exchange rows d c h hlegs hnew ih =>
    rcases List.mem_append.1 hx with hx | hx
    · rw [inSession_append_of_ne rows (by simpa [← hlegs.session] using (hnew x hx).symm)]
      rcases ih hx with hone | ⟨d', c', hgroup, hlegs', hnext⟩
      · exact .inl hone
      · exact .inr ⟨d', c', hgroup, hlegs', hnext.trans (List.prefix_append _ _).isInfix⟩
    · have hsession : x.sessionId = d.sessionId := by
        simp only [List.mem_cons, List.not_mem_nil, or_false] at hx
        rcases hx with rfl | rfl
        · rfl
        · exact hlegs.session.symm
      rw [inSession_append, hsession, inSession_eq_nil hnew]
      refine .inr ⟨d, c, ?_, hlegs, (List.suffix_append _ _).isInfix⟩
      simp [Operation.inSession, hlegs.session]

/-! ### What an order adds -/

theorem transactions_of_opened {origin : Wallet → Prop} {a b : Tables}
    (h : Relation.ReflTransGen (Opened origin) a b) : b.transactions = a.transactions := by
  induction h with
  | refl => rfl
  | tail _ hopened ih =>
    obtain ⟨w, -, hinsert⟩ := hopened
    obtain ⟨-, -, rfl⟩ := Tables.insertWallet?_eq_some.1 hinsert
    exact ih

theorem wallets_of_opened {origin : Wallet → Prop} {a b : Tables}
    (h : Relation.ReflTransGen (Opened origin) a b) : ∀ w ∈ a.wallets, w ∈ b.wallets := by
  induction h with
  | refl => exact fun w hw => hw
  | tail _ hopened ih =>
    obtain ⟨v, -, hinsert⟩ := hopened
    obtain ⟨-, -, rfl⟩ := Tables.insertWallet?_eq_some.1 hinsert
    exact fun w hw => List.mem_append_left _ (ih w hw)

/-- The letters with which references of funding begin. -/
def fundingMark : String := "FND_"

/-- The letters with which sessions of exchanges begin. -/
def sessionMark : String := "SES_"

theorem fundingMark_ne_sessionMark (s t : String) : fundingMark ++ s ≠ sessionMark ++ t := by
  intro h
  have := congrArg String.toList h
  simp [fundingMark, sessionMark] at this

theorem isFunding_of_describes {n : Nat} {code sessionId : String} {x : Transaction}
    (h : History.Describes ((Order.funding n code).particulars sessionId) x)
    (hflow : x.flow = .credit) : IsFunding x ∧ ∃ token, x.reference = fundingMark ++ token := by
  obtain ⟨token, htoken⟩ := h.reference
  exact ⟨⟨h.kind, hflow, (Except.ok.inj h.session).symm⟩, token, htoken⟩

/-- Two rows that say the same of an exchange agree in all that the order settled. -/
theorem areLegs_of_describes {sessionId : String} (hne : sessionId ≠ "") {p : History.Particulars}
    (hp : SaysOfExchange sessionId p) {d c : Transaction} (hd : History.Describes p d)
    (hc : History.Describes p c) (hdebit : d.flow = .debit) (hcredit : c.flow = .credit)
    (huser : d.userId = c.userId) (hwallet : d.walletId ≠ c.walletId)
    (hcurrency : d.currency ≠ c.currency) : AreLegs d c ∧ d.sessionId = sessionId := by
  obtain ⟨description, hdescription, heq⟩ := hp.description
  obtain ⟨remarks, hkept, hremarks⟩ := hp.remarksOn
  have session {x : Transaction} (h : History.Describes p x) : x.sessionId = sessionId := by
    have := h.session
    rw [hp.session, Column.givenTextOr_text hne] at this
    exact (Except.ok.inj this).symm
  have said {x : Transaction} (h : History.Describes p x) : x.description = description := by
    have := h.description
    rw [heq, Column.givenTextOr_text hdescription] at this
    exact (Except.ok.inj this).symm
  have remarked {x : Transaction} (h : History.Describes p x) : x.remarks = remarks :=
    Except.ok.inj (h.remarks.symm.trans hkept)
  refine ⟨⟨hdebit, hcredit, (session hd).trans (session hc).symm, huser, hwallet, hcurrency,
    hd.kind.trans hc.kind.symm, Except.ok.inj (hd.rate.symm.trans hc.rate),
    (said hd).trans (said hc).symm, (remarked hd).trans (remarked hc).symm, ?_⟩, session hd⟩
  rw [hd.kind, remarked hd]
  exact hremarks

/-- The wallets of the legs of an exchange are two: they have different currencies. -/
theorem wallets_ne {now : Moment} {v w : Wallet} {x y : Transaction} {a b c d : Tables}
    {origin : Wallet → Prop} (hd : d.Lawful) (hne : v.currency ≠ w.currency)
    (hmoved : Moved now v x a c) (hopened : Relation.ReflTransGen (Opened origin) c d)
    (hmoved' : Moved now w y d b) : v.id ≠ w.id := by
  intro hid
  obtain ⟨hv, -⟩ := Tables.wallet?_eq_some hmoved.found
  obtain ⟨hw, -⟩ := Tables.wallet?_eq_some hmoved'.found
  obtain ⟨u, hu, huid, hcurrency⟩ : ∃ u ∈ c.wallets, u.id = v.id ∧ u.currency = v.currency := by
    rw [hmoved.wallets]
    exact ⟨_, Tables.mem_setBalance.2 (.inr ⟨v, hv, rfl, rfl⟩), rfl, rfl⟩
  obtain rfl := Tables.eq_of_id_eq hd.walletIds (wallets_of_opened hopened u hu) hw
    (huid.trans hid)
  exact hne hcurrency.symm

/-! ### Runs -/

/-- The session that a step draws: one if it gives an order to exchange, whatever comes of it. -/
def Step.sessionId? (x : Step) : Option String :=
  match x.call.order with
  | .ok order => order.plan?.map fun _ => x.conditions.names.session.1
  | .error _ => none

theorem Step.marked {x : Step} : ∀ s ∈ x.sessionId?.toList, ∃ token, s = sessionMark ++ token := by
  intro s hs
  rw [Option.mem_toList, sessionId?] at hs
  split at hs
  · obtain ⟨-, -, rfl⟩ := Option.map_eq_some_iff.1 hs
    exact ⟨_, rfl⟩
  · cases hs

/-- Grouped rows, of which the sessions are references of funding or have been drawn. -/
structure Paired (drawn : List String) (t : Tables) : Prop where
  lawful : t.Lawful
  grouped : Grouped t.transactions
  sessions : ∀ x ∈ t.transactions,
    (x.sessionId = x.reference ∧ ∃ token, x.reference = fundingMark ++ token) ∨ x.sessionId ∈ drawn
  completed : ∀ x ∈ t.transactions, x.status = .completed
  marked : ∀ s ∈ drawn, ∃ token, s = sessionMark ++ token

namespace Paired

variable {drawn : List String} {a b : Tables} {now : Moment} {userId : Int}

/-- Rows that were added, and sessions that were drawn, have to fit in by themselves. -/
theorem append (h : Paired drawn a) (hb : b.Lawful) {rows : List Transaction}
    (hrows : b.transactions = a.transactions ++ rows) {more : List String}
    (hmore : ∀ s ∈ more, ∃ token, s = sessionMark ++ token)
    (hgrouped : Grouped (a.transactions ++ rows))
    (hsessions : ∀ x ∈ rows, (x.sessionId = x.reference ∧
      ∃ token, x.reference = fundingMark ++ token) ∨ x.sessionId ∈ drawn ++ more)
    (hcompleted : ∀ x ∈ rows, x.status = .completed) : Paired (drawn ++ more) b := by
  refine ⟨hb, hrows ▸ hgrouped, fun x hx => ?_, fun x hx => ?_, fun s hs => ?_⟩
  · rw [hrows] at hx
    rcases List.mem_append.1 hx with hx | hx
    · rcases h.sessions x hx with hown | hdrawn
      · exact .inl hown
      · exact .inr (List.mem_append_left _ hdrawn)
    · exact hsessions x hx
  · rw [hrows] at hx
    rcases List.mem_append.1 hx with hx | hx
    · exact h.completed x hx
    · exact hcompleted x hx
  · rcases List.mem_append.1 hs with hs | hs
    · exact h.marked s hs
    · exact hmore s hs

/-- A session may be drawn and not used, and wallets may come in. -/
theorem opened (h : Paired drawn a) {s t : Session} (hr : RivalFits s)
    (hopened : Relation.ReflTransGen (Opened (Origin s t)) a b) {more : List String}
    (hmore : ∀ s ∈ more, ∃ token, s = sessionMark ++ token) : Paired (drawn ++ more) b := by
  have hrows : b.transactions = a.transactions ++ [] := by
    rw [transactions_of_opened hopened, List.append_nil]
  refine h.append (lawful_of_opened hr h.lawful hopened) hrows hmore ?_ ?_ ?_
  · rw [List.append_nil]
    exact h.grouped
  all_goals exact fun _ hx => absurd hx List.not_mem_nil

/-- Funding starts a group: its reference is new, and no session that was drawn looks like it. -/
theorem funding (h : Paired drawn a) {s t : Session} (hr : RivalFits s) {c : Tables} {n : Nat}
    {code sessionId : String} {w : Wallet} {x : Transaction}
    (hopened : Relation.ReflTransGen (Opened (Origin s t)) a c)
    (hleg : Leg now userId code .credit n ((Order.funding n code).particulars sessionId) w x c b) :
    Paired drawn b := by
  have hrows : b.transactions = a.transactions ++ [x] := by
    rw [hleg.moved.transactions, transactions_of_opened hopened]
  obtain ⟨hx, token, htoken⟩ := isFunding_of_describes hleg.describes hleg.flow
  have hnew : ∀ y ∈ a.transactions, y.sessionId ≠ x.sessionId := by
    intro y hy heq
    rw [hx.session] at heq
    rcases h.sessions y hy with ⟨hown, -⟩ | hdrawn
    · have hy' : y ∈ c.transactions := by rwa [transactions_of_opened hopened]
      exact (hleg.moved.new y hy').2 (hown.symm.trans heq)
    · obtain ⟨token', htoken'⟩ := h.marked _ hdrawn
      exact fundingMark_ne_sessionMark token token' (by rw [← htoken, ← htoken', heq])
  have hb : b.Lawful := (lawful_of_opened hr h.lawful hopened).moved hleg.moved
  rw [← List.append_nil drawn]
  refine h.append hb hrows ?_ (h.grouped.funding hx hnew) ?_ ?_
  · intro _ hs
    exact absurd hs List.not_mem_nil
  · intro y hy
    obtain rfl := List.mem_singleton.1 hy
    exact .inl ⟨hx.session, token, htoken⟩
  · intro y hy
    obtain rfl := List.mem_singleton.1 hy
    exact hleg.describes.status

/-- An exchange starts a group: its session is new, and no reference of funding looks like it. -/
theorem exchange (h : Paired drawn a) {s t : Session} (hr : RivalFits s) {c d : Tables}
    {order : Order} {plan : Exchange.Plan} {v w : Wallet} {x y : Transaction} {token : String}
    (hplan : order.plan? = some plan) (hdistinct : plan.Distinct)
    (hdebit : Leg now userId plan.source .debit plan.debit
      (order.particulars (sessionMark ++ token)) v x a c)
    (hopened : Relation.ReflTransGen (Opened (Origin s t)) c d)
    (hcredit : Leg now userId plan.target .credit plan.credit
      (order.particulars (sessionMark ++ token)) w y d b)
    (hnew : sessionMark ++ token ∉ drawn) : Paired (drawn ++ [sessionMark ++ token]) b := by
  have hrows : b.transactions = a.transactions ++ [x, y] := by
    rw [hcredit.moved.transactions, transactions_of_opened hopened, hdebit.moved.transactions,
      List.append_assoc, List.singleton_append]
  have hd : d.Lawful := lawful_of_opened hr (h.lawful.moved hdebit.moved) hopened
  have hcurrency : v.currency ≠ w.currency := by
    rw [hdebit.currency, hcredit.currency]
    exact hdistinct.distinct
  have hwallet := wallets_ne hd hcurrency hdebit.moved hopened hcredit.moved
  obtain ⟨hlegs, hsession⟩ : AreLegs x y ∧ x.sessionId = sessionMark ++ token := by
    refine areLegs_of_describes (append_ne_empty (by decide) token) (saysOfExchange hplan _)
      hdebit.describes hcredit.describes hdebit.flow hcredit.flow ?_ ?_ ?_
    · rw [hdebit.moved.userId, hcredit.moved.userId, hdebit.userId, hcredit.userId]
    · rwa [hdebit.moved.walletId, hcredit.moved.walletId]
    · rwa [hdebit.moved.currency, hcredit.moved.currency]
  have hfresh : ∀ z ∈ a.transactions, z.sessionId ≠ x.sessionId := by
    intro z hz heq
    rw [hsession] at heq
    rcases h.sessions z hz with ⟨hown, token', htoken'⟩ | hdrawn
    · exact fundingMark_ne_sessionMark token' token (by rw [← htoken', ← hown, heq])
    · exact hnew (heq ▸ hdrawn)
  have hmem : ∀ z ∈ [x, y], z = x ∨ z = y := fun z hz => by simpa using hz
  refine h.append (hd.moved hcredit.moved) hrows ?_ (h.grouped.exchange hlegs hfresh) ?_ ?_
  · intro s hs
    exact ⟨token, List.mem_singleton.1 hs⟩
  · intro z hz
    have hlast : x.sessionId ∈ drawn ++ [sessionMark ++ token] :=
      List.mem_append_right _ (List.mem_singleton.2 hsession)
    rcases hmem z hz with rfl | rfl
    · exact .inr hlast
    · exact .inr (hlegs.session ▸ hlast)
  · intro z hz
    rcases hmem z hz with rfl | rfl
    · exact hdebit.describes.status
    · exact hcredit.describes.status

/-- A call keeps the rows grouped, if the session that it draws has not been drawn before. -/
theorem step {r : Run} (hr : Settled r.session) (h : Paired drawn r.session.committed) {x : Step}
    (hnew : ∀ s ∈ x.sessionId?, s ∉ drawn) :
    Paired (drawn ++ x.sessionId?.toList) (r.next x).committed := by
  have hfits : RivalFits (under r.session x.conditions) := x.conditions.rival_fits
  rcases ((Run.Sound.mk hr h.lawful).effect x).tables with hupholds | ⟨order, rows, horder, hdone⟩
  · exact h.opened hfits (opened_of_upholds hupholds) Step.marked
  · have hsession : x.sessionId? = order.plan?.map fun _ => x.conditions.names.session.1 := by
      rw [Step.sessionId?, horder]
    have hproper := Call.proper_order horder
    generalize (r.next x).committed = b at hdone
    cases hdone with
    | funding hopened hleg =>
      rw [hsession]
      simpa [Order.plan?] using h.funding hfits hopened hleg
    | @exchange order plan v w y z c d hplan hdebit hopened hcredit =>
      rw [hsession, hplan] at hnew ⊢
      have hdistinct : plan.Distinct := by
        cases order <;> simp only [Order.plan?, Option.some.injEq, reduceCtorEq] at hplan
        all_goals exact hplan ▸ hproper
      exact h.exchange hfits hplan hdistinct hdebit hopened hcredit (hnew _ rfl)

end Paired

theorem Run.paired_steps {r : Run} (hr : Settled r.session) {drawn : List String}
    (h : Paired drawn r.session.committed) (xs : List Step)
    (hnew : (drawn ++ xs.filterMap Step.sessionId?).Nodup) :
    Paired (drawn ++ xs.filterMap Step.sessionId?) (r.steps xs).session.committed := by
  induction xs generalizing r drawn with
  | nil =>
    rw [List.filterMap_nil, List.append_nil]
    exact h
  | cons x xs ih =>
    have hsplit : drawn ++ (x :: xs).filterMap Step.sessionId? =
        drawn ++ x.sessionId?.toList ++ xs.filterMap Step.sessionId? := by
      rw [List.filterMap_cons]
      cases x.sessionId? <;> simp
    rw [hsplit] at hnew ⊢
    refine ih (((Run.Sound.mk hr h.lawful).effect x).settled) (h.step hr ?_) hnew
    intro s hs hdrawn
    have hdisjoint := (List.nodup_append.1 (List.nodup_append.1 hnew).1).2.2
    exact hdisjoint s hdrawn s (Option.mem_toList.2 hs) rfl

/--
After any calls on a store without money, however each of them ended, if no session was drawn twice:
the rows of a session are a funding alone or the two legs of an exchange, side by side; every row is
completed, and no two rows have one reference.
-/
theorem Run.rows_paired (users : List User) (activities : List Activity) (clock : Moment)
    (xs : List Step) (h : (xs.filterMap Step.sessionId?).Nodup) :
    let rows := ((start users activities clock).steps xs).session.committed.transactions
    (∀ x ∈ rows, (inSession rows x.sessionId = [x] ∧ IsFunding x) ∨
      ∃ d c, inSession rows x.sessionId = [d, c] ∧ AreLegs d c ∧ [d, c] <:+: rows) ∧
    (∀ x ∈ rows, x.status = .completed) ∧ (rows.map (·.reference)).Nodup := by
  have hstart : Paired [] (start users activities clock).session.committed := by
    refine ⟨.empty rfl rfl, .nil, ?_, ?_, ?_⟩
    all_goals exact fun _ h => absurd h List.not_mem_nil
  have hpaired := paired_steps (sound_start users activities clock).settled hstart xs h
  exact ⟨fun x hx => hpaired.grouped.inSession hx, hpaired.completed, hpaired.lawful.references⟩

/-- Nothing fails, and names are numbered from a number on. -/
def fairConditions (n : Nat) : Conditions where
  names := ⟨⟨[], n⟩, ⟨[], n⟩, ⟨[], n⟩, ⟨[], n⟩⟩
  clock := ⟨⟨2024, 1, 15⟩, 12, 0, 0⟩
  rival_fits := by simp

/-- A thousand kobo come in, three hundred go; then there is no rate; then ten cents are sold. -/
def tradingDay : List Step :=
  [{ call := .fund 1 (.int 1000) (.text "NGN"), conditions := fairConditions 1 },
   { call := conversionOfKobo, conditions := fairConditions 11 },
   { call := .convert Exchange.noRates 1 (.text "NGN") (.text "USD") (.int 5)
     conditions := fairConditions 21 },
   { call := .trade (Exchange.oneRate (.text "0.5")) 1 (.text "USD") (.text "NGN") (.int 10)
       (.text "sell")
     conditions := fairConditions 31 }]

theorem Run.trading_day_paired :
    (tradingDay.filterMap Step.sessionId?).Nodup ∧
    let rows :=
      ((start [] [] ⟨⟨2024, 1, 15⟩, 12, 0, 0⟩).steps tradingDay).session.committed.transactions
    rows.length = 5 ∧
    (∀ x ∈ rows, (inSession rows x.sessionId = [x] ∧ IsFunding x) ∨
      ∃ d c, inSession rows x.sessionId = [d, c] ∧ AreLegs d c ∧ [d, c] <:+: rows) ∧
    (∀ x ∈ rows, x.status = .completed) ∧ (rows.map (·.reference)).Nodup :=
  have h : (tradingDay.filterMap Step.sessionId?).Nodup := by decide +kernel
  ⟨h, by decide +kernel, Run.rows_paired [] [] _ tradingDay h⟩

end CurrencyLedger.Operation
