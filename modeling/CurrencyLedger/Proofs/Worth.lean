import CurrencyLedger.Proofs.Commuting
import CurrencyLedger.Proofs.Pricing
import CurrencyLedger.Proofs.Replay

/-!
What wallets are worth.

By a table of rates every balance is worth some dollars, and so is all that a user has. An exchange
takes from one wallet of the user what it gives up and adds to another what it receives, so it
changes the worth by the difference of the two. That is no more than half a smallest unit, because
what is received is rounded to the nearest one, and a tolerance. The half units add up: a cent that
is exchanged to and fro can become two.
-/

namespace CurrencyLedger

open Operation Wallets

/-- What a wallet is worth, by a table. -/
def Wallet.worth (table : Rate.Table) (w : Wallet) : ℚ := w.balance / table.units w.currency

/-- What the wallets of a user are worth together. -/
def Tables.worth (table : Rate.Table) (userId : Int) (t : Tables) : ℚ :=
  ((t.wallets.filter fun w => w.userId == userId).map (Wallet.worth table)).sum

namespace Tables

variable {table : Rate.Table} {userId : Int} {a b : Tables}

/-- Setting the balance of a wallet changes the worth by what the wallet gains. -/
theorem worth_setBalance (ha : a.Lawful) {w : Wallet} (hw : w ∈ a.wallets) (n : Nat)
    (now : Moment) : (a.setBalance w.id n now).worth table w.userId =
      a.worth table w.userId + ((n : ℚ) - w.balance) / table.units w.currency := by
  obtain ⟨front, back, hsplit⟩ := List.append_of_mem hw
  have hids := ha.walletIds
  rw [hsplit, List.map_append, List.map_cons, List.nodup_middle, List.nodup_cons] at hids
  have hother : ∀ v ∈ front ++ back, v.id ≠ w.id := by
    intro v hv hid
    refine hids.1 ?_
    rw [← List.map_append, ← hid]
    exact List.mem_map_of_mem hv
  -- The rows on both sides of the wallet stay as they are.
  have hstay (vs : List Wallet) (hvs : ∀ v ∈ vs, v.id ≠ w.id) : (vs.map fun v =>
      if v.id == w.id then { v with balance := n, updatedAt := now } else v) = vs := by
    refine (List.map_congr_left fun v hv => ?_).trans (List.map_id _)
    simp [hvs v hv]
  have hfront := hstay front fun v hv => hother v (List.mem_append_left _ hv)
  have hback := hstay back fun v hv => hother v (List.mem_append_right _ hv)
  simp only [worth, setBalance, hsplit, List.map_append, List.map_cons, hfront, hback]
  simp only [beq_self_eq_true, if_true, List.filter_append, List.filter_cons, List.map_append,
    List.map_cons, List.sum_append, List.sum_cons, Wallet.worth]
  ring

/-- A movement changes the worth by the amount that it moves. -/
theorem worth_moved (ha : a.Lawful) {now : Moment} {w : Wallet} {x : Transaction}
    (h : Moved now w x a b) : b.worth table w.userId =
      a.worth table w.userId + x.change / table.units w.currency := by
  have hmem := (wallet?_eq_some h.found).1
  have hgain : ((balanceAfter x.flow w.balance x.amount : Nat) : ℚ) - w.balance = x.change := by
    rw [sub_eq_iff_eq_add']
    exact_mod_cast h.balance.symm
  rw [← hgain, ← worth_setBalance ha hmem _ now, worth, worth, h.wallets]

section

variable {now : Moment} {currency : String} {amount : Int} {p : History.Particulars} {w : Wallet}
  {x : Transaction}

theorem worth_debit (ha : a.Lawful) (h : Leg now userId currency .debit amount p w x a b) :
    b.worth table userId = a.worth table userId - amount / table.units currency := by
  have hchange : x.change = -amount := by
    rw [Transaction.change, h.flow]
    exact congrArg Neg.neg h.amount
  rw [← h.userId, worth_moved ha h.moved, hchange, h.currency]
  push_cast
  ring

theorem worth_credit (ha : a.Lawful) (h : Leg now userId currency .credit amount p w x a b) :
    b.worth table userId = a.worth table userId + amount / table.units currency := by
  have hchange : x.change = amount := by
    rw [Transaction.change, h.flow]
    exact h.amount
  rw [← h.userId, worth_moved ha h.moved, hchange, h.currency]

end

/-- Wallets that come in empty, or for somebody else, add nothing to the worth. -/
theorem worth_opened {origin : Wallet → Prop}
    (horigin : ∀ w, origin w → w.userId = userId → w.balance = 0)
    (h : Relation.ReflTransGen (Opened origin) a b) :
    b.worth table userId = a.worth table userId := by
  induction h with
  | refl => rfl
  | tail _ hopened ih =>
    obtain ⟨w, hw, hinsert⟩ := hopened
    obtain ⟨-, -, rfl⟩ := insertWallet?_eq_some.1 hinsert
    rw [← ih, worth, worth, List.filter_append, List.map_append, List.sum_append]
    by_cases huser : w.userId = userId
    · simp [huser, Wallet.worth, horigin w hw huser]
    · simp [huser]

end Tables

namespace Operation

/-- No rival is about to put money into a wallet of the user. -/
def Harmless (userId : Int) (rival : Option Rival) : Prop :=
  ∀ r, rival = some r → r.userId = userId → r.balance = 0

theorem balance_of_origin {userId : Int} {s t : Session} (hs : Harmless userId s.rival) {w : Wallet}
    (h : Origin s t w) (huser : w.userId = userId) : w.balance = 0 := by
  rcases h with ⟨name, owner, code, now, -, rfl⟩ | ⟨-, r, hr, rfl⟩
  · rfl
  · exact hs r hr huser

/-- An exchange adds to the worth what it receives, and takes away what it gives up. -/
theorem Order.Done.worth {table : Rate.Table} {order : Order} {plan : Exchange.Plan}
    (hplan : order.plan? = some plan) {now : Moment} {userId : Int} {sessionId : String}
    {s t : Session} (hfits : RivalFits s) (hs : Harmless userId s.rival) {a b : Tables}
    (ha : a.Lawful) {rows : List Transaction}
    (h : order.Done (Origin s t) now userId sessionId a b rows) :
    b.worth table userId = a.worth table userId - plan.debit / table.units plan.source +
      plan.credit / table.units plan.target ∧ plan.debit ≤ Column.maxInteger := by
  cases h with
  | funding => cases hplan
  | exchange hown debit opened credit =>
    obtain rfl := Option.some.inj (hplan.symm.trans hown)
    have hc := ha.moved debit.moved
    have hd := lawful_of_opened hfits hc opened
    have hmem := (Tables.wallet?_eq_some debit.moved.found).1
    refine ⟨?_, ?_⟩
    · rw [Tables.worth_credit hd credit, Tables.worth_opened (fun _ => balance_of_origin hs) opened,
        Tables.worth_debit ha debit]
    · rw [← debit.amount]
      exact debit.moved.amount_le (ha.balances _ hmem)

/-! ### Exchanges by a table -/

/-- A conversion or a trade at the rates of a table. -/
inductive Call.PricedBy (table : Rate.Table) : Call → Prop
  | convert (userId : Int) (source target amount : Value) :
    PricedBy table (.convert (Exchange.tableRates table) userId source target amount)
  | trade (userId : Int) (base quote amount action : Value) :
    PricedBy table (.trade (Exchange.tableRates table) userId base quote amount action)

/-- What a purchase gives up is worth the amount that was wanted, but for the tolerance. -/
def Order.Covers (table : Rate.Table) : Order → Prop
  | .trade t => t.action = .buy → t.amount / table.units t.base ≤
    t.plan.debit / table.units t.quote * (1 + Amount.tolerance)
  | _ => True

theorem Call.PricedBy.planned {table : Rate.Table} {c : Call} {order : Order}
    (hc : c.PricedBy table) (htable : table.Positive) (h : c.order = .ok order) :
    ∃ p, order.plan? = some p ∧
      (p.debit ≤ Column.maxInteger → p.Priced table ∧ order.Covers table) := by
  have hproper := Call.proper_order h
  have hsized := Call.sized_order h
  cases hc with
  | convert userId source target amount =>
    obtain ⟨c, hc, rfl⟩ := map_eq_ok.1 h
    obtain ⟨a, b, -, -, -, -, hp⟩ := Exchange.plan_of_planConversion hc
    exact ⟨c.plan, rfl, fun hmax =>
      ⟨Exchange.priced_of_plan htable hproper hsized hmax hp, trivial⟩⟩
  | trade userId base quote amount action =>
    obtain ⟨t, ht, rfl⟩ := map_eq_ok.1 h
    obtain ⟨hn, -, -, -, hplanned⟩ := Exchange.planned_of_planTrade ht
    refine ⟨t.plan, rfl, fun hmax => ?_⟩
    cases hplanned with
    | buy haction hp =>
      obtain ⟨hsource, htarget, -⟩ := Exchange.ends_of_plan hp
      have hpriced := Exchange.priced_of_plan htable hproper hsized hmax hp
      have hpos := Amount.pos_of_ofValue hn
      refine ⟨hpriced, fun _ => ?_⟩
      rw [← hsource, ← htarget]
      exact Exchange.covered_of_plan htable hproper hsized hmax hpos hp
    | sell haction hp =>
      refine ⟨Exchange.priced_of_plan htable hproper hsized hmax hp, fun h => ?_⟩
      rw [haction] at h
      cases h

/-- What an exchange gives up is worth. -/
def Order.spent (table : Rate.Table) (order : Order) : ℚ :=
  match order.plan? with
  | some p => p.debit / table.units p.source
  | none => 0

/-- Half a smallest unit of what an exchange receives is worth. -/
def Order.halfUnit (table : Rate.Table) (order : Order) : ℚ :=
  match order.plan? with
  | some p => 1 / 2 / table.units p.target
  | none => 0

/--
Successful exchanges of a user at the rates of a table, one after the other, and what was asked for
in each of them. Nobody else puts money into a wallet of the user meanwhile.
-/
inductive Exchanges (table : Rate.Table) (userId : Int) :
    Session → List Order → Session → Prop
  | nil (s : Session) : Exchanges table userId s [] s
  | cons {c : Call} {o : Options} {k : Conditions} {order : Order} {answer : Answer}
    {s t u : Session} {orders : List Order} (priced : c.PricedBy table) (user : c.userId = userId)
    (alone : Harmless userId k.rival) (sized : c.order = .ok order)
    (made : c.made o k s = (.ok answer, t))
    (rest : Exchanges table userId t orders u) : Exchanges table userId s (order :: orders) u

section

variable {table : Rate.Table} {userId : Int} {s t : Session}

/-- A call leaves the store as it should be. -/
theorem sound_of_made (hs : Settled s) (hlawful : s.committed.Lawful) {c : Call} {o : Options}
    {k : Conditions} {answer : Answer} (hmade : c.made o k s = (.ok answer, t)) :
    Settled t ∧ t.committed.Lawful := by
  have heffect := c.effect o (s := under s k) ⟨hs.working, hs.aborted⟩ hlawful k.rival_fits
  have ht : ((c.run o).on (under s k)).2 = t := congrArg Prod.snd hmade
  rw [ht] at heffect
  exact ⟨heffect.settled, heffect.lawful hlawful k.rival_fits⟩

/-- One exchange adds to the worth no more than its rounding may. -/
theorem worth_of_exchange (htable : table.Positive) (hs : Settled s)
    (hlawful : s.committed.Lawful) {c : Call} {o : Options} {k : Conditions} {order : Order}
    {answer : Answer} (hc : c.PricedBy table) (hk : Harmless c.userId k.rival)
    (hsized : c.order = .ok order) (hmade : c.made o k s = (.ok answer, t)) :
    t.committed.worth table c.userId ≤ s.committed.worth table c.userId +
      (order.spent table * Amount.tolerance + order.halfUnit table) ∧ order.Covers table := by
  have hworking : (under s k).working = s.committed := hs.working
  have hfits : RivalFits (under s k) := k.rival_fits
  obtain ⟨-, -, order', horder, hdone⟩ := Call.done_of_run (hworking ▸ hlawful) hfits hmade
  obtain rfl := Except.ok.inj (hsized.symm.trans horder)
  rw [hworking] at hdone
  obtain ⟨p, hplan, hpriced⟩ := hc.planned htable hsized
  obtain ⟨hworth, hmax⟩ := hdone.worth hplan hfits hk hlawful
  obtain ⟨hp, hcovers⟩ := hpriced hmax
  refine ⟨?_, hcovers⟩
  have hle := hp.le
  rw [hworth, Order.spent, Order.halfUnit, hplan]
  linarith

/--
However many conversions and trades a user makes at the rates of one table, and however small they
are, what the wallets of the user are worth does not grow but by rounding: in each of them by half a
smallest unit of what is received, and by the tolerance of what is given up. What a purchase gives
up is worth the amount that it was to bring in.
-/
theorem worth_of_exchanges (htable : table.Positive) (hs : Settled s)
    (hlawful : s.committed.Lawful) {orders : List Order}
    (h : Exchanges table userId s orders t) :
    t.committed.worth table userId ≤ s.committed.worth table userId +
      (orders.map fun order => order.spent table * Amount.tolerance + order.halfUnit table).sum ∧
    ∀ order ∈ orders, order.Covers table := by
  induction h with
  | nil s => simp
  | cons priced user alone sized made rest ih =>
    subst user
    obtain ⟨hsettled, hlawful'⟩ := sound_of_made hs hlawful made
    obtain ⟨hfirst, hcovers⟩ := worth_of_exchange htable hs hlawful priced alone sized made
    obtain ⟨hrest, hcovered⟩ := ih hsettled hlawful'
    refine ⟨?_, List.forall_mem_cons.2 ⟨hcovers, hcovered⟩⟩
    rw [List.map_cons, List.sum_cons]
    linarith

end

/-! ### A cent that doubles -/

/-- Half a euro for a dollar. -/
def euroTable : Rate.Table := [("USD", .ofInt 1), ("EUR", .finite false 5 (-1))]

/-- A purse with a single cent of a dollar. -/
def purseOfOneCent : Session :=
  .ofTables { wallets := [{ purse with currency := "USD", balance := 1 }] }
    ⟨⟨2024, 1, 15⟩, 12, 0, 0⟩

/-- The cent is converted: half a cent of a euro is rounded up to a whole one. -/
def conversionOfOneCent : Call :=
  .convert (Exchange.tableRates euroTable) 1 (.text "USD") (.text "EUR") (.int 1)

/-- Then one cent of a dollar is bought for it, which brings in two. -/
def purchaseOfOneCent : Call :=
  .trade (Exchange.tableRates euroTable) 1 (.text "USD") (.text "EUR") (.int 1) (.text "buy")

/-- The session in which there are two cents. -/
def purseOfTwoCents : Session :=
  (purchaseOfOneCent.made {} (fairConditions 11)
    (conversionOfOneCent.made {} (fairConditions 1) purseOfOneCent).2).2

/-- What was asked for on the way there. -/
def doublingOrders : List Order :=
  [.conversion ⟨1, ⟨"USD", "EUR", 1, 1, "0.50000000"⟩⟩,
   .trade ⟨1, "USD", "EUR", .buy, ⟨"EUR", "USD", 1, 2, "2.00000000"⟩⟩]

theorem made_of_toBool {c : Call} {k : Conditions} {s : Session}
    (h : (c.made {} k s).1.toBool = true) :
    ∃ answer, c.made {} k s = (.ok answer, (c.made {} k s).2) := by
  rcases hmade : c.made {} k s with ⟨f | answer, t⟩
  · rw [hmade] at h
    cases h
  · exact ⟨answer, rfl⟩

theorem exchanges_of_doubling :
    Exchanges euroTable 1 purseOfOneCent doublingOrders purseOfTwoCents := by
  have hconversion : conversionOfOneCent.order =
      .ok (.conversion ⟨1, ⟨"USD", "EUR", 1, 1, "0.50000000"⟩⟩) :=
    map_eq_ok.2 ⟨_, by decide +kernel, rfl⟩
  have hpurchase : purchaseOfOneCent.order =
      .ok (.trade ⟨1, "USD", "EUR", .buy, ⟨"EUR", "USD", 1, 2, "2.00000000"⟩⟩) :=
    map_eq_ok.2 ⟨_, by decide +kernel, rfl⟩
  obtain ⟨_, hconverted⟩ := made_of_toBool (c := conversionOfOneCent) (k := fairConditions 1)
    (s := purseOfOneCent) (by decide +kernel)
  obtain ⟨_, hbought⟩ := made_of_toBool (c := purchaseOfOneCent) (k := fairConditions 11)
    (s := (conversionOfOneCent.made {} (fairConditions 1) purseOfOneCent).2) (by decide +kernel)
  have halone : Harmless 1 none := fun _ h => by cases h
  exact .cons (.convert ..) rfl halone hconversion hconverted
    (.cons (.trade ..) rfl halone hpurchase hbought (.nil _))

theorem positive_euroTable : euroTable.Positive := by
  show ∀ entry ∈ euroTable, entry.2.isPositive = true
  decide

theorem lawful_purseOfOneCent : purseOfOneCent.committed.Lawful := by
  constructor <;> decide +kernel

theorem doubled_cent_within_rounding :
    (purseOfOneCent.committed.worth euroTable 1 = 1 ∧
      purseOfTwoCents.committed.worth euroTable 1 = 2) ∧
    purseOfTwoCents.committed.worth euroTable 1 ≤ purseOfOneCent.committed.worth euroTable 1 +
      (doublingOrders.map fun order =>
        order.spent euroTable * Amount.tolerance + order.halfUnit euroTable).sum ∧
    ∀ order ∈ doublingOrders, order.Covers euroTable :=
  ⟨by decide +kernel, worth_of_exchanges positive_euroTable ⟨rfl, rfl⟩ lawful_purseOfOneCent
    exchanges_of_doubling⟩

/-- By the tolerance alone the worth is not bounded: of one cent there are two in the end. -/
theorem worth_grows_beyond_tolerance :
    ¬∀ (table : Rate.Table) (userId : Int) (s t : Session) (orders : List Order),
      table.Positive → Settled s → s.committed.Lawful → Exchanges table userId s orders t →
      t.committed.worth table userId ≤ s.committed.worth table userId +
        (orders.map fun order => order.spent table * Amount.tolerance).sum := by
  intro h
  have hbounded := h euroTable 1 purseOfOneCent purseOfTwoCents doublingOrders positive_euroTable
    ⟨rfl, rfl⟩ lawful_purseOfOneCent exchanges_of_doubling
  exact absurd hbounded (by decide +kernel)

end Operation

end CurrencyLedger
