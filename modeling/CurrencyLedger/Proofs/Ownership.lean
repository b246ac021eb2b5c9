import CurrencyLedger.Proofs.Turns

/-!
Whose wallet it is.

A user has at most one wallet in a currency, and resolving is idempotent. It has three ways to a
wallet: one is there, or a new one is inserted, or a rival has been faster and its wallet is there
by then. Whichever way it was, from then on the wallet is what the user has in the currency, however
the currency is spelled. Only who gives up what is pending can end that, and only as long as the
wallet has not been committed.

A rival who comes between the lookup and the insertion decides which way is taken. So its coming is
looked at first.
-/

namespace CurrencyLedger

open Session Wallets

/-- One wallet to a user and currency, in currencies that are written as three capital letters. -/
structure Tables.Owned (t : Tables) : Prop where
  owners : (t.wallets.map fun w => (w.userId, w.currency)).Nodup
  codes : ∀ w ∈ t.wallets, Currency.isCode w.currency = true

namespace Session

/-- A rival is about to come, and nothing is in the way of its wallet. -/
structure Wins (s : Session) (r : Rival) : Prop where
  comes : s.rival = some r
  named : s.working.wallet? (s.rivalWallet r).id = none
  absent : s.working.walletOf? r.userId r.currency = none

/-- The rival's wallet stands behind the others then. -/
theorem Wins.on_admitRival {s : Session} {r : Rival} (h : s.Wins r) :
    (admitRival.on s).2.working =
      { s.working with wallets := s.working.wallets ++ [s.rivalWallet r] } := by
  have hinsert := Tables.insertWallet?_eq_some.2 ⟨h.named, h.absent, rfl⟩
  rw [admitRival, Action.on_update, h.comes]
  simp only [hinsert, Option.getD_some]

/-- It is committed already, if the rival has a transaction of its own and room there, too. -/
theorem Wins.mem_committed {s : Session} {r : Rival} (h : s.Wins r)
    (hindependent : r.independent = true)
    (hnamed : s.committed.wallet? (s.rivalWallet r).id = none)
    (habsent : s.committed.walletOf? r.userId r.currency = none) :
    s.rivalWallet r ∈ (admitRival.on s).2.committed.wallets := by
  have hworking := Tables.insertWallet?_eq_some.2 ⟨h.named, h.absent, rfl⟩
  have hcommitted := Tables.insertWallet?_eq_some.2 ⟨hnamed, habsent, rfl⟩
  rw [admitRival, Action.on_update, h.comes]
  simp [committedWith, hindependent, hworking, hcommitted]

/-- A rival who wins leaves no room for a wallet of one's own. -/
theorem Wins.insertWallet?_eq_none {s : Session} {r : Rival} (h : s.Wins r) {w : Wallet}
    (huser : r.userId = w.userId) (hcurrency : r.currency = w.currency) :
    (admitRival.on s).2.working.insertWallet? w = none := by
  cases hinsert : (admitRival.on s).2.working.insertWallet? w with
  | none => rfl
  | some b =>
    obtain ⟨-, howner, -⟩ := Tables.insertWallet?_eq_some.1 hinsert
    rw [Tables.walletOf?_eq_none, h.on_admitRival] at howner
    exact absurd hcurrency
      (howner _ (List.mem_append_right _ (List.mem_singleton_self _)) huser)

/-- What is looked up afterwards is the wallet of a rival who wins. -/
theorem Wins.walletOf? {s : Session} {r : Rival} (h : s.Wins r) :
    (admitRival.on s).2.working.walletOf? r.userId r.currency = some (s.rivalWallet r) := by
  rw [h.on_admitRival, Tables.walletOf?_of_insertWallet?
    (Tables.insertWallet?_eq_some.2 ⟨h.named, h.absent, rfl⟩), if_pos ⟨rfl, rfl⟩]

/-- Nobody's wallet is added but that of a rival. -/
theorem wallets_of_admitRival (s : Session) : ∃ more,
    (admitRival.on s).2.working = { s.working with wallets := s.working.wallets ++ more } ∧
      ∀ v ∈ more, ∃ r, s.rival = some r ∧ v = s.rivalWallet r := by
  have hnone : s.working = { s.working with wallets := s.working.wallets ++ [] } := by
    rw [List.append_nil]
  rcases Session.on_admitRival s with hsame | ⟨r, hr, hcame⟩
  · exact ⟨[], by rw [hsame]; exact hnone, by simp⟩
  · rw [hcame]
    cases hinsert : s.working.insertWallet? (s.rivalWallet r) with
    | none => exact ⟨[], hnone, by simp⟩
    | some b =>
      obtain ⟨-, -, rfl⟩ := Tables.insertWallet?_eq_some.1 hinsert
      exact ⟨[s.rivalWallet r], rfl, by simpa using ⟨r, hr, rfl⟩⟩

end Session

namespace Wallets

/-- The answer of resolving, in a session that knows how each wallet was named. -/
structure Resolved (s : Session) (userId : Int) (currency : Value) (w : Wallet) (t : Session) :
    Prop where
  spelled : Currency.normalize currency = .ok w.currency
  user : w.userId = userId
  there : w ∈ t.working.wallets
  /-- A wallet that was there is the answer, and nothing has changed. -/
  existing : ∀ v ∈ s.working.wallets, v.userId = userId → v.currency = w.currency →
    w = v ∧ t.working = s.working
  /--
  Otherwise a rival's wallet is the answer, if there is a rival for it, and stays whatever becomes
  of the session, if the rival's transaction is its own.
  -/
  won : s.working.walletOf? userId w.currency = none → ∀ r, s.rival = some r →
    r.userId = userId → r.currency = w.currency → w = s.rivalWallet r ∧
      (r.independent = true → w ∈ t.committed.wallets)
  /-- The other rows are what they were; at most that of a rival has been added. -/
  others : ∃ more, t.working = { s.working with wallets := s.working.wallets ++ more } ∧
    ∀ v ∈ more, v = w ∨ ∃ r, s.rival = some r ∧ v = s.rivalWallet r
  committed : Upholds s t

/-- A wallet that is there is found, and resolving goes no further. -/
theorem resolve_of_found {userId : Int} {code : String} {v : Wallet} {s : Session}
    (hfound : s.working.walletOf? userId code = some v) {currency : Value}
    (hcode : Currency.normalize currency = .ok code) {w : Wallet} {t : Session}
    (h : (resolve userId currency).on s = (.ok w, t)) : w = v ∧ t = s := by
  obtain ⟨c, hc, hcase⟩ := resolution_of_ok h
  obtain rfl : code = c := Except.ok.inj (hcode.symm.trans hc)
  cases hcase with
  | found hfound' => exact ⟨Option.some.inj (hfound'.symm.trans hfound), rfl⟩
  | created habsent => simp [hfound] at habsent
  | lost habsent => simp [hfound] at habsent

/-- Nothing but a failing statement keeps it from being the answer. -/
theorem on_resolve_of_found {userId : Int} {code : String} {v : Wallet} {s : Session}
    (hfound : s.working.walletOf? userId code = some v) (hfits : Column.fits userId = true)
    (haborted : s.aborted = false) (hfault : s.faults .resolveWallet = none) {currency : Value}
    (hcode : Currency.normalize currency = .ok code) :
    (resolve userId currency).on s = (.ok v, s) := by
  rw [resolve, Action.on_bind_of_ok (t := s) (x := code) _ (by rw [Action.on_check, hcode]; rfl),
    Action.on_bind_of_ok (t := s) (x := some v) _
      (on_query_eq_ok.2 ⟨hfault, haborted, by simpa using hfits, hfound, rfl⟩)]
  rfl

/-- Who has a wallet is a user whose identifier fits its column. -/
theorem fits_of_resolve {userId : Int} {currency : Value} {w : Wallet} {s t : Session}
    (h : (resolve userId currency).on s = (.ok w, t)) : Column.fits userId = true := by
  obtain ⟨code, _, -, h⟩ := Action.on_bind_eq_ok.1 h
  obtain ⟨found, _, hquery, -⟩ := Action.on_bind_eq_ok.1 h
  obtain ⟨-, -, hfits, -⟩ := on_query_eq_ok.1 hquery
  simpa using hfits

/-- Who comes first wins: resolving answers with the wallet of a rival who does. -/
theorem resolve_of_wins {s t : Session} {r : Rival} (h : s.Wins r) {currency : Value} {w : Wallet}
    (hcurrency : Currency.normalize currency = .ok r.currency)
    (hresolve : (resolve r.userId currency).on s = (.ok w, t)) :
    w = s.rivalWallet r ∧ t.committed = (admitRival.on s).2.committed ∧
      t.working = { s.working with wallets := s.working.wallets ++ [s.rivalWallet r] } := by
  obtain ⟨code, hcode, hcase⟩ := resolution_of_ok hresolve
  obtain rfl : r.currency = code := Except.ok.inj (hcurrency.symm.trans hcode)
  cases hcase with
  | found hfound =>
    rw [h.absent] at hfound
    cases hfound
  | created habsent hinsert hrivals hcommitted =>
    rw [h.insertWallet?_eq_none rfl rfl] at hinsert
    cases hinsert
  | lost habsent hwon =>
    exact ⟨Option.some.inj (hwon.symm.trans h.walletOf?), rfl, h.on_admitRival⟩

/-- Resolving adds at most the wallet that it answers with and that of a rival. -/
theorem wallets_of_resolve {userId : Int} {currency : Value} {w : Wallet} {s t : Session}
    (h : (resolve userId currency).on s = (.ok w, t)) :
    ∃ more, t.working = { s.working with wallets := s.working.wallets ++ more } ∧
      ∀ v ∈ more, v = w ∨ ∃ r, s.rival = some r ∧ v = s.rivalWallet r := by
  obtain ⟨more, hworking, hmore⟩ := wallets_of_admitRival s
  obtain ⟨code, hcode, hcase⟩ := resolution_of_ok h
  cases hcase with
  | found hfound => exact ⟨[], by rw [List.append_nil], by simp⟩
  | @created name _ habsent hinsert hrivals hcommitted =>
    obtain ⟨-, -, hinsert⟩ := Tables.insertWallet?_eq_some.1 hinsert
    refine ⟨more ++ [empty ("w" ++ name) userId code (admitRival.on s).2.clock], ?_, ?_⟩
    · rw [← hinsert, hworking, List.append_assoc]
    intro v hv
    rcases List.mem_append.1 hv with hv | hv
    · exact .inr (hmore v hv)
    · exact .inl (List.mem_singleton.1 hv)
  | lost habsent hwon => exact ⟨more, hworking, fun v hv => .inr (hmore v hv)⟩

end Wallets

namespace Operation

/-- A rival for a wallet that is not there wins, if the ledger names what comes in. -/
theorem Coherent.wins {s : Session} (hs : Coherent s) {r : Rival} (hr : s.rival = some r)
    (habsent : s.working.walletOf? r.userId r.currency = none) : s.Wins r :=
  ⟨hr, hs.working.wallet?_rivalName, habsent⟩

/-- Who has no wallet in the working tables has none in the committed ones. -/
theorem Coherent.absent {s : Session} (hs : Coherent s) {userId : Int} {currency : String}
    (h : s.working.walletOf? userId currency = none) :
    s.committed.walletOf? userId currency = none := by
  rw [Tables.walletOf?_eq_none] at h ⊢
  rintro w hw rfl rfl
  obtain ⟨v, hv, hidentity⟩ := hs.kept.exists_wallet hw
  simp only [Wallet.identity, Prod.mk.injEq] at hidentity
  exact h v hv hidentity.2.1 hidentity.2.2

theorem Coherent.resolved {s : Session} (hs : Coherent s) {userId : Int} {currency : Value}
    {w : Wallet} {t : Session} (h : (resolve userId currency).on s = (.ok w, t)) :
    Resolved s userId currency w t := by
  obtain ⟨code, hcode, hw, -⟩ := on_resolve_eq_ok h
  obtain ⟨hmem, huser, rfl⟩ := Tables.walletOf?_eq_some hw
  constructor
  case spelled => exact hcode
  case user => exact huser
  case there => exact hmem
  case existing =>
    intro v hv hvuser hvcurrency
    have hfound := Tables.walletOf?_of_mem hs.working.lawful.owners hv
    rw [hvuser, hvcurrency] at hfound
    obtain ⟨hwv, rfl⟩ := resolve_of_found hfound hcode h
    exact ⟨hwv, rfl⟩
  case won =>
    rintro habsent r hr rfl hrcurrency
    rw [← hrcurrency] at habsent hcode
    have hwins := hs.wins hr habsent
    obtain ⟨rfl, hcommitted, -⟩ := resolve_of_wins hwins hcode h
    refine ⟨rfl, fun hindependent => ?_⟩
    rw [hcommitted]
    exact hwins.mem_committed hindependent hs.committed.wallet?_rivalName (hs.absent habsent)
  case others => exact wallets_of_resolve h
  case committed =>
    have hsame : SameUnit s t := by simpa [h] using within_resolve userId currency s
    exact hsame.upholds

/-- The rows of an order are about wallets of the user that are there in the end. -/
theorem Order.Done.exists_wallet {origin : Wallet → Prop} {now : Moment} {userId : Int}
    {sessionId : String} {a b : Tables} {order : Order} {rows : List Transaction}
    (h : order.Done origin now userId sessionId a b rows) {x : Transaction} (hx : x ∈ rows) :
    ∃ v ∈ b.wallets, v.identity = (x.walletId, userId, x.currency) := by
  have of_leg {code : String} {flow : Transaction.Flow} {amount : Int} {p : History.Particulars}
      {v : Wallet} {y : Transaction} {c d : Tables}
      (hleg : Leg now userId code flow amount p v y c d)
      (hgrown : c.Grown b) : ∃ u ∈ b.wallets, u.identity = (y.walletId, userId, y.currency) := by
    obtain ⟨u, hu, hidentity⟩ :=
      hgrown.kept.exists_wallet (Tables.wallet?_eq_some hleg.moved.found).1
    refine ⟨u, hu, hidentity.trans ?_⟩
    rw [Wallet.identity, hleg.userId, hleg.moved.walletId, hleg.moved.currency]
  have hgrown := Tables.Grown.of_deeds h.deeds
  cases h with
  | funding opened leg =>
    rw [List.mem_singleton.1 hx]
    exact of_leg leg (.of_moved leg.moved)
  | exchange hplan debit opened credit =>
    rcases List.mem_cons.1 hx with rfl | hx
    · exact of_leg debit hgrown
    · rw [List.mem_singleton.1 hx]
      exact of_leg credit (.of_moved credit.moved)

/-- Whoever asks the session for the wallet, in any spelling of its currency, gets it. -/
structure Keeps (w : Wallet) (s : Session) : Prop where
  finding : ∀ spelling found t, Currency.normalize spelling = .ok w.currency →
    (find w.userId spelling).on s = (.ok found, t) → ∃ v, found = some v ∧ v.identity = w.identity
  resolving : ∀ spelling v t, Currency.normalize spelling = .ok w.currency →
    (resolve w.userId spelling).on s = (.ok v, t) → v.identity = w.identity ∧ t = s
  finds : s.aborted = false → s.faults .findWallet = none → ∀ spelling,
    Currency.normalize spelling = .ok w.currency →
    ∃ v, (find w.userId spelling).on s = (.ok (some v), s)
  resolves : s.aborted = false → s.faults .resolveWallet = none → ∀ spelling,
    Currency.normalize spelling = .ok w.currency →
    ∃ v, (resolve w.userId spelling).on s = (.ok v, s)
  /-- So does a call of the user, which finds and resolves on its way. -/
  moving : ∀ (c : Call) (o : Options) answer t, c.userId = w.userId →
    (c.run o).on s = (.ok answer, t) → ∀ x ∈ answer.rows, x.currency = w.currency →
    x.walletId = w.id

theorem Coherent.keeps {s : Session} (hs : Coherent s) (hr : RivalFits s) {w : Wallet}
    (hfits : Column.fits w.userId = true)
    (hw : w.identity ∈ s.working.wallets.map Wallet.identity) : Keeps w s := by
  obtain ⟨v, hv, hidentity⟩ := List.mem_map.1 hw
  obtain ⟨-, huser, hcurrency⟩ : v.id = w.id ∧ v.userId = w.userId ∧ v.currency = w.currency := by
    simpa only [Wallet.identity, Prod.mk.injEq] using hidentity
  have hfound := Tables.walletOf?_of_mem hs.working.lawful.owners hv
  rw [huser, hcurrency] at hfound
  constructor
  case finding =>
    intro spelling found t hspelling h
    obtain ⟨code, hcode, -, -, -, h, -⟩ := on_find_eq_ok.1 h
    rw [← Except.ok.inj (hspelling.symm.trans hcode), hfound] at h
    exact ⟨v, h.symm, hidentity⟩
  case resolving =>
    intro spelling u t hspelling h
    obtain ⟨rfl, rfl⟩ := resolve_of_found hfound hspelling h
    exact ⟨hidentity, rfl⟩
  case finds =>
    intro haborted hfault spelling hspelling
    exact ⟨v, on_find_eq_ok.2 ⟨_, hspelling, hfault, haborted, hfits, hfound, rfl⟩⟩
  case resolves =>
    intro haborted hfault spelling hspelling
    exact ⟨v, on_resolve_of_found hfound hfits haborted hfault hspelling⟩
  case moving =>
    intro c o answer t hcaller hrun x hx hxcurrency
    obtain ⟨-, -, order, -, hdone⟩ := Call.done_of_run hs.working.lawful hr hrun
    have hlawful := kept_of_deeds (Tables.Lawful.deed fun _ => fits_of_origin hr) hdone.deeds
      hs.working.lawful
    obtain ⟨u, hu, hu'⟩ := hdone.exists_wallet hx
    obtain ⟨v', hv', hidentity'⟩ := (Tables.Grown.of_deeds hdone.deeds).kept.exists_wallet hv
    -- Both have the same owner, so they are one wallet.
    rw [hidentity] at hidentity'
    simp only [Wallet.identity, Prod.mk.injEq] at hu' hidentity'
    have howner : (u.userId, u.currency) = (v'.userId, v'.currency) := by
      rw [hu'.2.1, hu'.2.2, hidentity'.2.1, hidentity'.2.2, hcaller, hxcurrency]
    obtain rfl := List.inj_on_of_nodup_map hlawful.owners hu hv' howner
    exact hu'.1.symm.trans hidentity'.1

/-! ### As long as it is not undone -/

/-- In the course of turns, what is pending is given up while a wallet is not yet committed. -/
def Undone (w : Wallet) (s : Session) (xs : List Turn) : Prop :=
  ∃ front x rest, xs = front ++ x :: rest ∧
    x.move.Undoes (into (turns s front) x.surroundings) ∧
    w.identity ∉ (turns s front).committed.wallets.map Wallet.identity

/-- A turn that does not undo a wallet leaves it in the working tables. -/
theorem Coherent.mem_turn {s : Session} (hs : Coherent s) (x : Turn) {w : Wallet}
    (hw : w.identity ∈ s.working.wallets.map Wallet.identity)
    (hkept : x.move.Undoes (Operation.into s x.surroundings) →
      w.identity ∈ s.committed.wallets.map Wallet.identity) :
    w.identity ∈ (Operation.turn s x).working.wallets.map Wallet.identity := by
  have hs' := hs.into x.surroundings
  have hending := x.move.ending hs'.working.lawful x.surroundings.rival_fits
  show _ ∈ (x.move.after (Operation.into s x.surroundings)).working.wallets.map Wallet.identity
  generalize x.move.after (Operation.into s x.surroundings) = t at hending ⊢
  cases hending with
  | pending hupholds hkept hdeeds => exact (Tables.Grown.of_deeds hdeeds).wallets.subset hw
  | committed hcommitted hdeeds => exact (Tables.Grown.of_deeds hdeeds).wallets.subset hw
  | undone hundoes hupholds hworking =>
    rw [hworking]
    exact (grown_of_upholds hupholds).wallets.subset (hkept hundoes)

theorem Coherent.mem_turns {s : Session} (hs : Coherent s) {w : Wallet}
    (hw : w.identity ∈ s.working.wallets.map Wallet.identity) {xs : List Turn}
    (hkept : ¬Undone w s xs) :
    w.identity ∈ (Operation.turns s xs).working.wallets.map Wallet.identity := by
  induction xs generalizing s with
  | nil => exact hw
  | cons x xs ih =>
    refine ih (hs.turn x).1 (hs.mem_turn x hw fun hundoes => ?_) ?_
    · by_contra hnot
      exact hkept ⟨[], x, xs, rfl, hundoes, hnot⟩
    · rintro ⟨front, y, rest, rfl, hy⟩
      exact hkept ⟨x :: front, y, rest, rfl, hy⟩

/--
Whatever turns are taken on a store without money, a user has at most one wallet in a currency, in
the committed tables and in those that the session sees. And whatever resolving meets then, a wallet
that it answers with is the right one, and what the user is answered in that currency later on,
until it is undone.
-/
theorem one_wallet_per_currency (users : List User) (activities : List Activity) (clock : Moment)
    (xs : List Turn) :
    let s := turns (opening users activities clock) xs
    s.committed.Owned ∧ s.working.Owned ∧
      ∀ (x : Surroundings) (userId : Int) (currency : Value) (w : Wallet) (t : Session),
        (resolve userId currency).on (into s x) = (.ok w, t) →
          Resolved (into s x) userId currency w t ∧
          ∀ ys, ¬Undone w t ys → ∀ y : Surroundings, Keeps w (into (turns t ys) y) := by
  intro s
  have hs : Coherent s := ((coherent_opening users activities clock).turns xs).1
  refine ⟨⟨hs.committed.lawful.owners, hs.committed.codes⟩,
    ⟨hs.working.lawful.owners, hs.working.codes⟩, ?_⟩
  intro x userId currency w t h
  have hresolved := (hs.into x).resolved h
  have ht : Coherent t := by
    have hturn := (hs.turn ⟨.resolve userId currency, x⟩).1
    replace hturn : Coherent ((resolve userId currency).on (into s x)).2 := hturn
    rwa [h] at hturn
  refine ⟨hresolved, fun ys hys y => ?_⟩
  have hmem := ht.mem_turns (List.mem_map_of_mem hresolved.there) hys
  refine ((ht.turns ys).1.into y).keeps y.rival_fits ?_ hmem
  rw [hresolved.user]
  exact fits_of_resolve h

/-- The surroundings of a user who is about to get a wallet of dollars from elsewhere. -/
def rivalled : Surroundings where
  clock := ⟨⟨2024, 1, 15⟩, 12, 0, 0⟩
  rival := some { userId := 1, currency := "USD", balance := 50 }
  rival_fits := by
    rintro r ⟨⟩
    decide
  rival_codes := by
    rintro r ⟨⟩
    decide

/-- The wallet that the rival is about to create. -/
def rivalsDollars : Wallet where
  id := "rival1"
  userId := 1
  currency := "USD"
  balance := 50
  createdAt := ⟨⟨2024, 1, 15⟩, 12, 0, 0⟩
  updatedAt := ⟨⟨2024, 1, 15⟩, 12, 0, 0⟩

theorem one_wallet_after_lost_race :
    let s := into (opening [] [] rivalled.clock) rivalled
    let asked := (resolve 1 (.text "usd")).on s
    asked.1.toOption = some rivalsDollars ∧
      Resolved s 1 (.text "usd") rivalsDollars asked.2 ∧
      ∀ ys, ¬Undone rivalsDollars asked.2 ys → ∀ y : Surroundings,
        Keeps rivalsDollars (into (turns asked.2 ys) y) := by
  intro s asked
  have h : asked.1.toOption = some rivalsDollars := by decide +kernel
  exact ⟨h, (one_wallet_per_currency [] [] rivalled.clock []).2.2 rivalled 1 (.text "usd")
    rivalsDollars asked.2 (Action.on_eq_ok h)⟩

end Operation

end CurrencyLedger
