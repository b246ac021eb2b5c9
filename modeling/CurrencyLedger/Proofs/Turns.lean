import CurrencyLedger.Proofs.Replay

/-!
Turns at a session.

Calls leave nothing pending, but a session can hold what has not been committed: whoever works with
it may resolve wallets outside of any unit of work, and commit or roll back at any time. One such
move after the other, each in surroundings of its own, makes a history in which the committed tables
and those that the session sees differ.

Whatever a move is, it does one of three things to the tables. It goes on with what is pending; or
it makes what is pending the committed tables; or it gives up what is pending. So the committed
tables always stand in the working ones, in which balances may have changed, and every commit only
adds to what has been committed.

The transactions that have been committed are the first ones that the session sees. So are the
wallets, as long as every rival writes in the session's own transaction. The wallet of an
independent one is committed at once, while those that the session opened before it are still
pending.
-/

namespace CurrencyLedger

/-- What never changes of a wallet. -/
def Wallet.identity (w : Wallet) : String × Int × String := (w.id, w.userId, w.currency)

/-- The first tables are a beginning of the second ones, up to the balances of wallets. -/
structure Tables.Grown (a b : Tables) : Prop where
  transactions : a.transactions <+: b.transactions
  wallets : a.wallets.map Wallet.identity <+: b.wallets.map Wallet.identity

namespace Tables.Grown

variable {a b c : Tables}

theorem refl (a : Tables) : a.Grown a := ⟨List.prefix_refl _, List.prefix_refl _⟩

theorem trans (hab : a.Grown b) (hbc : b.Grown c) : a.Grown c :=
  ⟨hab.transactions.trans hbc.transactions, hab.wallets.trans hbc.wallets⟩

/-- A movement changes nothing but a balance, and adds its row behind the others. -/
theorem of_moved {now : Moment} {w : Wallet} {x : Transaction} (h : Wallets.Moved now w x a b) :
    a.Grown b := by
  refine ⟨?_, ?_⟩
  · rw [h.transactions]
    exact List.prefix_append _ _
  · have hsame : b.wallets.map Wallet.identity = a.wallets.map Wallet.identity := by
      rw [h.wallets, map_setBalance fun _ _ _ => rfl]
    exact hsame ▸ List.prefix_refl _

/-- A deed moves a balance, or adds a wallet behind the others. -/
theorem of_deed {origin : Wallet → Prop} {now : Moment} (h : Deed origin now a b) : a.Grown b := by
  cases h with
  | opening w hw hinsert =>
    obtain ⟨-, -, rfl⟩ := insertWallet?_eq_some.1 hinsert
    refine ⟨List.prefix_refl _, ?_⟩
    rw [List.map_append]
    exact List.prefix_append _ _
  | movement w x hmoved => exact of_moved hmoved

theorem of_deeds {origin : Wallet → Prop} {now : Moment}
    (h : Relation.ReflTransGen (Deed origin now) a b) : a.Grown b := by
  induction h with
  | refl => exact refl a
  | tail _ hdeed ih => exact ih.trans (of_deed hdeed)

end Tables.Grown

/-- The rows of the first tables stand in the second ones, wallets up to their balances. -/
structure Tables.Kept (a b : Tables) : Prop where
  transactions : a.transactions <+: b.transactions
  wallets : (a.wallets.map Wallet.identity).Sublist (b.wallets.map Wallet.identity)

namespace Tables

variable {a b c : Tables}

theorem Grown.kept (h : a.Grown b) : a.Kept b := ⟨h.transactions, h.wallets.sublist⟩

namespace Kept

theorem refl (a : Tables) : a.Kept a := (Grown.refl a).kept

theorem trans (hab : a.Kept b) (hbc : b.Kept c) : a.Kept c :=
  ⟨hab.transactions.trans hbc.transactions, hab.wallets.trans hbc.wallets⟩

/-- A wallet that both tables take in stands in both, behind the others. -/
theorem insertWallet? (h : a.Kept b) {w : Wallet} {a' b' : Tables}
    (ha : a.insertWallet? w = some a') (hb : b.insertWallet? w = some b') : a'.Kept b' := by
  obtain ⟨-, -, rfl⟩ := insertWallet?_eq_some.1 ha
  obtain ⟨-, -, rfl⟩ := insertWallet?_eq_some.1 hb
  refine ⟨h.transactions, ?_⟩
  rw [List.map_append, List.map_append]
  exact h.wallets.append (.refl _)

/-- A wallet is still there later, with the same identifier, user and currency. -/
theorem exists_wallet (h : a.Kept b) {w : Wallet} (hw : w ∈ a.wallets) :
    ∃ v ∈ b.wallets, v.identity = w.identity :=
  List.mem_map.1 (h.wallets.subset (List.mem_map_of_mem hw))

end Kept

end Tables

namespace Operation

open Session Wallets

/-- What is upheld has only grown. -/
theorem grown_of_upholds {s t : Session} (h : Upholds s t) : s.committed.Grown t.committed :=
  .of_deeds (deed_of_opened s.clock (opened_of_upholds h))

/-- A rival leaves the committed tables standing in the working ones, wherever its wallet is. -/
theorem kept_of_admitRival {s : Session} (h : s.committed.Kept s.working) :
    (admitRival.on s).2.committed.Kept (admitRival.on s).2.working := by
  rcases on_admitRival s with hsame | ⟨r, -, hcame⟩
  · rwa [hsame]
  rw [hcame]
  rcases s.committedWith_cases r with hsame | ⟨-, hroom, hjoined⟩
  · have hworking := Tables.Grown.of_deeds
      (deed_of_opened s.clock (opened_of_admitRival (u := (admitRival.on s).2) rfl rfl))
    rw [hcame] at hworking
    show (s.committedWith r).Kept _
    rw [hsame]
    exact h.trans hworking.kept
  · obtain ⟨b, hinsert⟩ := Option.isSome_iff_exists.1 hroom
    show (s.committedWith r).Kept ((s.working.insertWallet? _).getD s.working)
    rw [hinsert]
    exact h.insertWallet? hjoined hinsert

/-- So does resolving. -/
theorem kept_of_resolve (userId : Int) (currency : Value) {s : Session}
    (h : s.committed.Kept s.working) :
    let t := ((resolve userId currency).on s).2
    t.committed.Kept t.working := by
  rcases hr : (resolve userId currency).on s with ⟨r, t⟩
  rcases on_resolve_cases hr with ⟨-, rfl⟩ | ⟨code, hcode, hcase⟩
  · exact h
  have hcame := kept_of_admitRival h
  cases hcase with
  | found hfound => exact h
  | @created name _ habsent hinsert hrivals hcommitted =>
    have hopened : Deed (fun _ => True) s.clock _ t.working := .opening _ trivial hinsert
    show t.committed.Kept t.working
    rw [hcommitted]
    exact hcame.trans (Tables.Grown.of_deed hopened).kept
  | lost habsent hwon => exact hcame
  | failed habsent => exact hcame

/-- What whoever works with a session may do next. -/
inductive Move where
  | call (c : Call) (o : Options)
  | resolve (userId : Int) (currency : Value)
  | commit
  | rollback

namespace Move

/-- The session after a move, whatever came of it. -/
def after (s : Session) : Move → Session
  | .call c o => ((c.run o).on s).2
  | .resolve userId currency => ((Wallets.resolve userId currency).on s).2
  | .commit => (Session.commit.on s).2
  | .rollback => s.rollback

/--
Whether a move gives up what is pending: a rollback, or a call that fails in its unit of work.
-/
def Undoes (s : Session) : Move → Prop
  | .call c o => (∃ order, c.order = .ok order) ∧ ∃ f, ((c.run o).on s).1 = .error f
  | .rollback => True
  | _ => False

/-- What a move has done to the tables. -/
inductive Ending (m : Move) (s t : Session) : Prop
  | pending (hupholds : Upholds s t)
    (hkept : s.committed.Kept s.working → t.committed.Kept t.working)
    (hdeeds : Relation.ReflTransGen (Deed (Origin s t) s.clock) s.working t.working)
  | committed (hcommitted : t.committed = t.working)
    (hdeeds : Relation.ReflTransGen (Deed (Origin s t) s.clock) s.working t.working)
  | undone (hundoes : m.Undoes s) (hupholds : Upholds s t) (hworking : t.working = t.committed)

/-- A call commits what it has done, gives it up, or has not begun. -/
theorem ending_call {c : Call} {o : Options} {s : Session} (ha : s.working.Lawful)
    (hr : RivalFits s) : (Move.call c o).Ending s ((Move.call c o).after s) := by
  show Ending _ s ((c.run o).on s).2
  rcases h : (c.run o).on s with ⟨f | answer, t⟩
  · rcases Call.on_run_eq_error.1 h with ⟨-, rfl⟩ | ⟨order, horder, hcarry⟩
    · exact .pending (.same rfl) id .refl
    · obtain ⟨u, hu, rfl⟩ := order.on_carryOut_eq_error hcarry
      exact .undone ⟨⟨order, horder⟩, f, by rw [h]⟩ hu.upholds.rollback rfl
  · obtain ⟨hsettled, -, order, -, hdone⟩ := Call.done_of_run ha hr h
    refine .committed hsettled.working.symm ?_
    rw [hsettled.working]
    exact hdone.deeds

theorem ending_resolve (userId : Int) (currency : Value) (s : Session) :
    (Move.resolve userId currency).Ending s ((Move.resolve userId currency).after s) := by
  have hsame := within_resolve userId currency s
  have hopened := opened_of_resolve userId currency s
  have hkept := kept_of_resolve userId currency (s := s)
  show Ending _ s ((Wallets.resolve userId currency).on s).2
  generalize ((Wallets.resolve userId currency).on s).2 = t at hsame hopened hkept ⊢
  exact .pending hsame.upholds hkept (deed_of_opened s.clock hopened)

theorem ending_commit (s : Session) : Move.commit.Ending s (Move.commit.after s) := by
  show Ending _ s (Session.commit.on s).2
  rcases h : Session.commit.on s with ⟨f | u, t⟩
  · rw [on_commit_eq_error h]
    exact .pending (.same rfl) id .refl
  · obtain ⟨-, -, rfl⟩ := on_commit_eq_ok.1 h
    exact .committed rfl .refl

/-- Every move ends in one of the three ways. -/
theorem ending {s : Session} (ha : s.working.Lawful) (hr : RivalFits s) (m : Move) :
    m.Ending s (m.after s) := by
  cases m with
  | call c o => exact ending_call ha hr
  | resolve userId currency => exact ending_resolve userId currency s
  | commit => exact ending_commit s
  | rollback => exact .undone trivial (.same rfl) rfl

/-- Rivals who have come are not forgotten. -/
theorem rivals_le_after {s : Session} (ha : s.working.Lawful) (hr : RivalFits s) (m : Move) :
    s.rivals ≤ (m.after s).rivals := by
  have of_came {t : Session} (h : t.rivals = s.rivals ∨ ∃ r, s.rival = some r ∧
      t.rivals = s.rivals + 1) : s.rivals ≤ t.rivals := by
    rcases h with h | ⟨-, -, h⟩ <;> omega
  cases m with
  | call c o =>
    show s.rivals ≤ ((c.run o).on s).2.rivals
    rcases h : (c.run o).on s with ⟨f | answer, t⟩
    · rcases Call.on_run_eq_error.1 h with ⟨-, rfl⟩ | ⟨order, -, hcarry⟩
      · exact Nat.le_refl _
      · obtain ⟨u, hu, rfl⟩ := order.on_carryOut_eq_error hcarry
        have hcame := rivals_of_sameUnit hu
        exact of_came hcame
    · exact of_came (Call.done_of_run ha hr h).2.1
  | resolve userId currency => exact of_came (rivals_of_sameUnit (within_resolve _ _ s))
  | commit =>
    show s.rivals ≤ (Session.commit.on s).2.rivals
    rcases h : Session.commit.on s with ⟨f | u, t⟩
    · exact Nat.le_of_eq (congrArg Session.rivals (on_commit_eq_error h)).symm
    · obtain ⟨-, -, rfl⟩ := on_commit_eq_ok.1 h
      exact Nat.le_refl _
  | rollback => exact Nat.le_refl _

end Move

/-! ### What every move keeps -/

/--
Lawful tables with wallets in currencies that have codes, each named by the ledger or as one of the
rivals who have come so far.
-/
structure Registered (rivals : Nat) (t : Tables) : Prop where
  lawful : t.Lawful
  codes : ∀ w ∈ t.wallets, Currency.isCode w.currency = true
  names : ∀ w ∈ t.wallets, (∃ name, w.id = "w" ++ name) ∨ ∃ k < rivals, w.id = rivalName k

namespace Registered

variable {n : Nat} {a b : Tables}

theorem mono (h : Registered n a) {m : Nat} (hnm : n ≤ m) : Registered m a := by
  refine ⟨h.lawful, h.codes, fun w hw => ?_⟩
  rcases h.names w hw with hown | ⟨k, hk, hid⟩
  · exact .inl hown
  · exact .inr ⟨k, Nat.lt_of_lt_of_le hk hnm, hid⟩

/-- The name of the next rival's wallet is new. -/
theorem wallet?_rivalName (h : Registered n a) : a.wallet? (rivalName n) = none := by
  rw [Tables.wallet?_eq_none]
  intro w hw hid
  rcases h.names w hw with ⟨name, hown⟩ | ⟨k, hk, hrival⟩
  · exact own_ne_rivalName name n (hown.symm.trans hid)
  · have := rivalName_injective (hrival.symm.trans hid)
    omega

theorem deed {origin : Wallet → Prop} {now : Moment}
    (horigin : ∀ w, origin w → Column.fits w.balance = true ∧ Currency.isCode w.currency = true ∧
      ((∃ name, w.id = "w" ++ name) ∨ ∃ k < n, w.id = rivalName k))
    (ha : Registered n a) (h : Deed origin now a b) : Registered n b := by
  have hlawful := ha.lawful.deed (fun w hw => (horigin w hw).1) h
  -- What a deed does not open was there before, under the same name and in the same currency.
  have hwallets : ∀ w ∈ b.wallets, origin w ∨ ∃ v ∈ a.wallets, v.id = w.id ∧
      v.currency = w.currency := by
    intro w hw
    cases h with
    | opening v hv hinsert =>
      obtain ⟨-, -, rfl⟩ := Tables.insertWallet?_eq_some.1 hinsert
      rcases List.mem_append.1 hw with hw | hw
      · exact .inr ⟨w, hw, rfl, rfl⟩
      · rw [List.mem_singleton.1 hw]
        exact .inl hv
    | movement v x hmoved =>
      rw [hmoved.wallets, Tables.mem_setBalance] at hw
      rcases hw with ⟨hw, -⟩ | ⟨u, hu, -, rfl⟩
      · exact .inr ⟨w, hw, rfl, rfl⟩
      · exact .inr ⟨u, hu, rfl, rfl⟩
  refine ⟨hlawful, fun w hw => ?_, fun w hw => ?_⟩
  · rcases hwallets w hw with horig | ⟨v, hv, -, hcurrency⟩
    · exact (horigin w horig).2.1
    · exact hcurrency ▸ ha.codes v hv
  · rcases hwallets w hw with horig | ⟨v, hv, hid, -⟩
    · exact (horigin w horig).2.2
    · exact hid ▸ ha.names v hv

end Registered

/-- A rival who is a caller like any other: its wallet is in a currency that has a code. -/
def RivalCodes (s : Session) : Prop := ∀ r, s.rival = some r → Currency.isCode r.currency = true

/-- What comes in while rivals are counted from one session to another is fit to be registered. -/
theorem registered_of_origin {s t : Session} (hr : RivalFits s) (hc : RivalCodes s) {w : Wallet}
    (h : Origin s t w) : Column.fits w.balance = true ∧ Currency.isCode w.currency = true ∧
      ((∃ name, w.id = "w" ++ name) ∨ ∃ k < t.rivals, w.id = rivalName k) := by
  refine ⟨fits_of_origin hr h, ?_⟩
  rcases h with ⟨name, userId, code, now, hcode, rfl⟩ | ⟨hn, r, hrival, rfl⟩
  · exact ⟨hcode, .inl ⟨name, rfl⟩⟩
  · exact ⟨hc r hrival, .inr ⟨s.rivals, by omega, rfl⟩⟩

/-- The committed tables stand in the working ones, and all wallets are registered. -/
structure Coherent (s : Session) : Prop where
  committed : Registered s.rivals s.committed
  working : Registered s.rivals s.working
  kept : s.committed.Kept s.working

/-- A move keeps a session coherent, and only adds to what has been committed. -/
theorem Coherent.move {s : Session} (hs : Coherent s) (hr : RivalFits s) (hc : RivalCodes s)
    (m : Move) : Coherent (m.after s) ∧ s.committed.Kept (m.after s).committed := by
  have hrivals := m.rivals_le_after hs.working.lawful hr
  have hending := m.ending hs.working.lawful hr
  generalize m.after s = t at hrivals hending ⊢
  have hdeed {a b : Tables} (ha : Registered s.rivals a)
      (hdeeds : Relation.ReflTransGen (Deed (Origin s t) s.clock) a b) : Registered t.rivals b :=
    kept_of_deeds (Registered.deed fun _ => registered_of_origin hr hc) hdeeds (ha.mono hrivals)
  have hupheld (h : Upholds s t) : Registered t.rivals t.committed :=
    hdeed hs.committed (deed_of_opened s.clock (opened_of_upholds h))
  cases hending with
  | pending hupholds hkept hdeeds =>
    exact ⟨⟨hupheld hupholds, hdeed hs.working hdeeds, hkept hs.kept⟩,
      (grown_of_upholds hupholds).kept⟩
  | committed hcommitted hdeeds =>
    refine ⟨⟨?_, hdeed hs.working hdeeds, ?_⟩, ?_⟩
    all_goals rw [hcommitted]
    · exact hdeed hs.working hdeeds
    · exact .refl _
    · exact hs.kept.trans (Tables.Grown.of_deeds hdeeds).kept
  | undone hundoes hupholds hworking =>
    refine ⟨⟨hupheld hupholds, ?_, ?_⟩, (grown_of_upholds hupholds).kept⟩
    all_goals rw [hworking]
    · exact hupheld hupholds
    · exact .refl _

/-- Unless a rival has a transaction of its own, what is committed stays a beginning. -/
theorem Move.grown_after {s : Session} (ha : s.working.Lawful) (hr : RivalFits s) (hs : Shared s)
    (h : s.committed.Grown s.working) (m : Move) :
    (m.after s).committed.Grown (m.after s).working ∧ s.committed.Grown (m.after s).committed := by
  have hending := m.ending ha hr
  generalize m.after s = t at hending ⊢
  cases hending with
  | pending hupholds hkept hdeeds =>
    rw [hupholds.committed hs]
    exact ⟨h.trans (.of_deeds hdeeds), .refl _⟩
  | committed hcommitted hdeeds =>
    rw [hcommitted]
    exact ⟨.refl _, h.trans (.of_deeds hdeeds)⟩
  | undone hundoes hupholds hworking =>
    rw [hworking]
    exact ⟨.refl _, grown_of_upholds hupholds⟩

/-! ### Histories -/

/-- What a move meets, where a rival is a caller like any other. -/
structure Surroundings extends Conditions where
  rival_codes : ∀ r, rival = some r → Currency.isCode r.currency = true

/-- A rival, if there is one, shares the transaction of the session. -/
def Surroundings.Shared (x : Surroundings) : Prop :=
  ∀ r, x.rival = some r → r.independent = false

/-- A session in new surroundings. -/
def into (s : Session) (x : Surroundings) : Session := under s x.toConditions

/-- A move in its surroundings. -/
structure Turn where
  move : Move
  surroundings : Surroundings

/-- A session after one more turn. -/
def turn (s : Session) (x : Turn) : Session := x.move.after (into s x.surroundings)

/-- A session after more turns. -/
def turns (s : Session) (xs : List Turn) : Session := xs.foldl turn s

/-- A session on a store with users, perhaps with activities, but without any money. -/
def opening (users : List User) (activities : List Activity) (clock : Moment) : Session :=
  .ofTables { users, activities } clock

theorem turns_append (s : Session) (xs ys : List Turn) :
    turns s (xs ++ ys) = turns (turns s xs) ys :=
  List.foldl_append

theorem coherent_opening (users : List User) (activities : List Activity) (clock : Moment) :
    Coherent (opening users activities clock) := by
  have h : Registered 0 (opening users activities clock).committed := by
    refine ⟨.empty rfl rfl, ?_, ?_⟩
    all_goals exact fun _ h => absurd h List.not_mem_nil
  exact ⟨h, h, .refl _⟩

theorem Coherent.into {s : Session} (hs : Coherent s) (x : Surroundings) : Coherent (into s x) :=
  ⟨hs.committed, hs.working, hs.kept⟩

theorem Coherent.turn {s : Session} (hs : Coherent s) (x : Turn) :
    Coherent (turn s x) ∧ s.committed.Kept (turn s x).committed :=
  (hs.into x.surroundings).move x.surroundings.rival_fits x.surroundings.rival_codes x.move

/-- However many turns are taken, the session stays coherent and its history only grows. -/
theorem Coherent.turns {s : Session} (hs : Coherent s) (xs : List Turn) :
    Coherent (turns s xs) ∧ s.committed.Kept (turns s xs).committed := by
  induction xs generalizing s with
  | nil => exact ⟨hs, .refl _⟩
  | cons x xs ih =>
    obtain ⟨hnext, hkept⟩ := hs.turn x
    obtain ⟨hend, hrest⟩ := ih hnext
    exact ⟨hend, hkept.trans hrest⟩

/-- As long as no rival has a transaction of its own, wallets keep their places. -/
theorem Coherent.grown_turns {s : Session} (hs : Coherent s) (h : s.committed.Grown s.working)
    {xs : List Turn} (hshared : ∀ x ∈ xs, x.surroundings.Shared) :
    (Operation.turns s xs).committed.Grown (Operation.turns s xs).working ∧
      s.committed.Grown (Operation.turns s xs).committed := by
  induction xs generalizing s with
  | nil => exact ⟨h, .refl _⟩
  | cons x xs ih =>
    obtain ⟨hx, hxs⟩ := List.forall_mem_cons.1 hshared
    obtain ⟨hnext, hgrown⟩ := Move.grown_after (s := Operation.into s x.surroundings)
      hs.working.lawful x.surroundings.rival_fits hx h x.move
    obtain ⟨hend, hrest⟩ := ih (hs.turn x).1 hnext hxs
    exact ⟨hend, hgrown.trans hrest⟩

/--
History is append-only. Whatever turns are taken on a store without money, and however they end, the
transactions committed by then are the first ones of those committed at any later time, row by row
and in the same order; and every wallet committed by then is there at any later time, with the same
identifier, user and currency. The wallets stay in the same order, and, if every rival shares the
session's transaction, in their places.
-/
theorem history_append_only (users : List User) (activities : List Activity) (clock : Moment)
    (xs ys : List Turn) :
    let earlier := (turns (opening users activities clock) xs).committed
    let later := (turns (opening users activities clock) (xs ++ ys)).committed
    earlier.transactions <+: later.transactions ∧
      (earlier.wallets.map Wallet.identity).Sublist (later.wallets.map Wallet.identity) ∧
      ((∀ x ∈ xs ++ ys, x.surroundings.Shared) →
        earlier.wallets.map Wallet.identity <+: later.wallets.map Wallet.identity) ∧
      ∀ w ∈ earlier.wallets, ∃ v ∈ later.wallets,
        v.id = w.id ∧ v.userId = w.userId ∧ v.currency = w.currency := by
  intro earlier later
  have hopening := coherent_opening users activities clock
  have hs := (hopening.turns xs).1
  have hlater : later = (turns (turns (opening users activities clock) xs) ys).committed :=
    congrArg Session.committed (turns_append ..)
  have hkept : earlier.Kept later := hlater ▸ (hs.turns ys).2
  refine ⟨hkept.transactions, hkept.wallets, fun hshared => ?_, fun w hw => ?_⟩
  · obtain ⟨hxs, hys⟩ := List.forall_mem_append.1 hshared
    have hgrown := (hs.grown_turns (hopening.grown_turns (.refl _) hxs).1 hys).2
    rw [hlater]
    exact hgrown.wallets
  · obtain ⟨v, hv, hidentity⟩ := hkept.exists_wallet hw
    simp only [Wallet.identity, Prod.mk.injEq] at hidentity
    exact ⟨v, hv, hidentity⟩

end Operation

end CurrencyLedger
