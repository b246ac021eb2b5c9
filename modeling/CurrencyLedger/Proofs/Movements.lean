import CurrencyLedger.Proofs.Rows
import CurrencyLedger.Proofs.Statements
import CurrencyLedger.Wallets.Balance
import CurrencyLedger.Wallets.Resolve
import Mathlib.Logic.Relation

/-!
What finding, creating, crediting and debiting a wallet do.

A movement that is recorded changes the tables in one way only: the balance of a wallet that is
there goes up by the amount or down by it, within the bounds of a balance, and one row says so.
Finding a wallet changes nothing; resolving one may let a rival's wallet in and may create an empty
one.
-/

namespace CurrencyLedger

open Session

namespace History

theorem within_record (w : Wallet) (amount : Nat) (flow : Transaction.Flow) (p : Particulars) :
    (record w amount flow p).Within Edited := by
  refine Action.within_bind (within_draw _) fun _ => ?_
  refine Action.within_bind (Action.within_lift _) fun _ => ?_
  refine Action.within_bind (Action.within_lift _) fun _ => ?_
  refine Action.within_bind (within_draw _) fun _ => ?_
  refine Action.within_bind (Action.within_read _) fun _ => ?_
  exact Action.within_bind (within_write _ _) fun _ => Action.within_lift _

/-- Whether a row says what was to be said of its movement. -/
structure Describes (p : Particulars) (x : Transaction) : Prop where
  kind : x.kind = p.kind
  status : x.status = .completed
  rate : Rate.format p.exchangeRate = .ok x.exchangeRate
  remarks : keptRemarks p.remarks = .ok x.remarks
  session : Column.givenTextOr x.reference p.sessionId = .ok x.sessionId
  description : Column.givenTextOr (standingDescription p.kind x.flow x.currency) p.description =
    .ok x.description
  reference : ∃ token, x.reference = p.kind.mark ++ "_" ++ token

/-- When a row can be made, it says whose movement it is and what was to be said of it. -/
theorem row_eq_ok {id reference rate : String} {remarks : Value} {now : Moment} {w : Wallet}
    {amount : Nat} {flow : Transaction.Flow} {p : Particulars} {x : Transaction} :
    row id reference rate remarks now w amount flow p = .ok x ↔
      ∃ sessionId description, Column.givenTextOr reference p.sessionId = .ok sessionId ∧
        Column.givenTextOr (standingDescription p.kind flow w.currency) p.description =
          .ok description ∧
        { id, reference, sessionId, description, remarks, flow, amount
          userId := w.userId, walletId := w.id, currency := w.currency, kind := p.kind
          status := .completed, exchangeRate := rate, createdAt := now, updatedAt := now } = x := by
  rw [row]
  cases Column.givenTextOr reference p.sessionId with
  | error f => simp [bind, Except.bind]
  | ok sessionId =>
    cases Column.givenTextOr (standingDescription p.kind flow w.currency) p.description <;>
      simp [bind, Except.bind, pure, Except.pure]

/-- A movement is recorded when its row can be made and is new. -/
theorem on_record_eq_ok {w : Wallet} {amount : Nat} {flow : Transaction.Flow} {p : Particulars}
    {s t : Session} {x : Transaction} : (record w amount flow p).on s = (.ok x, t) ↔
      ∃ rate remarks tables, Rate.format p.exchangeRate = .ok rate ∧
        keptRemarks p.remarks = .ok remarks ∧
        row (Names.transaction (Names.reference p.kind.mark s.names).2).1
          (Names.reference p.kind.mark s.names).1 rate remarks s.clock w amount flow p = .ok x ∧
        s.aborted = false ∧ s.faults (.insertTransaction flow) = none ∧
        s.working.insertTransaction? x = some tables ∧
        { s with
          names := (Names.transaction (Names.reference p.kind.mark s.names).2).2
          working := tables } = t := by
  rw [record]
  simp only [Action.on_bind_eq_ok, on_draw_eq_ok, Action.on_compute, Action.on_lift,
    Action.on_read, Prod.mk.injEq, ofSignal_eq_ok, Except.ok.injEq]
  constructor
  · rintro ⟨_, _, ⟨rfl, rfl⟩, rate, _, ⟨hrate, rfl⟩, remarks, _, ⟨hremarks, rfl⟩, _, _,
      ⟨rfl, rfl⟩, _, _, ⟨rfl, rfl⟩, _, _, hwrite, hx, rfl⟩
    obtain ⟨ha, hf, tables, hinsert, rfl⟩ := on_write_eq_ok.1 hwrite
    refine ⟨rate, remarks, tables, hrate, hremarks, hx, ha, hf, ?_, rfl⟩
    rw [hx] at hinsert
    simp only [Except.bind, bind] at hinsert
    split at hinsert <;> simp_all
  · rintro ⟨rate, remarks, tables, hrate, hremarks, hx, ha, hf, hinsert, rfl⟩
    refine ⟨_, _, ⟨rfl, rfl⟩, rate, _, ⟨hrate, rfl⟩, remarks, _, ⟨hremarks, rfl⟩, _, _,
      ⟨rfl, rfl⟩, _, _, ⟨rfl, rfl⟩, (), _, on_write_eq_ok.2 ⟨ha, hf, tables, ?_, rfl⟩, hx, rfl⟩
    simp [hx, hinsert, bind, Except.bind]

end History

namespace Wallets

theorem within_load (flow : Transaction.Flow) (id : String) : (load flow id).Within Edited := by
  refine Action.within_bind (within_query _ _ _) fun found => ?_
  cases found with
  | some w => exact Action.within_pure w
  | none => exact Action.within_lift _

theorem within_store (flow : Transaction.Flow) (w : Wallet) (balance : Nat) :
    (store flow w balance).Within Edited :=
  Action.within_bind (Action.within_read _) fun _ => within_write _ _

theorem within_credit (id : String) (amount : Value) (p : History.Particulars) :
    (credit id amount p).Within Edited := by
  refine Action.within_bind (Action.within_lift _) fun _ => ?_
  refine Action.within_bind (within_load _ _) fun w => ?_
  exact Action.within_bind (within_store _ _ _) fun _ => History.within_record _ _ _ _

theorem within_debit (id : String) (amount : Value) (p : History.Particulars) :
    (debit id amount p).Within Edited := by
  refine Action.within_bind (Action.within_lift _) fun n => ?_
  refine Action.within_bind (within_load _ _) fun w => ?_
  split
  · exact Action.within_lift _
  · exact Action.within_bind (within_store _ _ _) fun _ => History.within_record _ _ _ _

theorem within_find (userId : Int) (currency : Value) : (find userId currency).Within Edited :=
  Action.within_bind (Action.within_lift _) fun _ => within_query _ _ _

theorem within_create (userId : Int) (code : String) : (create userId code).Within Edited := by
  refine Action.within_bind (within_draw _) fun _ => ?_
  refine Action.within_bind (Action.within_read _) fun _ => ?_
  exact Action.within_bind (within_write _ _) fun _ => Action.within_pure _

theorem within_winner (userId : Int) (code : String) : (winner userId code).Within Edited := by
  refine Action.within_bind (within_query _ _ _) fun found => ?_
  cases found with
  | some w => exact Action.within_pure w
  | none => exact Action.within_lift _

theorem within_resolve (userId : Int) (currency : Value) :
    (resolve userId currency).Within SameUnit := by
  refine Action.within_bind (Action.within_lift _) fun code => ?_
  refine Action.within_bind (within_sameUnit (within_query _ _ _)) fun found => ?_
  cases found with
  | some w => exact Action.within_pure w
  | none =>
    refine Action.within_bind within_admitRival fun _ => ?_
    refine Action.within_bind
      (Action.within_outcome (within_sameUnit (within_nested (within_create _ _)))) fun made => ?_
    -- Only a broken constraint sends it on to the winner.
    split
    · exact Action.within_pure _
    · exact within_sameUnit (within_winner _ _)
    · exact Action.within_lift _

/-! ### Changing a balance -/

/-- A balance after a movement. -/
def balanceAfter (flow : Transaction.Flow) (balance amount : Nat) : Nat :=
  match flow with
  | .credit => balance + amount
  | .debit => balance - amount

/--
A movement of a wallet's balance that has been recorded: `a` are the tables before it and `b` those
after it.
-/
structure Moved (now : Moment) (w : Wallet) (x : Transaction) (a b : Tables) : Prop where
  found : a.wallet? w.id = some w
  positive : 0 < x.amount
  covered : x.flow = .debit → x.amount ≤ w.balance
  fits : Column.fits (balanceAfter x.flow w.balance x.amount) = true
  walletId : x.walletId = w.id
  userId : x.userId = w.userId
  currency : x.currency = w.currency
  inserted :
    (a.setBalance w.id (balanceAfter x.flow w.balance x.amount) now).insertTransaction? x = some b

namespace Moved

variable {now : Moment} {w : Wallet} {x : Transaction} {a b : Tables}

theorem wallets (h : Moved now w x a b) :
    b.wallets = (a.setBalance w.id (balanceAfter x.flow w.balance x.amount) now).wallets := by
  obtain ⟨-, rfl⟩ := Tables.insertTransaction?_eq_some.1 h.inserted
  rfl

theorem transactions (h : Moved now w x a b) : b.transactions = a.transactions ++ [x] := by
  obtain ⟨-, rfl⟩ := Tables.insertTransaction?_eq_some.1 h.inserted
  rfl

theorem new (h : Moved now w x a b) :
    ∀ y ∈ a.transactions, y.id ≠ x.id ∧ y.reference ≠ x.reference :=
  (Tables.insertTransaction?_eq_some.1 h.inserted).1

end Moved

theorem on_load_eq_ok {flow : Transaction.Flow} {id : String} {w : Wallet} {s t : Session} :
    (load flow id).on s = (.ok w, t) ↔
      s.faults (.loadWallet flow) = none ∧ s.aborted = false ∧ s.working.wallet? id = some w ∧
        s = t := by
  simp only [load, Action.on_bind_eq_ok, on_query_eq_ok, List.all_nil, true_and]
  constructor
  · rintro ⟨found, _, ⟨hf, ha, rfl, rfl⟩, h⟩
    cases hw : s.working.wallet? id with
    | none => simp [hw] at h
    | some v =>
      rw [hw] at h
      cases h
      exact ⟨hf, ha, rfl, rfl⟩
  · rintro ⟨hf, ha, hw, rfl⟩
    exact ⟨some w, s, ⟨hf, ha, hw, rfl⟩, rfl⟩

theorem on_store_eq_ok {flow : Transaction.Flow} {w : Wallet} {balance : Nat} {s t : Session} :
    (store flow w balance).on s = (.ok (), t) ↔
      s.aborted = false ∧ s.faults (.setBalance flow) = none ∧ Column.fits balance = true ∧
        { s with working := s.working.setBalance w.id balance s.clock } = t := by
  simp only [store, Action.on_bind_eq_ok, Action.on_read, Prod.mk.injEq, Except.ok.injEq]
  constructor
  · rintro ⟨_, _, ⟨rfl, rfl⟩, hwrite⟩
    obtain ⟨ha, hf, tables, h, rfl⟩ := on_write_eq_ok.1 hwrite
    split_ifs at h with hfits
    cases h
    exact ⟨ha, hf, hfits, rfl⟩
  · rintro ⟨ha, hf, hfits, rfl⟩
    exact ⟨_, _, ⟨rfl, rfl⟩, on_write_eq_ok.2 ⟨ha, hf, _, if_pos hfits, rfl⟩⟩

/-- Storing the balance and recording why is one movement. -/
theorem moved_of_record {flow : Transaction.Flow} {w : Wallet} {amount : Nat}
    {p : History.Particulars} {s u t : Session} {x : Transaction}
    (hfound : s.working.wallet? w.id = some w) (hpos : 0 < amount)
    (hcovered : flow = .debit → amount ≤ w.balance)
    (hstore : (store flow w (balanceAfter flow w.balance amount)).on s = (.ok (), u))
    (hrecord : (History.record w amount flow p).on u = (.ok x, t)) :
    Moved s.clock w x s.working t.working ∧ x.flow = flow ∧ x.amount = amount ∧
      History.Describes p x := by
  obtain ⟨-, -, hfits, rfl⟩ := on_store_eq_ok.1 hstore
  obtain ⟨rate, remarks, tables, hrate, hremarks, hrow, -, -, hinsert, rfl⟩ :=
    History.on_record_eq_ok.1 hrecord
  obtain ⟨sessionId, description, hsession, hdescription, rfl⟩ := History.row_eq_ok.1 hrow
  refine ⟨⟨hfound, hpos, hcovered, hfits, rfl, rfl, rfl, hinsert⟩, rfl, rfl, ?_⟩
  exact ⟨rfl, rfl, hrate, hremarks, hsession, hdescription, _, rfl⟩

/-- A credit that succeeds is a recorded movement of the wallet it names. -/
theorem on_credit_eq_ok {id : String} {amount : Value} {p : History.Particulars} {s t : Session}
    {x : Transaction} (h : (credit id amount p).on s = (.ok x, t)) :
    ∃ w, w.id = id ∧ Moved s.clock w x s.working t.working ∧ x.flow = .credit ∧
      Amount.ofValue amount = .ok x.amount ∧ History.Describes p x := by
  simp only [credit, Action.on_bind_eq_ok, Action.on_check, Prod.mk.injEq, ofLedger_eq_ok,
    on_load_eq_ok] at h
  obtain ⟨n, _, ⟨hn, rfl⟩, w, _, ⟨-, -, hw, rfl⟩, _, u, hstore, hrecord⟩ := h
  have hid := (Tables.wallet?_eq_some hw).2
  subst hid
  obtain ⟨hmoved, hflow, rfl, hp⟩ := moved_of_record hw (Amount.pos_of_ofValue hn)
    (fun h => by cases h) hstore hrecord
  exact ⟨w, rfl, hmoved, hflow, hn, hp⟩

/-- A debit that succeeds is a recorded movement of the wallet it names. -/
theorem on_debit_eq_ok {id : String} {amount : Value} {p : History.Particulars} {s t : Session}
    {x : Transaction} (h : (debit id amount p).on s = (.ok x, t)) :
    ∃ w, w.id = id ∧ Moved s.clock w x s.working t.working ∧ x.flow = .debit ∧
      Amount.ofValue amount = .ok x.amount ∧ History.Describes p x := by
  simp only [debit, Action.on_bind_eq_ok, Action.on_check, Prod.mk.injEq, ofLedger_eq_ok,
    on_load_eq_ok] at h
  obtain ⟨n, _, ⟨hn, rfl⟩, w, _, ⟨-, -, hw, rfl⟩, h⟩ := h
  have hid := (Tables.wallet?_eq_some hw).2
  subst hid
  split at h
  · simp at h
  · rename_i hcovered
    obtain ⟨_, u, hstore, hrecord⟩ := Action.on_bind_eq_ok.1 h
    obtain ⟨hmoved, hflow, rfl, hp⟩ := moved_of_record hw (Amount.pos_of_ofValue hn)
      (fun _ => Nat.le_of_not_lt hcovered) hstore hrecord
    exact ⟨w, rfl, hmoved, hflow, hn, hp⟩

/-! ### Finding and creating -/

theorem on_find_eq_ok {userId : Int} {currency : Value} {found : Option Wallet} {s t : Session} :
    (find userId currency).on s = (.ok found, t) ↔
      ∃ code, Currency.normalize currency = .ok code ∧ s.faults .findWallet = none ∧
        s.aborted = false ∧ Column.fits userId = true ∧
        s.working.walletOf? userId code = found ∧ s = t := by
  simp only [find, Action.on_bind_eq_ok, Action.on_check, Prod.mk.injEq, ofLedger_eq_ok,
    on_query_eq_ok, List.all_cons, List.all_nil, Bool.and_true]
  constructor
  · rintro ⟨code, _, ⟨hcode, rfl⟩, h⟩
    exact ⟨code, hcode, h⟩
  · rintro ⟨code, hcode, h⟩
    exact ⟨code, s, ⟨hcode, rfl⟩, h⟩

/--
A wallet that resolving brings in: an empty one of its own, in a currency that has a code, or that
of a rival who has come.
-/
def Origin (s t : Session) (w : Wallet) : Prop :=
  (∃ name userId code now, Currency.isCode code = true ∧ w = empty ("w" ++ name) userId code now) ∨
    (t.rivals = s.rivals + 1 ∧ ∃ r, s.rival = some r ∧ w = s.rivalWallet r)

/-- The tables with a wallet inserted that comes from somewhere. -/
def Opened (origin : Wallet → Prop) (a b : Tables) : Prop :=
  ∃ w, origin w ∧ a.insertWallet? w = some b

/-- What is committed beside what had been has come in with a rival. -/
theorem opened_of_upholds {s t : Session} (h : Upholds s t) :
    Relation.ReflTransGen (Opened (Origin s t)) s.committed t.committed := by
  cases h with
  | same hcommitted => rw [hcommitted]
  | joined hcomes hindependent hcame hinsert =>
    exact .single ⟨_, .inr ⟨hcame, _, hcomes, rfl⟩, hinsert⟩

theorem on_create_eq_ok {userId : Int} {code : String} {w : Wallet} {s t : Session}
    (h : (create userId code).on s = (.ok w, t)) :
    (∃ name, w = empty ("w" ++ name) userId code s.clock) ∧
      s.working.insertWallet? w = some t.working ∧ t.rivals = s.rivals ∧
      t.committed = s.committed := by
  simp only [create, Action.on_bind_eq_ok, on_draw_eq_ok, Action.on_read, Action.on_pure,
    Prod.mk.injEq, Except.ok.injEq] at h
  obtain ⟨_, _, ⟨rfl, rfl⟩, _, _, ⟨rfl, rfl⟩, _, u, hwrite, rfl, rfl⟩ := h
  obtain ⟨-, -, tables, hinsert, rfl⟩ := on_write_eq_ok.1 hwrite
  split at hinsert
  · rename_i b hb
    cases hinsert
    exact ⟨⟨_, rfl⟩, hb, rfl, rfl⟩
  · cases hinsert

/-- What a rival has brought in, if it came and there was no such wallet yet. -/
theorem opened_of_admitRival {s s' : Session} (h : (admitRival.on s).2 = s') {u : Session}
    (hu : u.rivals = s'.rivals) :
    Relation.ReflTransGen (Opened (Origin s u)) s.working s'.working := by
  rcases on_admitRival s with hsame | ⟨r, hr, hcame⟩
  · rw [← h, hsame]
  · rw [h] at hcame
    rw [hcame]
    cases hi : s.working.insertWallet? (s.rivalWallet r) with
    | none => exact .refl
    | some b => exact .single ⟨_, .inr ⟨by rw [hu, hcame], r, hr, rfl⟩, hi⟩

/--
How resolving goes on, once the currency is known by its code: the wallet is found; or it is not,
and then, with a rival who may have come meanwhile, it is created, or another one is there after
all, or nothing comes of it.
-/
inductive Resolution (userId : Int) (code : String) (s : Session) :
    Except Failure Wallet → Session → Prop
  | found {w : Wallet} (hfound : s.working.walletOf? userId code = some w) :
    Resolution userId code s (.ok w) s
  | created {name : String} {t : Session} (habsent : s.working.walletOf? userId code = none)
    (hinsert : (admitRival.on s).2.working.insertWallet?
      (empty ("w" ++ name) userId code (admitRival.on s).2.clock) = some t.working)
    (hrivals : t.rivals = (admitRival.on s).2.rivals)
    (hcommitted : t.committed = (admitRival.on s).2.committed) :
    Resolution userId code s (.ok (empty ("w" ++ name) userId code (admitRival.on s).2.clock)) t
  | lost {w : Wallet} {names : Names} (habsent : s.working.walletOf? userId code = none)
    (hwon : (admitRival.on s).2.working.walletOf? userId code = some w) :
    Resolution userId code s (.ok w) { (admitRival.on s).2 with names }
  | failed {f : Failure} {names : Names} (habsent : s.working.walletOf? userId code = none) :
    Resolution userId code s (.error f) { (admitRival.on s).2 with names }

/-- The wallet of a race's winner is the one that is there now; asking for it changes nothing. -/
theorem on_winner_cases {userId : Int} {code : String} {s t : Session} {r : Except Failure Wallet}
    (h : (winner userId code).on s = (r, t)) :
    t = s ∧ ∀ w, r = .ok w → s.working.walletOf? userId code = some w := by
  rw [winner] at h
  rcases hfind : (query .resolveAgain [userId] fun t => t.walletOf? userId code).on s with
    ⟨f | found, s'⟩
  all_goals
    have hs : s' = s := by
      rw [← on_query_snd .resolveAgain [userId] (fun t => t.walletOf? userId code) s, hfind]
    subst hs
  · rw [Action.on_bind_of_error _ hfind] at h
    cases h
    exact ⟨rfl, fun _ hw => by cases hw⟩
  · rw [Action.on_bind_of_ok _ hfind] at h
    obtain ⟨-, -, -, hfound, -⟩ := on_query_eq_ok.1 hfind
    cases found with
    | none =>
      cases h
      exact ⟨rfl, fun _ hw => by cases hw⟩
    | some w =>
      cases h
      refine ⟨rfl, ?_⟩
      rintro _ ⟨⟩
      exact hfound

/-- Resolving is refused at the door, or goes on in one of these ways. -/
theorem on_resolve_cases {userId : Int} {currency : Value} {s t : Session}
    {r : Except Failure Wallet} (h : (resolve userId currency).on s = (r, t)) :
    ((∃ f, r = .error f) ∧ t = s) ∨
      ∃ code, Currency.normalize currency = .ok code ∧ Resolution userId code s r t := by
  rw [resolve] at h
  cases hcode : Currency.normalize currency with
  | error e =>
    rw [Action.on_bind_of_error _ (by rw [Action.on_check, hcode]; rfl)] at h
    cases h
    exact .inl ⟨⟨_, rfl⟩, rfl⟩
  | ok code =>
    rw [Action.on_bind_of_ok _ (by rw [Action.on_check, hcode]; rfl)] at h
    rcases hfind : (query .resolveWallet [userId] fun t => t.walletOf? userId code).on s with
      ⟨f | found, s'⟩
    all_goals
      obtain rfl : s = s' := by
        rw [← on_query_snd .resolveWallet [userId] (fun t => t.walletOf? userId code) s, hfind]
    · rw [Action.on_bind_of_error _ hfind] at h
      cases h
      exact .inl ⟨⟨_, rfl⟩, rfl⟩
    rw [Action.on_bind_of_ok _ hfind] at h
    obtain ⟨-, -, -, hfound, -⟩ := on_query_eq_ok.1 hfind
    refine .inr ⟨code, rfl, ?_⟩
    cases found with
    | some w =>
      cases h
      exact .found hfound
    | none =>
      have hcame : admitRival.on s = (.ok (), (admitRival.on s).2) := rfl
      replace h : (admitRival >>= _).on s = (r, t) := h
      rw [Action.on_bind_of_ok _ hcame, Action.on_bind_of_ok _ (Action.on_outcome _ _)] at h
      rcases hmade : (nested (create userId code)).on (admitRival.on s).2 with ⟨f | w, u⟩
      all_goals rw [hmade] at h
      · have hu := on_nested_eq_error (within_create userId code) hmade
        rw [hu] at h
        -- Only a broken constraint sends it on to the winner.
        cases f with
        | integrity =>
          obtain ⟨rfl, hwon⟩ := on_winner_cases h
          cases r with
          | ok w => exact .lost hfound (hwon w rfl)
          | error f => exact .failed hfound
        | _ =>
          cases h
          exact .failed hfound
      · cases h
        obtain ⟨⟨name, rfl⟩, hinsert, hrivals, hcommitted⟩ :=
          on_create_eq_ok (on_nested_eq_ok hmade)
        exact .created hfound hinsert hrivals hcommitted

/-- What resolving answers comes out of one of them. -/
theorem resolution_of_ok {userId : Int} {currency : Value} {w : Wallet} {s t : Session}
    (h : (resolve userId currency).on s = (.ok w, t)) :
    ∃ code, Currency.normalize currency = .ok code ∧ Resolution userId code s (.ok w) t := by
  rcases on_resolve_cases h with ⟨⟨f, hf⟩, -⟩ | hcase
  · cases hf
  · exact hcase

/-- On the way to whatever resolving answers at most two wallets come in. -/
theorem opened_of_resolve (userId : Int) (currency : Value) (s : Session) :
    let t := ((resolve userId currency).on s).2
    Relation.ReflTransGen (Opened (Origin s t)) s.working t.working := by
  rcases hr : (resolve userId currency).on s with ⟨r, t⟩
  rcases on_resolve_cases hr with ⟨-, rfl⟩ | ⟨code, hcode, h⟩
  · exact .refl
  · cases h with
    | found hfound => exact .refl
    | @created name _ habsent hinsert hrivals hcommitted =>
      have hown := Currency.isCode_of_normalize hcode
      exact (opened_of_admitRival rfl hrivals).tail
        ⟨_, .inl ⟨name, userId, code, _, hown, rfl⟩, hinsert⟩
    | lost habsent hwon => exact opened_of_admitRival rfl rfl
    | failed habsent => exact opened_of_admitRival rfl rfl

/-- The answer is the wallet of the user in the currency; on the way to it at most two came in. -/
theorem on_resolve_eq_ok {userId : Int} {currency : Value} {w : Wallet} {s t : Session}
    (h : (resolve userId currency).on s = (.ok w, t)) :
    ∃ code, Currency.normalize currency = .ok code ∧ t.working.walletOf? userId code = some w ∧
      Relation.ReflTransGen (Opened (Origin s t)) s.working t.working := by
  have hopened := opened_of_resolve userId currency s
  rw [h] at hopened
  obtain ⟨code, hcode, hcase⟩ := resolution_of_ok h
  refine ⟨code, hcode, ?_, hopened⟩
  cases hcase with
  | found hfound => exact hfound
  | created habsent hinsert hrivals hcommitted =>
    rw [Tables.walletOf?_of_insertWallet? hinsert, if_pos ⟨rfl, rfl⟩]
  | lost habsent hwon => exact hwon

end Wallets

end CurrencyLedger
