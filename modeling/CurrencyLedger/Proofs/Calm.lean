import CurrencyLedger.Proofs.Deeds
import CurrencyLedger.Proofs.Holdings

/-!
When nothing goes wrong by itself.

In a calm session no statement is bound to fail, nothing has been aborted and no rival is near. If
besides the names about to be drawn are new, nothing is left to chance: a statement does what it is
for, unless an integer does not fit, and a movement is recorded.
-/

namespace CurrencyLedger

open Session Wallets

/-- Nothing from outside disturbs the session. -/
structure Calm (s : Session) : Prop where
  aborted : s.aborted = false
  faults : ∀ st, s.faults st = none
  rival : s.rival = none

namespace Calm

variable {s t : Session}

theorem shared (hs : Calm s) : Shared s := shared_of_none hs.rival

theorem on_query (hs : Calm s) (st : Statement) {bound : List Int}
    (hbound : bound.all Column.fits = true) (f : Tables → α) :
    (query st bound f).on s = (.ok (f s.working), s) :=
  on_query_eq_ok.2 ⟨hs.faults st, hs.aborted, hbound, rfl, rfl⟩

theorem on_query_overflow (hs : Calm s) (st : Statement) {bound : List Int}
    (hbound : bound.all Column.fits = false) (f : Tables → α) :
    (query st bound f).on s = (.error .integerOverflow, s) := by
  rw [query, Action.on_of, hs.faults, hs.aborted, hbound]
  rfl

theorem on_write_error (hs : Calm s) (st : Statement) {change : Tables → Except Failure Tables}
    {f : Failure} (h : change s.working = .error f) :
    (write st change).on s = (.error f, { s with aborted := true }) := by
  rw [write, Action.on_of, hs.faults, hs.aborted, h]
  rfl

/-- A savepoint keeps what went well in it. -/
theorem on_nested (hs : Calm s) {a : Action Session α} {x : α} (h : a.on s = (.ok x, t))
    (ht : Calm t) : (nested a).on s = (.ok x, t) := by
  have hbracketed : (bracketed a).on s = (.ok x, t) := by
    simp only [bracketed, run, Action.on_bind_eq_ok, Action.on_pure]
    exact ⟨(), s, hs.on_query .openSavepoint rfl _, x, t, h, (), t,
      ht.on_query .releaseSavepoint rfl _, rfl⟩
  rw [nested, Action.on_of, hbracketed]

theorem on_admitRival (hs : Calm s) : admitRival.on s = (.ok (), s) := by
  rw [admitRival, Action.on_update, hs.rival]

end Calm

/-! ### New names -/

/-- The next names of a series. -/
def Series.upcoming (spell : Nat → String) : Nat → Series → List String
  | 0, _ => []
  | n + 1, s => (s.draw spell).1 :: upcoming spell n (s.draw spell).2

/-- The names that the next rows of transactions will have are new, and distinct. -/
structure FreshRows (mark : String) (n : Nat) (names : Names) (t : Tables) : Prop where
  transactions : (t.transactions.map (·.id) ++
    (names.transactions.upcoming Text.natText n).map ("t" ++ ·)).Nodup
  references : (t.transactions.map (·.reference) ++
    (names.references.upcoming (Names.token Names.referenceDigits) n).map
      fun s => mark ++ "_" ++ Text.upper s).Nodup

namespace FreshRows

variable {mark : String} {n : Nat} {names : Names} {t : Tables} {x : Transaction}

theorem new (hf : FreshRows mark (n + 1) names t)
    (hid : x.id = (Names.transaction (Names.reference mark names).2).1)
    (hreference : x.reference = (Names.reference mark names).1) :
    ∀ y ∈ t.transactions, y.id ≠ x.id ∧ y.reference ≠ x.reference := by
  intro y hy
  obtain ⟨-, -, hids⟩ := List.nodup_append.1 hf.transactions
  obtain ⟨-, -, hreferences⟩ := List.nodup_append.1 hf.references
  refine ⟨hids _ (List.mem_map_of_mem hy) _ ?_, hreferences _ (List.mem_map_of_mem hy) _ ?_⟩
  · rw [hid]
    exact .head _
  · rw [hreference]
    exact .head _

/-- Once a row has been inserted with its names, the others are still new. -/
theorem rest (hf : FreshRows mark (n + 1) names t)
    (hid : x.id = (Names.transaction (Names.reference mark names).2).1)
    (hreference : x.reference = (Names.reference mark names).1) :
    FreshRows mark n (Names.transaction (Names.reference mark names).2).2
      { t with transactions := t.transactions ++ [x] } := by
  refine ⟨?_, ?_⟩
  · rw [List.map_append, List.append_assoc, List.map_singleton, hid]
    exact hf.transactions
  · rw [List.map_append, List.append_assoc, List.map_singleton, hreference]
    exact hf.references

end FreshRows

/-- The name that the next wallet will have is new. -/
def FreshWallet (names : Names) (t : Tables) : Prop := t.wallet? names.wallet.1 = none

/-- It stays new until a wallet is created. -/
theorem FreshWallet.congr {names names' : Names} {t t' : Tables} (h : FreshWallet names t)
    (hnames : names'.wallets = names.wallets)
    (hids : t'.wallets.map (·.id) = t.wallets.map (·.id)) : FreshWallet names' t' := by
  have hname : names'.wallet.1 = names.wallet.1 := by
    rw [Names.wallet, Names.wallet, hnames]
  rw [FreshWallet, hname, Tables.wallet?_eq_none]
  intro w hw hid
  obtain ⟨v, hv, hvid⟩ := List.mem_map.1 (hids ▸ List.mem_map_of_mem hw)
  exact Tables.wallet?_eq_none.1 h v hv (hvid.trans hid)

/-- Whether the rows of a movement can be made, whatever their names. -/
structure Recordable (p : History.Particulars) : Prop where
  rate : ∃ s, Rate.format p.exchangeRate = .ok s
  remarks : ∃ v, History.keptRemarks p.remarks = .ok v
  session : ∀ standing, ∃ s, Column.givenTextOr standing p.sessionId = .ok s
  description : ∀ standing, ∃ s, Column.givenTextOr standing p.description = .ok s

namespace History

theorem row_of_recordable {p : Particulars} (hp : Recordable p) (id reference rate : String)
    (remarks : Value) (now : Moment) (w : Wallet) (amount : Nat) (flow : Transaction.Flow) :
    ∃ x, row id reference rate remarks now w amount flow p = .ok x ∧ x.id = id ∧
      x.reference = reference := by
  obtain ⟨sessionId, hsession⟩ := hp.session reference
  obtain ⟨description, hdescription⟩ := hp.description (standingDescription p.kind flow w.currency)
  exact ⟨_, row_eq_ok.2 ⟨sessionId, description, hsession, hdescription, rfl⟩, rfl, rfl⟩

/-- With new names, a movement is recorded. -/
theorem on_record_calm {s : Session} (hs : Calm s) {p : Particulars} (hp : Recordable p) {n : Nat}
    (hf : FreshRows p.kind.mark (n + 1) s.names s.working) (w : Wallet) (amount : Nat)
    (flow : Transaction.Flow) : ∃ x t, (record w amount flow p).on s = (.ok x, t) ∧ Calm t ∧
      t.names.wallets = s.names.wallets ∧ t.working.wallets = s.working.wallets ∧
      FreshRows p.kind.mark n t.names t.working := by
  obtain ⟨rate, hrate⟩ := hp.rate
  obtain ⟨remarks, hremarks⟩ := hp.remarks
  obtain ⟨x, hx, hid, hreference⟩ := row_of_recordable hp
    (Names.transaction (Names.reference p.kind.mark s.names).2).1
    (Names.reference p.kind.mark s.names).1 rate remarks s.clock w amount flow
  have hinsert := Tables.insertTransaction?_eq_some.2 ⟨hf.new hid hreference, rfl⟩
  refine ⟨x, _, on_record_eq_ok.2 ⟨rate, remarks, _, hrate, hremarks, hx, hs.aborted,
    hs.faults _, hinsert, rfl⟩, ?_, rfl, rfl, hf.rest hid hreference⟩
  exact ⟨hs.aborted, hs.faults, hs.rival⟩

end History

namespace Wallets

/-- A balance that fits is stored, and the movement recorded. -/
theorem on_settle_calm {s : Session} (hs : Calm s) {p : History.Particulars} (hp : Recordable p)
    {n : Nat} (hf : FreshRows p.kind.mark (n + 1) s.names s.working) (w : Wallet) {balance : Nat}
    (hfits : Column.fits balance = true) (amount : Nat) (flow : Transaction.Flow) :
    ∃ x t, (do store flow w balance; History.record w amount flow p).on s = (.ok x, t) ∧ Calm t ∧
      t.names.wallets = s.names.wallets ∧
      t.working.wallets = (s.working.setBalance w.id balance s.clock).wallets ∧
      FreshRows p.kind.mark n t.names t.working := by
  have hstore := on_store_eq_ok.2 ⟨hs.aborted, hs.faults (.setBalance flow), hfits,
    rfl (a := { s with working := s.working.setBalance w.id balance s.clock })⟩
  obtain ⟨x, t, hrecord, ht, hwallet, hwallets, hrest⟩ := History.on_record_calm
    (s := { s with working := s.working.setBalance w.id balance s.clock })
    ⟨hs.aborted, hs.faults, hs.rival⟩ hp ⟨hf.transactions, hf.references⟩ w amount flow
  exact ⟨x, t, Action.on_bind_eq_ok.2 ⟨(), _, hstore, hrecord⟩, ht, hwallet, hwallets, hrest⟩

/-- A balance that does not fit is refused. -/
theorem on_settle_overflow {s : Session} (hs : Calm s) (p : History.Particulars) (w : Wallet)
    {balance : Nat} (hfits : ¬Column.fits balance = true) (amount : Nat)
    (flow : Transaction.Flow) :
    (do store flow w balance; History.record w amount flow p).on s =
      (.error .integerOverflow, { s with aborted := true }) := by
  refine Action.on_bind_eq_error.2 (.inl ?_)
  rw [store, Action.on_bind, Action.on_read]
  exact hs.on_write_error _ (if_neg hfits)

section

variable {s : Session} {w : Wallet} {amount : Int}

theorem on_load_calm (hs : Calm s) (hw : s.working.wallet? w.id = some w)
    (flow : Transaction.Flow) : (load flow w.id).on s = (.ok w, s) :=
  on_load_eq_ok.2 ⟨hs.faults _, hs.aborted, hw, rfl⟩

/-- What is left of a credit once its wallet has been loaded. -/
theorem on_credit_calm (hs : Calm s) (hw : s.working.wallet? w.id = some w) (hpos : 0 < amount)
    (p : History.Particulars) : (credit w.id (.int amount) p).on s =
      (do store .credit w (w.balance + amount.toNat)
          History.record w amount.toNat .credit p).on s := by
  have hamount : Amount.ofValue (.int amount) = .ok amount.toNat :=
    Amount.ofValue_int_eq_ok.2 ⟨hpos, by omega⟩
  rw [credit, Action.on_bind, Action.on_check, hamount]
  show ((load .credit w.id) >>= _).on s = _
  rw [Action.on_bind, on_load_calm hs hw]

/-- What is left of a debit once its wallet has been loaded. -/
theorem on_debit_calm (hs : Calm s) (hw : s.working.wallet? w.id = some w) (hpos : 0 < amount)
    (p : History.Particulars) : (debit w.id (.int amount) p).on s =
      if w.balance < amount.toNat then (.error (.refusal .insufficientBalance), s)
      else (do store .debit w (w.balance - amount.toNat)
               History.record w amount.toNat .debit p).on s := by
  have hamount : Amount.ofValue (.int amount) = .ok amount.toNat :=
    Amount.ofValue_int_eq_ok.2 ⟨hpos, by omega⟩
  rw [debit, Action.on_bind, Action.on_check, hamount]
  show ((load .debit w.id) >>= _).on s = _
  rw [Action.on_bind, on_load_calm hs hw]
  show (ite _ _ _ : Action Session Transaction).on s = _
  split_ifs <;> rfl

end

/-- A wallet that is there is found. -/
theorem on_find_calm {s : Session} (hs : Calm s) {userId : Int} {code : String}
    (hcode : Currency.isCode code = true) (huser : Column.fits userId = true) :
    (find userId (.text code)).on s = (.ok (s.working.walletOf? userId code), s) :=
  on_find_eq_ok.2 ⟨code, Currency.normalize_text hcode, hs.faults _, hs.aborted, huser, rfl, rfl⟩

/-- A user who cannot be one is not looked for. -/
theorem on_find_overflow {s : Session} (hs : Calm s) {userId : Int} {code : String}
    (hcode : Currency.isCode code = true) (huser : ¬Column.fits userId = true) :
    (find userId (.text code)).on s = (.error .integerOverflow, s) := by
  rw [find, Action.on_bind, Action.on_check, Currency.normalize_text hcode]
  exact hs.on_query_overflow .findWallet (by simpa using huser) _

theorem on_resolve_overflow {s : Session} (hs : Calm s) {userId : Int} {code : String}
    (hcode : Currency.isCode code = true) (huser : ¬Column.fits userId = true) :
    (resolve userId (.text code)).on s = (.error .integerOverflow, s) := by
  rw [resolve, Action.on_bind, Action.on_check, Currency.normalize_text hcode]
  show (query .resolveWallet _ _ >>= _).on s = _
  rw [Action.on_bind, hs.on_query_overflow .resolveWallet (by simpa using huser)]

/-- A wallet with a new name is created. -/
theorem on_create_calm {s : Session} (hs : Calm s) (hf : FreshWallet s.names s.working)
    {userId : Int} {code : String} (hnone : s.working.walletOf? userId code = none) :
    ∃ w t, (create userId code).on s = (.ok w, t) ∧ Calm t ∧ w.userId = userId ∧
      w.currency = code ∧ w.balance = 0 ∧ s.working.insertWallet? w = some t.working ∧
      t.names.transactions = s.names.transactions ∧ t.names.references = s.names.references := by
  let w := empty s.names.wallet.1 userId code s.clock
  let tables : Tables := { s.working with wallets := s.working.wallets ++ [w] }
  have hinsert : s.working.insertWallet? w = some tables :=
    Tables.insertWallet?_eq_some.2 ⟨hf, hnone, rfl⟩
  refine ⟨w, { s with names := s.names.wallet.2, working := tables }, ?_,
    ⟨hs.aborted, hs.faults, hs.rival⟩, rfl, rfl, rfl, hinsert, rfl, rfl⟩
  rw [create, Action.on_bind_eq_ok]
  refine ⟨s.names.wallet.1, { s with names := s.names.wallet.2 }, rfl, ?_⟩
  rw [Action.on_bind, Action.on_read, Action.on_bind_eq_ok]
  refine ⟨(), _, on_write_eq_ok.2 ⟨hs.aborted, hs.faults _, tables, ?_, rfl⟩, rfl⟩
  simp only [show s.working.insertWallet? (empty _ _ _ _) = some tables from hinsert]

/-- A wallet is resolved, with nothing in it if it was not there. -/
theorem on_resolve_calm {s : Session} (hs : Calm s) (ha : s.working.Lawful) {userId : Int}
    {code : String} (hcode : Currency.isCode code = true) (huser : Column.fits userId = true)
    {mark : String} {n : Nat} (hrows : FreshRows mark n s.names s.working)
    (hf : FreshWallet s.names s.working) :
    ∃ w t, (resolve userId (.text code)).on s = (.ok w, t) ∧ Calm t ∧ t.working.Lawful ∧
      w ∈ t.working.wallets ∧ w.userId = userId ∧ w.currency = code ∧
      w.balance = (s.working.holdings userId code).getD 0 ∧
      t.working.holdings = s.working.holdings.set userId code w.balance ∧
      FreshRows mark n t.names t.working := by
  have hbound : [userId].all Column.fits = true := by simpa using huser
  cases hfound : s.working.walletOf? userId code with
  | some w =>
    obtain ⟨hmem, rfl, rfl⟩ := Tables.walletOf?_eq_some hfound
    have hheld : s.working.holdings w.userId w.currency = some w.balance := by
      simp [Tables.holdings, hfound]
    refine ⟨w, s, ?_, hs, ha, hmem, rfl, rfl, by rw [hheld]; rfl,
      (Holdings.set_eq_self hheld).symm, hrows⟩
    rw [resolve, Action.on_bind, Action.on_check, Currency.normalize_text hcode]
    show (query .resolveWallet _ _ >>= _).on s = _
    rw [Action.on_bind, hs.on_query .resolveWallet hbound]
    simp only [hfound]
    rfl
  | none =>
    have hheld : s.working.holdings userId code = none := by simp [Tables.holdings, hfound]
    obtain ⟨w, t, hcreate, ht, rfl, rfl, hbalance, hinsert, hids, hreferences⟩ :=
      on_create_calm hs hf hfound
    obtain ⟨-, -, htables⟩ := Tables.insertWallet?_eq_some.1 hinsert
    have hfits : Column.fits w.balance = true := by
      rw [hbalance]
      decide
    refine ⟨w, t, ?_, ht, ha.insertWallet? hfits hinsert, ?_, rfl, rfl, ?_,
      Tables.holdings_insertWallet? hinsert, ?_⟩
    · rw [resolve, Action.on_bind, Action.on_check, Currency.normalize_text hcode]
      show (query .resolveWallet _ _ >>= _).on s = _
      rw [Action.on_bind, hs.on_query .resolveWallet hbound]
      simp only [hfound]
      rw [Action.on_bind, hs.on_admitRival]
      show ((nested (create _ _)).outcome >>= _).on s = _
      rw [Action.on_bind, Action.on_outcome, hs.on_nested hcreate ht]
      rfl
    · rw [← htables]
      exact List.mem_append_right _ (.head _)
    · rw [hheld, hbalance]
      rfl
    · rw [← htables]
      exact ⟨by rw [hids]; exact hrows.transactions, by rw [hreferences]; exact hrows.references⟩

end Wallets

end CurrencyLedger
