import CurrencyLedger.Proofs.Bookings
import CurrencyLedger.Proofs.Units

/-!
Movements that are asked for one by one.

Between the new balance of a wallet and the row that says so stand the rate and the remarks: the
balance is stored before they are brought into the form that rows keep. A movement whose rate and
remarks have that form is made as a whole or not at all, as far as anything can still be committed
after it. One of another kind fails when its balance has been stored, and it is for the unit of work
around it to undo that.
-/

namespace CurrencyLedger

open Session Wallets

/-! ### Statements that fail -/

section

variable {s t : Session} {f : Failure}

/-- A write that fails leaves an aborted transaction. -/
theorem Session.aborted_of_write {st : Statement} {change : Tables → Except Failure Tables}
    (h : (write st change).on s = (.error f, t)) : t.aborted = true := by
  rw [write, Action.on_of] at h
  split at h
  · cases h
    assumption
  · split at h
    · cases h
      rfl
    · split at h <;> cases h
      rfl

theorem Wallets.on_load_snd (flow : Transaction.Flow) (id : String) (s : Session) :
    ((load flow id).on s).2 = s := by
  have hs := on_query_snd (.loadWallet flow) [] (fun t => t.wallet? id) s
  rw [load, Action.on_bind]
  split
  · rename_i w t hfound
    rw [hfound] at hs
    cases w <;> exact hs
  · rename_i f t hfailed
    rw [hfailed] at hs
    exact hs

theorem Wallets.aborted_of_store {flow : Transaction.Flow} {w : Wallet} {n : Nat}
    (h : (store flow w n).on s = (.error f, t)) : t.aborted = true := by
  rw [store, Action.on_bind_of_ok _ (Action.on_read _ _)] at h
  exact aborted_of_write h

end

/-! ### One movement -/

/-- A movement that is asked for. -/
structure Posting where
  flow : Transaction.Flow
  walletId : String
  amount : Value
  particulars : History.Particulars

namespace Posting

/-- Makes the movement, if it can be made. -/
def make (m : Posting) : Action Session Transaction :=
  match m.flow with
  | .credit => credit m.walletId m.amount m.particulars
  | .debit => debit m.walletId m.amount m.particulars

/-- The session after some movements were asked for, one after the other. -/
def makeAll (ms : List Posting) (s : Session) : Session :=
  ms.foldl (fun s m => (m.make.on s).2) s

/-- The rate and the remarks have a form that rows keep. -/
structure Kept (m : Posting) : Prop where
  rate : ∃ s, Rate.format m.particulars.exchangeRate = .ok s
  remarks : ∃ v, History.keptRemarks m.particulars.remarks = .ok v

/-- How asking for a movement ends. -/
inductive Ending (m : Posting) (s : Session) : Except Failure Transaction → Session → Prop
  /-- The movement has been made and recorded. -/
  | made {w : Wallet} {x : Transaction} {t : Session} (hid : w.id = m.walletId)
    (hmoved : Moved s.clock w x s.working t.working) (hready : s.aborted = false) :
    Ending m s (.ok x) t
  /-- Nothing has been written. -/
  | refused {f : Failure} : Ending m s (.error f) s
  /-- A statement has failed, and no other will be answered. -/
  | aborted {f : Failure} {t : Session} (haborted : t.aborted = true) : Ending m s (.error f) t
  /-- The balance has been stored, and the movement cannot be recorded. -/
  | unrecorded {f : Failure} {w : Wallet} {n : Nat} {names : Names} (hkept : ¬m.Kept)
    (hfound : s.working.wallet? m.walletId = some w) (hpos : 0 < n) :
    Ending m s (.error f)
      { s with
        working := s.working.setBalance w.id (balanceAfter m.flow w.balance n) s.clock, names }

section

variable {m : Posting} {ms : List Posting} {s t u : Session} {f : Failure}

/-- A movement is not recorded if its rate or its remarks cannot be kept or its row is refused. -/
theorem on_record_eq_error {w : Wallet} {n : Nat}
    (h : (History.record w n m.flow m.particulars).on s = (.error f, t)) :
    t.aborted = true ∨ ¬m.Kept ∧ ∃ names, t = { s with names } := by
  rw [History.record, Action.on_bind_of_ok _ (on_draw_eq_ok.2 ⟨rfl, rfl⟩)] at h
  cases hrate : Rate.format m.particulars.exchangeRate with
  | error signal =>
    have hkept : ¬m.Kept := by
      rintro ⟨⟨_, hok⟩, -⟩
      rw [hrate] at hok
      cases hok
    rw [Action.on_bind_of_error _ (by rw [Action.on_compute, hrate]; rfl)] at h
    cases h
    exact .inr ⟨hkept, _, rfl⟩
  | ok rate =>
    rw [Action.on_bind_of_ok _ (by rw [Action.on_compute, hrate]; rfl)] at h
    cases hremarks : History.keptRemarks m.particulars.remarks with
    | error g =>
      have hkept : ¬m.Kept := by
        rintro ⟨-, ⟨_, hok⟩⟩
        rw [hremarks] at hok
        cases hok
      rw [Action.on_bind_of_error _ (by rw [Action.on_lift, hremarks])] at h
      cases h
      exact .inr ⟨hkept, _, rfl⟩
    | ok remarks =>
      rw [Action.on_bind_of_ok _ (by rw [Action.on_lift, hremarks]),
        Action.on_bind_of_ok _ (on_draw_eq_ok.2 ⟨rfl, rfl⟩),
        Action.on_bind_of_ok _ (Action.on_read _ _)] at h
      rcases Action.on_bind_eq_error.1 h with h | ⟨_, u, hwrite, h⟩
      · exact .inl (aborted_of_write h)
      · -- What has been inserted is the row.
        obtain ⟨-, -, tables, hinsert, -⟩ := on_write_eq_ok.1 hwrite
        obtain ⟨x, hx, -⟩ := bind_eq_ok.1 hinsert
        rw [Action.on_lift, hx] at h
        cases h

theorem make_eq (m : Posting) : m.make = (do
    let n ← .check (Amount.ofValue m.amount)
    let w ← load m.flow m.walletId
    if m.flow = .debit ∧ w.balance < n then .refuse .insufficientBalance
    else do
      store m.flow w (balanceAfter m.flow w.balance n)
      History.record w n m.flow m.particulars) := by
  obtain ⟨flow, id, amount, p⟩ := m
  cases flow with
  | credit => simp [make, credit, balanceAfter]
  | debit => simp [make, debit, balanceAfter]

/-- Asking for a movement ends in one of these ways. -/
theorem ending (m : Posting) (s : Session) : m.Ending s (m.make.on s).1 (m.make.on s).2 := by
  rw [make_eq]
  cases hn : Amount.ofValue m.amount with
  | error e =>
    rw [Action.on_bind_of_error _ (Action.on_check _ _)]
    exact .refused
  | ok n =>
    rw [Action.on_bind_of_ok _ (Action.on_check _ _)]
    have hload := on_load_snd m.flow m.walletId s
    rcases hfound : (load m.flow m.walletId).on s with ⟨f | w, s'⟩
    all_goals
      rw [hfound] at hload
      subst hload
    · rw [Action.on_bind_of_error _ hfound]
      exact .refused
    rw [Action.on_bind_of_ok _ hfound]
    obtain ⟨-, hready, hw, -⟩ := on_load_eq_ok.1 hfound
    have hid := (Tables.wallet?_eq_some hw).2
    by_cases hshort : m.flow = .debit ∧ w.balance < n
    · rw [if_pos hshort]
      exact .refused
    rw [if_neg hshort]
    rcases hstore : (store m.flow w (balanceAfter m.flow w.balance n)).on s' with ⟨f | _, u⟩
    · rw [Action.on_bind_of_error _ hstore]
      exact .aborted (aborted_of_store hstore)
    rw [Action.on_bind_of_ok _ hstore]
    rcases hrecord : (History.record w n m.flow m.particulars).on u with ⟨f | x, t⟩
    · rcases on_record_eq_error hrecord with haborted | ⟨hkept, names, rfl⟩
      · exact .aborted haborted
      · obtain ⟨-, -, -, rfl⟩ := on_store_eq_ok.1 hstore
        exact .unrecorded hkept hw (Amount.pos_of_ofValue hn)
    · have hcovered (hflow : m.flow = .debit) : n ≤ w.balance :=
        Nat.le_of_not_lt fun hlt => hshort ⟨hflow, hlt⟩
      obtain ⟨hmoved, -, -, -⟩ := moved_of_record (hid.symm ▸ hw) (Amount.pos_of_ofValue hn)
        hcovered hstore hrecord
      exact .made hid hmoved hready

theorem within_make (m : Posting) : m.make.Within Edited := by
  rw [make]
  split
  · exact within_credit _ _ _
  · exact within_debit _ _ _

/-- A movement of the kept kind that fails has written nothing, or nothing can follow on it. -/
theorem eq_or_aborted_of_error (hkept : m.Kept) (h : m.make.on s = (.error f, t)) :
    t = s ∨ t.aborted = true := by
  have hending := m.ending s
  rw [h] at hending
  cases hending with
  | refused => exact .inl rfl
  | aborted haborted => exact .inr haborted
  | unrecorded hnot => exact absurd hkept hnot

/-! ### One movement after the other -/

/-- An aborted transaction stays aborted. -/
theorem aborted_make (m : Posting) (h : s.aborted = true) : (m.make.on s).2.aborted = true := by
  have hending := m.ending s
  generalize (m.make.on s).1 = r at hending
  generalize (m.make.on s).2 = t at hending ⊢
  cases hending with
  | made _ _ hready => exact absurd (h.symm.trans hready) (by decide)
  | refused => exact h
  | aborted haborted => exact haborted
  | unrecorded => exact h

theorem aborted_makeAll (ms : List Posting) (h : s.aborted = true) :
    (makeAll ms s).aborted = true := by
  induction ms generalizing s with
  | nil => exact h
  | cons m ms ih => exact ih (aborted_make m h)

/-- A movement of the kept kind is booked by its row, or has changed nothing. -/
theorem booked_make (hkept : m.Kept) (hready : (m.make.on s).2.aborted = false) :
    ∃ rows, s.working.Booked rows (m.make.on s).2.working := by
  have hending := m.ending s
  generalize (m.make.on s).1 = r at hending
  generalize (m.make.on s).2 = t at hending hready ⊢
  cases hending with
  | made _ hmoved _ => exact ⟨_, .of_moved hmoved⟩
  | refused => exact ⟨[], .refl _⟩
  | aborted haborted => exact absurd (hready.symm.trans haborted) (by decide)
  | unrecorded hnot => exact absurd hkept hnot

/-- So are any number of them, as long as no statement has failed. -/
theorem booked_makeAll (hkept : ∀ m ∈ ms, m.Kept) (hready : (makeAll ms s).aborted = false) :
    ∃ rows, s.working.Booked rows (makeAll ms s).working := by
  induction ms generalizing s with
  | nil => exact ⟨[], .refl _⟩
  | cons m ms ih =>
    have hfirst : (m.make.on s).2.aborted = false := by
      rw [← Bool.not_eq_true]
      intro h
      exact absurd (hready.symm.trans (aborted_makeAll ms h)) (by decide)
    -- Had the first one aborted the transaction, the others could not have mended it.
    obtain ⟨rows, hbooked⟩ := booked_make (hkept m List.mem_cons_self) hfirst
    obtain ⟨rows', hbooked'⟩ := ih (fun n hn => hkept n (List.mem_cons_of_mem m hn)) hready
    exact ⟨rows ++ rows', hbooked.trans hbooked'⟩

/--
Movements whose rate and remarks can be kept are atomic by themselves. If one fails, a commit after
it does what it would have done before; and what a commit makes of any number of them, some of which
may have failed, is told by the rows alone.
-/
theorem kept_postings_are_atomic :
    (∀ (m : Posting) (s t u : Session) (f : Failure), m.Kept → m.make.on s = (.error f, t) →
      commit.on t = (.ok (), u) → commit.on s = (.ok (), u)) ∧
    ∀ (ms : List Posting) (s u : Session), (∀ m ∈ ms, m.Kept) →
      commit.on (makeAll ms s) = (.ok (), u) → ∃ rows, s.working.Booked rows u.committed := by
  constructor
  · intro m s t u f hkept h hcommit
    rcases eq_or_aborted_of_error hkept h with rfl | haborted
    · exact hcommit
    · obtain ⟨-, hready, -⟩ := on_commit_eq_ok.1 hcommit
      exact absurd (hready.symm.trans haborted) (by decide)
  · intro ms s u hkept hcommit
    obtain ⟨-, hready, rfl⟩ := on_commit_eq_ok.1 hcommit
    exact booked_makeAll hkept hready

/-- The unit of work around a movement undoes whatever a failure has left, of any kind. -/
theorem unitOfWork_undoes {limit : Option TimeLimit} (m : Posting)
    (h : (unitOfWork limit m.make).on s = (.error f, t)) :
    t.committed = s.committed ∧ t.working = s.committed ∧ t.aborted = false := by
  obtain ⟨u, hsu, rfl⟩ := on_unitOfWork_eq_error (within_make m) h
  have hcommitted : u.committed = s.committed := by rw [hsu]
  exact ⟨hcommitted, hcommitted, rfl⟩

end

/-- A hundred kobo to be received at a rate that is no number. -/
def unratedPosting : Posting where
  flow := .credit
  walletId := "purse"
  amount := .int 100
  particulars := { exchangeRate := .text "par" }

/-- A store with a purse of a thousand kobo. -/
def purseStore : Session :=
  .ofTables
    { wallets :=
        [{ id := "purse", userId := 1, currency := "NGN", balance := 1000
           createdAt := ⟨⟨2024, 1, 15⟩, 12, 0, 0⟩, updatedAt := ⟨⟨2024, 1, 15⟩, 12, 0, 0⟩ }] }
    ⟨⟨2024, 1, 15⟩, 12, 0, 0⟩

/-- Movements of the other kind are not: a balance may be left without a row. -/
theorem unrated_posting_is_half_made : ¬∀ (m : Posting) (s t u v : Session) (f : Failure),
    m.make.on s = (.error f, t) → commit.on t = (.ok (), u) → commit.on s = (.ok (), v) →
      u.committed.wallets = v.committed.wallets := by
  intro h
  have hfails : Action.failure? (unratedPosting.make.on purseStore).1 =
      some (.arithmetic .invalidOperation) := by decide +kernel
  have hcommit : commit.on (unratedPosting.make.on purseStore).2 = (.ok (), _) :=
    on_commit_eq_ok.2 ⟨by decide +kernel, by decide +kernel, rfl⟩
  have hwallets := h unratedPosting purseStore _ _ _ _ (Action.on_eq_error hfails) hcommit
    (on_commit_eq_ok.2 ⟨rfl, rfl, rfl⟩)
  exact absurd (congrArg (List.map Wallet.balance) hwallets) (by decide +kernel)

end Posting

end CurrencyLedger
