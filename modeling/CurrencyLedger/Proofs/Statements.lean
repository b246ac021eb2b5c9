import CurrencyLedger.Proofs.Actions
import CurrencyLedger.Store.Session
import Mathlib.Tactic.SplitIfs

/-!
Statements, and what they leave alone.

For every statement of a session: when it ends well, and with what. What an operation does within
one unit of work is made of them, so it changes no more of a session than they do: the working
tables, the state of the transaction, the names, and the rival, who comes once or not at all. Above
all it upholds what has been committed: only a rival with a transaction of its own adds to that.
-/

namespace CurrencyLedger.Session

/-- Only the working tables, the state of the transaction and the names may differ. -/
def Edited (s t : Session) : Prop :=
  t = { s with working := t.working, aborted := t.aborted, names := t.names }

instance : Std.Refl Edited := ⟨fun _ => rfl⟩

instance : IsTrans Session Edited where
  trans s t u hst htu := by
    cases s; cases t; cases u
    simp only [Edited, Session.mk.injEq] at hst htu ⊢
    simp_all

/-- No rival with a transaction of its own is about to come. -/
def Shared (s : Session) : Prop := ∀ r, s.rival = some r → r.independent = false

theorem shared_of_none {s : Session} (h : s.rival = none) : Shared s := by
  intro r hr
  rw [h] at hr
  cases hr

/--
All that has been committed still is. Besides, at most the wallet of a rival is, who has come by
then and had a transaction of its own.
-/
inductive Upholds (s t : Session) : Prop
  | same (hcommitted : t.committed = s.committed)
  | joined {r : Rival} (hcomes : s.rival = some r) (hindependent : r.independent = true)
    (hcame : t.rivals = s.rivals + 1)
    (hinsert : s.committed.insertWallet? (s.rivalWallet r) = some t.committed)

namespace Upholds

variable {s t u : Session}

/-- It depends on the committed tables and on how many rivals have come. -/
theorem congr (h : Upholds s t) (hcommitted : u.committed = t.committed)
    (hrivals : u.rivals = t.rivals) : Upholds s u := by
  cases h with
  | same h => exact .same (hcommitted.trans h)
  | joined hcomes hindependent hcame hinsert =>
    exact .joined hcomes hindependent (hrivals.trans hcame) (by rw [hinsert, hcommitted])

theorem committed (h : Upholds s t) (hs : Shared s) : t.committed = s.committed := by
  cases h with
  | same h => exact h
  | joined hcomes hindependent =>
    rw [hs _ hcomes] at hindependent
    cases hindependent

end Upholds

/-- Besides, a rival may have come. -/
structure SameUnit (s t : Session) : Prop where
  rest : t = { s with
    committed := t.committed, working := t.working, aborted := t.aborted, names := t.names,
    rival := t.rival, rivals := t.rivals }
  rival : (t.rival = s.rival ∧ t.rivals = s.rivals ∧ t.committed = s.committed) ∨
    ∃ r, s.rival = some r ∧ t.rival = none ∧ t.rivals = s.rivals + 1 ∧ Upholds s t

namespace SameUnit

variable {s t u : Session}

theorem upholds (h : SameUnit s t) : Upholds s t := by
  rcases h.rival with ⟨-, -, hcommitted⟩ | ⟨-, -, -, -, hupholds⟩
  · exact .same hcommitted
  · exact hupholds

theorem clock (h : SameUnit s t) : t.clock = s.clock := by rw [h.rest]

theorem announcements (h : SameUnit s t) : t.announcements = s.announcements := by rw [h.rest]

theorem trans (hst : SameUnit s t) (htu : SameUnit t u) : SameUnit s u := by
  refine ⟨?_, ?_⟩
  · rw [htu.rest, hst.rest]
  · rcases hst.rival with ⟨hr, hn, hcommitted⟩ | ⟨r, hr, hnone, hn, hupholds⟩
    · rcases htu.rival with ⟨hr', hn', hcommitted'⟩ | ⟨r, hr', hnone, hn', hupholds⟩
      · exact .inl ⟨hr'.trans hr, hn'.trans hn, hcommitted'.trans hcommitted⟩
      · -- Nobody has come before the second part, so it is the first one's rival who comes there.
        refine .inr ⟨r, hr ▸ hr', hnone, hn ▸ hn', ?_⟩
        cases hupholds with
        | same h => exact .same (h.trans hcommitted)
        | @joined r hcomes hindependent hcame hinsert =>
          have hwallet : t.rivalWallet r = s.rivalWallet r := by
            rw [rivalWallet, rivalWallet, hn, hst.clock]
          rw [hwallet, hcommitted] at hinsert
          exact .joined (hr ▸ hcomes) hindependent (hn ▸ hcame) hinsert
    · -- A rival that has come does not come again.
      rcases htu.rival with ⟨hr', hn', hcommitted'⟩ | ⟨r', hr', -⟩
      · exact .inr ⟨r, hr, hr'.trans hnone, hn'.trans hn, hupholds.congr hcommitted' hn'⟩
      · rw [hnone] at hr'
        cases hr'

end SameUnit

instance : Std.Refl SameUnit := ⟨fun _ => ⟨rfl, .inl ⟨rfl, rfl, rfl⟩⟩⟩

instance : IsTrans Session SameUnit := ⟨fun _ _ _ => SameUnit.trans⟩

theorem Edited.sameUnit {s t : Session} (h : Edited s t) : SameUnit s t := by
  rw [Edited] at h
  rw [h]
  exact ⟨rfl, .inl ⟨rfl, rfl, rfl⟩⟩

theorem within_sameUnit {a : Action Session α} (h : a.Within Edited) : a.Within SameUnit :=
  fun s => (h s).sameUnit

/-! ### Reading and writing -/

theorem on_query_eq_ok {st : Statement} {bound : List Int} {f : Tables → α} {s t : Session}
    {x : α} : (query st bound f).on s = (.ok x, t) ↔
      s.faults st = none ∧ s.aborted = false ∧ bound.all Column.fits = true ∧
        f s.working = x ∧ s = t := by
  rw [query, Action.on_of]
  cases s.faults st <;> cases s.aborted <;> cases bound.all Column.fits <;> simp

theorem within_query (st : Statement) (bound : List Int) (f : Tables → α) :
    (query st bound f).Within Edited := by
  intro s
  rw [query, Action.on_of]
  split
  · exact refl_of Edited _
  · split_ifs <;> exact refl_of Edited _

/-- A query leaves the session as it is. -/
theorem on_query_snd (st : Statement) (bound : List Int) (f : Tables → α) (s : Session) :
    ((query st bound f).on s).2 = s := by
  rw [query, Action.on_of]
  split
  · rfl
  · split_ifs <;> rfl

theorem on_write_eq_ok {st : Statement} {change : Tables → Except Failure Tables} {s t : Session} :
    (write st change).on s = (.ok (), t) ↔
      s.aborted = false ∧ s.faults st = none ∧
        ∃ tables, change s.working = .ok tables ∧ { s with working := tables } = t := by
  rw [write, Action.on_of]
  cases s.aborted <;> cases s.faults st <;> cases change s.working <;> simp

theorem within_write (st : Statement) (change : Tables → Except Failure Tables) :
    (write st change).Within Edited := by
  intro s
  rw [write, Action.on_of]
  split_ifs
  · exact refl_of Edited _
  · split
    · rfl
    · split <;> rfl

theorem within_run (st : Statement) : (run st).Within Edited := within_query st [] _

theorem on_draw_eq_ok {f : Names → String × Names} {s t : Session} {name : String} :
    (draw f).on s = (.ok name, t) ↔
      (f s.names).1 = name ∧ { s with names := (f s.names).2 } = t := by
  simp [draw]

theorem within_draw (f : Names → String × Names) : (draw f).Within Edited := fun _ => rfl

/-! ### Savepoints and rivals -/

theorem within_bracketed {a : Action Session α} (h : a.Within Edited) :
    (bracketed a).Within Edited :=
  Action.within_bind (within_run _) fun _ =>
    Action.within_bind h fun _ => Action.within_bind (within_run _) fun _ => Action.within_pure _

theorem within_nested {a : Action Session α} (h : a.Within Edited) : (nested a).Within Edited := by
  intro s
  rw [nested, Action.on_of]
  rcases hr : (bracketed a).on s with ⟨f | x, t⟩
  all_goals have hb : Edited s t := by simpa [hr] using within_bracketed h s
  · rw [Edited] at hb
    rw [hb]
    rfl
  · exact hb

/-- What a savepoint keeps has been done by the action in it. -/
theorem on_nested_eq_ok {a : Action Session α} {s t : Session} {x : α}
    (h : (nested a).on s = (.ok x, t)) : a.on s = (.ok x, t) := by
  rw [nested, Action.on_of] at h
  rcases hr : (bracketed a).on s with ⟨f | y, u⟩ <;> rw [hr] at h
  · simp at h
  · cases h
    simp only [bracketed, run, Action.on_bind_eq_ok, on_query_eq_ok, Action.on_pure] at hr
    obtain ⟨-, _, ⟨-, -, -, -, rfl⟩, y, u, ha, -, _, ⟨-, -, -, -, rfl⟩, hp⟩ := hr
    cases hp
    exact ha

/-- A savepoint that fails undoes what was written since it was opened. -/
theorem on_nested_eq_error {a : Action Session α} (hw : a.Within Edited) {s t : Session}
    {f : Failure} (h : (nested a).on s = (.error f, t)) : t = { s with names := t.names } := by
  rw [nested, Action.on_of] at h
  rcases hr : (bracketed a).on s with ⟨g | y, u⟩ <;> rw [hr] at h
  · cases h
    have hb : Edited s u := by simpa [hr] using within_bracketed hw s
    rw [Edited] at hb
    rw [hb]
  · simp at h

/-- The tables once a rival has come: with its wallet, unless there is one already. -/
theorem on_admitRival (s : Session) : (admitRival.on s).2 = s ∨
    ∃ r, s.rival = some r ∧ (admitRival.on s).2 =
      { s with
        rival := none
        rivals := s.rivals + 1
        working := (s.working.insertWallet? (s.rivalWallet r)).getD s.working
        committed := s.committedWith r } := by
  rw [admitRival, Action.on_update]
  cases hr : s.rival with
  | none => exact .inl rfl
  | some r => exact .inr ⟨r, rfl, rfl⟩

/-- A rival has committed nothing, or its wallet beside what had been committed. -/
theorem committedWith_cases (s : Session) (r : Rival) : s.committedWith r = s.committed ∨
    r.independent = true ∧ (s.working.insertWallet? (s.rivalWallet r)).isSome = true ∧
      s.committed.insertWallet? (s.rivalWallet r) = some (s.committedWith r) := by
  rw [committedWith]
  split_ifs with h
  · obtain ⟨hindependent, hroom⟩ := Bool.and_eq_true_iff.1 h
    cases hinsert : s.committed.insertWallet? (s.rivalWallet r) with
    | none => exact .inl rfl
    | some b => exact .inr ⟨hindependent, hroom, rfl⟩
  · exact .inl rfl

theorem within_admitRival : admitRival.Within SameUnit := by
  intro s
  rcases on_admitRival s with h | ⟨r, hr, h⟩ <;> rw [h]
  · exact refl_of SameUnit _
  · refine ⟨rfl, .inr ⟨r, hr, rfl, rfl, ?_⟩⟩
    rcases s.committedWith_cases r with hsame | ⟨hindependent, -, hinsert⟩
    · exact .same hsame
    · exact .joined hr hindependent rfl hinsert

end CurrencyLedger.Session
