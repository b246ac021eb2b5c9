import CurrencyLedger.Proofs.Statements

/-!
Units of work on a session.

A unit of work ends well exactly when it could be set up, its body ended well, its limit had not
passed and the commit went through; then what the body wrote is committed. If it fails, whatever
came before the failure, the session is back at the tables of the last commit.
-/

namespace CurrencyLedger.Session

/-- Rolling back does not touch what has been committed. -/
theorem Upholds.rollback {s t : Session} (h : Upholds s t) : Upholds s t.rollback := h.congr rfl rfl

theorem on_commit_eq_ok {s t : Session} : commit.on s = (.ok (), t) ↔
    s.faults .commit = none ∧ s.aborted = false ∧ { s with committed := s.working } = t := by
  rw [commit, Action.on_of]
  cases s.faults .commit <;> cases s.aborted <;> simp

/-- A commit that fails changes nothing. -/
theorem on_commit_eq_error {s t : Session} {f : Failure} (h : commit.on s = (.error f, t)) :
    t = s := by
  rw [commit, Action.on_of] at h
  split at h
  · cases h
    rfl
  · split at h <;> cases h
    rfl

/-- Telling the server about a limit changes nothing in the session. -/
theorem on_setUp_snd (limit : Option TimeLimit) (s : Session) :
    ((UnitOfWork.setUp s.connection limit).on s).2 = s := by
  rw [UnitOfWork.setUp]
  split
  · rename_i l _ _
    rw [Action.on_bind, Action.on_lift]
    rcases l.milliseconds with f | ms
    · rfl
    · exact on_query_snd .limitTime [] _ s
  · rfl

/-- Whether a unit of work with a limit can be set up in a session. -/
def AdmitsLimit (s : Session) (limit : Option TimeLimit) : Prop :=
  ((UnitOfWork.setUp s.connection limit).on s).1 = .ok ()

/-- Only a limit in force is told to the server, and only to one that can be told. -/
theorem admitsLimit_iff {s : Session} {limit : Option TimeLimit} : s.AdmitsLimit limit ↔
    ∀ l, UnitOfWork.effective? limit = some l → s.dialect = .postgresql →
      (∃ ms, l.milliseconds = .ok ms) ∧ s.faults .limitTime = none ∧ s.aborted = false := by
  rw [AdmitsLimit, UnitOfWork.setUp]
  split
  · rename_i l hl hd
    have hdialect : s.dialect = .postgresql := hd
    have hexecute (command : String) : ((s.connection.execute command).on s).1 = .ok () ↔
        s.faults .limitTime = none ∧ s.aborted = false := by
      show ((run .limitTime).on s).1 = .ok () ↔ _
      rw [run, query, Action.on_of]
      cases s.faults .limitTime <;> cases s.aborted <;> simp
    rw [Action.on_bind, Action.on_lift]
    cases hms : l.milliseconds with
    | error f => simp [hl, hdialect, hms]
    | ok ms => simp [hl, hdialect, hms, hexecute]
  · rename_i hno
    simp only [Action.on_pure, true_iff]
    intro l hl hd
    exact absurd hd (hno l hl)

theorem on_setUp_eq_ok {limit : Option TimeLimit} {s t : Session} {x : Unit} :
    (UnitOfWork.setUp s.connection limit).on s = (.ok x, t) ↔ s.AdmitsLimit limit ∧ s = t := by
  have h := on_setUp_snd limit s
  rw [AdmitsLimit]
  rcases hr : (UnitOfWork.setUp s.connection limit).on s with ⟨r, u⟩
  rw [hr] at h
  subst h
  simp

theorem on_setUp_eq_error {limit : Option TimeLimit} {s t : Session} {f : Failure}
    (h : (UnitOfWork.setUp s.connection limit).on s = (.error f, t)) : t = s := by
  have := on_setUp_snd limit s
  rwa [h] at this

section

variable {limit : Option TimeLimit} {body : Action Session α} {s t : Session}

theorem on_attempt_eq_ok {x : α} :
    (UnitOfWork.attempt s.connection limit s.elapsed body).on s = (.ok x, t) ↔
      s.AdmitsLimit limit ∧ ∃ u, body.on s = (.ok x, u) ∧
        UnitOfWork.overrun? limit s.elapsed = none ∧ u.faults .commit = none ∧
        u.aborted = false ∧ { u with committed := u.working } = t := by
  simp only [UnitOfWork.attempt, Action.on_bind_eq_ok, on_setUp_eq_ok]
  constructor
  · rintro ⟨_, _, ⟨hset, rfl⟩, y, u, hbody, h⟩
    refine ⟨hset, u, ?_⟩
    cases hover : UnitOfWork.overrun? limit s.elapsed with
    | some f => simp [hover] at h
    | none =>
      simp only [hover, Action.on_bind_eq_ok, Action.on_pure] at h
      obtain ⟨_, v, hcommit, hv⟩ := h
      cases hv
      obtain ⟨hf, ha, hc⟩ := on_commit_eq_ok.1 hcommit
      exact ⟨hbody, rfl, hf, ha, hc⟩
  · rintro ⟨hset, u, hbody, hover, hf, ha, rfl⟩
    refine ⟨(), s, ⟨hset, rfl⟩, x, u, hbody, ?_⟩
    simp only [hover, Action.on_bind_eq_ok, Action.on_pure]
    exact ⟨(), _, on_commit_eq_ok.2 ⟨hf, ha, rfl⟩, rfl⟩

/-- However an attempt fails, it has done no more than its body. -/
theorem on_attempt_eq_error {R : Session → Session → Prop} [Std.Refl R] (hbody : body.Within R)
    {f : Failure}
    (h : (UnitOfWork.attempt s.connection limit s.elapsed body).on s = (.error f, t)) : R s t := by
  simp only [UnitOfWork.attempt, Action.on_bind_eq_error] at h
  rcases h with h | ⟨_, _, hset, h | ⟨x, u, hx, h⟩⟩
  · rw [on_setUp_eq_error h]
    exact refl_of R s
  · obtain ⟨-, rfl⟩ := on_setUp_eq_ok.1 hset
    simpa [h] using hbody s
  · obtain ⟨-, rfl⟩ := on_setUp_eq_ok.1 hset
    have hu : R s u := by simpa [hx] using hbody s
    cases hover : UnitOfWork.overrun? limit s.elapsed with
    | some g =>
      rw [hover] at h
      cases h
      exact hu
    | none =>
      simp only [hover, Action.on_bind_eq_error, Action.on_pure] at h
      rcases h with h | ⟨_, _, -, h⟩
      · rw [on_commit_eq_error h]
        exact hu
      · cases h

/-- A unit of work that ends well has committed what its body wrote. -/
theorem on_unitOfWork_eq_ok {x : α} :
    (unitOfWork limit body).on s = (.ok x, t) ↔
      s.AdmitsLimit limit ∧ ∃ u, body.on s = (.ok x, u) ∧
        UnitOfWork.overrun? limit s.elapsed = none ∧ u.faults .commit = none ∧
        u.aborted = false ∧ { u with committed := u.working } = t := by
  rw [← on_attempt_eq_ok, unitOfWork, Action.on_of, UnitOfWork.run, Action.on_of]
  rcases (UnitOfWork.attempt s.connection limit s.elapsed body).on s with ⟨_ | y, u⟩ <;> simp

/-- A body that fails is rolled back, and its failure reported. -/
theorem on_unitOfWork_of_error (hset : s.AdmitsLimit limit) {f : Failure}
    (h : body.on s = (.error f, t)) : (unitOfWork limit body).on s =
      (.error (UnitOfWork.reported limit s.elapsed f), t.rollback) := by
  have hattempt : (UnitOfWork.attempt s.connection limit s.elapsed body).on s = (.error f, t) := by
    rw [UnitOfWork.attempt, Action.on_bind_eq_error]
    refine .inr ⟨(), s, on_setUp_eq_ok.2 ⟨hset, rfl⟩, ?_⟩
    exact Action.on_bind_eq_error.2 (.inl h)
  rw [unitOfWork, Action.on_of, UnitOfWork.run, Action.on_of, hattempt]
  rfl

/-- A unit of work that fails has rolled its body back. -/
theorem on_unitOfWork_eq_error {R : Session → Session → Prop} [Std.Refl R]
    (hbody : body.Within R) {f : Failure} (h : (unitOfWork limit body).on s = (.error f, t)) :
    ∃ u, R s u ∧ t = u.rollback := by
  rw [unitOfWork, Action.on_of, UnitOfWork.run, Action.on_of] at h
  rcases hr : (UnitOfWork.attempt s.connection limit s.elapsed body).on s with ⟨g | y, u⟩ <;>
    rw [hr] at h
  · cases h
    exact ⟨u, on_attempt_eq_error hbody hr, rfl⟩
  · simp at h

end

/-- An answer may be rewritten within a unit of work as well as after it. -/
theorem unitOfWork_map (limit : Option TimeLimit) (f : α → β) (body : Action Session α) :
    unitOfWork limit (f <$> body) = f <$> unitOfWork limit body := by
  have h (s : Session) : UnitOfWork.attempt s.connection limit s.elapsed (f <$> body) =
      f <$> UnitOfWork.attempt s.connection limit s.elapsed body := by
    simp only [UnitOfWork.attempt, map_bind, bind_map_left]
    cases UnitOfWork.overrun? limit s.elapsed with
    | some e => rfl
    | none => simp only [map_bind, map_pure]
  refine Action.ext fun s => ?_
  rw [Action.on_map, unitOfWork, Action.on_of, UnitOfWork.run, Action.on_of, h, Action.on_map,
    unitOfWork, Action.on_of, UnitOfWork.run, Action.on_of]
  rcases (UnitOfWork.attempt s.connection limit s.elapsed body).on s with ⟨e | x, t⟩ <;> rfl

end CurrencyLedger.Session
