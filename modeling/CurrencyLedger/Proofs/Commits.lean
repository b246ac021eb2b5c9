import CurrencyLedger.Proofs.Limits
import CurrencyLedger.Proofs.Units

/-!
How a unit of work ends.

What a unit of work asks of its connection is noted by a connection that passes every request on.
The note changes nothing: the unit of work ends as it would have without it, in the same state. So
it can be said of every unit of work on a session, whatever its body is and whatever fails, which
requests it made and what became of the tables.

There are five ways to an end, `Course`: the limit cannot be told to the server, the body fails, the
limit has passed when the body is over, the commit fails, or it goes through. Only the last one is a
success; all others end with a rollback.
-/

namespace CurrencyLedger

namespace UnitOfWork

/-- What a unit of work asks of its connection. -/
inductive Request where
  | execute (command : String)
  | commit
  | rollback
  deriving DecidableEq, Repr

/-- A state, with what has been asked of a connection on it. -/
structure Noted (σ : Type) where
  state : σ
  requests : List Request := []

/-- Requests for nothing but commands. -/
def OnlyCommands (rs : List Request) : Prop := ∀ r ∈ rs, ∃ command, r = .execute command

theorem OnlyCommands.count {rs : List Request} (h : OnlyCommands rs) :
    rs.count .commit = 0 ∧ rs.count .rollback = 0 := by
  constructor <;> refine List.count_eq_zero.2 fun hmem => ?_
  all_goals
    obtain ⟨command, hcommand⟩ := h _ hmem
    cases hcommand

/-- An action on the state that asks nothing of the connection. -/
def quietly (a : Action σ α) : Action (Noted σ) α := .of fun s =>
  ((a.on s.state).1, { s with state := (a.on s.state).2 })

/-- An action on the state that is a request. -/
def noting (r : Request) (a : Action σ α) : Action (Noted σ) α := .of fun s =>
  ((a.on s.state).1, { state := (a.on s.state).2, requests := s.requests ++ [r] })

/-- A connection whose requests are noted as they are made. -/
def notingConnection (c : Connection σ) : Connection (Noted σ) where
  dialect := c.dialect
  execute command := noting (.execute command) (c.execute command)
  commit := noting .commit c.commit
  rollback s := { state := c.rollback s.state, requests := s.requests ++ [.rollback] }

/-- An action does to the state what another one does. -/
def Mirrors (b : Action (Noted σ) α) (a : Action σ α) : Prop :=
  ∀ s, ((b.on s).1, (b.on s).2.state) = a.on s.state

theorem mirrors_quietly (a : Action σ α) : Mirrors (quietly a) a := fun _ => rfl

theorem mirrors_noting (r : Request) (a : Action σ α) : Mirrors (noting r a) a := fun _ => rfl

theorem mirrors_lift (r : Except Failure α) :
    Mirrors (.lift r : Action (Noted σ) α) (.lift r) := fun _ => rfl

theorem mirrors_bind {b : Action (Noted σ) α} {a : Action σ α} {g : α → Action (Noted σ) β}
    {f : α → Action σ β} (h : Mirrors b a) (hf : ∀ x, Mirrors (g x) (f x)) :
    Mirrors (b >>= g) (a >>= f) := by
  intro s
  rw [Action.on_bind, Action.on_bind, ← h s]
  rcases hb : b.on s with ⟨_ | x, t⟩
  · rfl
  · exact hf x t

theorem mirrors_setUp (c : Connection σ) (limit : Option TimeLimit) :
    Mirrors (setUp (notingConnection c) limit) (setUp c limit) := by
  rcases c with ⟨dialect, execute, commit, rollback⟩
  simp only [setUp, notingConnection]
  cases effective? limit with
  | none => exact mirrors_lift _
  | some l =>
    cases dialect with
    | postgresql => exact mirrors_bind (mirrors_lift _) fun ms => mirrors_noting _ _
    | sqlite => exact mirrors_lift _
    | other => exact mirrors_lift _

theorem mirrors_attempt (c : Connection σ) (limit : Option TimeLimit) (elapsed : Binary64)
    (body : Action σ α) :
    Mirrors (attempt (notingConnection c) limit elapsed (quietly body))
      (attempt c limit elapsed body) := by
  refine mirrors_bind (mirrors_setUp c limit) fun _ =>
    mirrors_bind (mirrors_quietly body) fun x => ?_
  cases overrun? limit elapsed with
  | some f => exact mirrors_lift _
  | none => exact mirrors_bind (mirrors_noting _ _) fun _ => mirrors_lift _

/-- Taking notes changes nothing of a unit of work. -/
theorem mirrors_run (c : Connection σ) (limit : Option TimeLimit) (elapsed : Binary64)
    (body : Action σ α) (late : Binary64) :
    Mirrors (run (notingConnection c) limit elapsed (quietly body) late)
      (run c limit elapsed body late) := by
  intro s
  rw [run, run, Action.on_of, Action.on_of, ← mirrors_attempt c limit elapsed body s]
  rcases (attempt (notingConnection c) limit elapsed (quietly body)).on s with ⟨_ | x, t⟩ <;> rfl

/-- Telling the server about a limit is at most a command. -/
theorem requests_setUp (c : Connection σ) (limit : Option TimeLimit) (s : Noted σ) :
    ∃ told, ((setUp (notingConnection c) limit).on s).2.requests = s.requests ++ told ∧
      OnlyCommands told := by
  have hnone : ∃ told, s.requests = s.requests ++ told ∧ OnlyCommands told :=
    ⟨[], by simp, by simp [OnlyCommands]⟩
  rcases c with ⟨dialect, execute, commit, rollback⟩
  simp only [setUp, notingConnection]
  cases effective? limit with
  | none => exact hnone
  | some l =>
    cases dialect with
    | postgresql =>
      rw [Action.on_bind, Action.on_lift]
      cases l.milliseconds with
      | error f => exact hnone
      | ok ms => exact ⟨[.execute (limitCommand ms)], rfl, by simp [OnlyCommands]⟩
    | sqlite => exact hnone
    | other => exact hnone

section

variable {c : Connection σ} {limit : Option TimeLimit} {elapsed late : Binary64}
  {body : Action σ α} {s t : σ}

theorem on_attempt_of_overrun {v : σ} {z : Unit} {x : α} {f : Failure}
    (hset : (setUp c limit).on s = (.ok z, v)) (hbody : body.on v = (.ok x, t))
    (hover : overrun? limit elapsed = some f) :
    (attempt c limit elapsed body).on s = (.error f, t) := by
  rw [attempt, Action.on_bind_of_ok _ hset, Action.on_bind_of_ok _ hbody, hover]
  rfl

theorem on_attempt_in_time {v : σ} {z : Unit} {x : α} (hset : (setUp c limit).on s = (.ok z, v))
    (hbody : body.on v = (.ok x, t)) (hover : overrun? limit elapsed = none) :
    (attempt c limit elapsed body).on s = (c.commit >>= fun _ => pure x).on t := by
  rw [attempt, Action.on_bind_of_ok _ hset, Action.on_bind_of_ok _ hbody, hover]

theorem on_run_of_ok {x : α} (h : (attempt c limit elapsed body).on s = (.ok x, t)) :
    (run c limit elapsed body late).on s = (.ok x, t) := by
  rw [run, Action.on_of, h]

theorem on_run_of_error {f : Failure} (h : (attempt c limit elapsed body).on s = (.error f, t)) :
    (run c limit elapsed body late).on s = (.error (reported limit late f), c.rollback t) := by
  rw [run, Action.on_of, h]

end

end UnitOfWork

namespace Session

open UnitOfWork

/-- The ways in which a unit of work on a session ends, with the requests that it has made. -/
inductive Course (limit : Option TimeLimit) (elapsed : Binary64) (body : Action Session α)
    (late : Binary64) (s : Session) : Except Failure α → Session → List Request → Prop
  | notSetUp {f : Failure} {told : List Request} (htold : OnlyCommands told)
    (hset : ((setUp s.connection limit).on s).1 = .error f) :
    Course limit elapsed body late s (.error (reported limit late f)) s.rollback
      (told ++ [.rollback])
  | failed {f : Failure} {u : Session} {told : List Request} (htold : OnlyCommands told)
    (hset : s.AdmitsLimit limit) (hbody : body.on s = (.error f, u)) :
    Course limit elapsed body late s (.error (reported limit late f)) u.rollback
      (told ++ [.rollback])
  | overran {x : α} {f : Failure} {u : Session} {told : List Request} (htold : OnlyCommands told)
    (hset : s.AdmitsLimit limit) (hbody : body.on s = (.ok x, u))
    (hover : overrun? limit elapsed = some f) :
    Course limit elapsed body late s (.error (reported limit late f)) u.rollback
      (told ++ [.rollback])
  | notCommitted {x : α} {f : Failure} {u : Session} {told : List Request}
    (htold : OnlyCommands told) (hset : s.AdmitsLimit limit) (hbody : body.on s = (.ok x, u))
    (hover : overrun? limit elapsed = none) (hcommit : (commit.on u).1 = .error f) :
    Course limit elapsed body late s (.error (reported limit late f)) u.rollback
      (told ++ [.commit] ++ [.rollback])
  | committed {x : α} {u : Session} {told : List Request} (htold : OnlyCommands told)
    (hset : s.AdmitsLimit limit) (hbody : body.on s = (.ok x, u))
    (hover : overrun? limit elapsed = none) (hcommit : (commit.on u).1 = .ok ()) :
    Course limit elapsed body late s (.ok x) { u with committed := u.working }
      (told ++ [.commit])

/-- Every unit of work takes one of these courses. -/
theorem course_of_run (limit : Option TimeLimit) (elapsed : Binary64) (body : Action Session α)
    (late : Binary64) (s : Session) :
    let ended := (UnitOfWork.run (notingConnection s.connection) limit elapsed (quietly body)
      late).on { state := s }
    Course limit elapsed body late s ended.1 ended.2.state ended.2.requests := by
  obtain ⟨told, hrequests, htold⟩ := requests_setUp s.connection limit { state := s }
  have hmirror := mirrors_setUp s.connection limit { state := s }
  have hstate := on_setUp_snd limit s
  rw [← hmirror] at hstate
  rcases hset : (setUp (notingConnection s.connection) limit).on { state := s } with
    ⟨f | x, v, rs⟩
  all_goals
    rw [hset] at hrequests hmirror hstate
    obtain rfl : v = s := hstate
    obtain rfl : rs = told := hrequests
  · rw [on_run_of_error (Action.on_bind_of_error _ hset)]
    exact .notSetUp htold (by rw [← hmirror])
  have hadmits : v.AdmitsLimit limit := by rw [AdmitsLimit, ← hmirror]
  rcases hbody : body.on v with ⟨f | y, u⟩
  all_goals
    have hquiet : (quietly body).on { state := v, requests := rs } =
        ((body.on v).1, { state := (body.on v).2, requests := rs }) := rfl
    rw [hbody] at hquiet
  · rw [on_run_of_error ((Action.on_bind_of_ok _ hset).trans (Action.on_bind_of_error _ hquiet))]
    exact .failed htold hadmits hbody
  cases hover : overrun? limit elapsed with
  | some f =>
    rw [on_run_of_error (on_attempt_of_overrun hset hquiet hover)]
    exact .overran htold hadmits hbody hover
  | none =>
    have hattempt := on_attempt_in_time hset hquiet hover
    rcases hcommit : commit.on u with ⟨f | z, w⟩
    all_goals
      have hnoting : (noting .commit commit).on { state := u, requests := rs } =
          ((commit.on u).1, { state := (commit.on u).2, requests := rs ++ [.commit] }) := rfl
      rw [hcommit] at hnoting
    · obtain rfl := on_commit_eq_error hcommit
      rw [on_run_of_error (hattempt.trans (Action.on_bind_of_error _ hnoting))]
      exact .notCommitted htold hadmits hbody hover (by rw [hcommit])
    · obtain ⟨-, -, rfl⟩ := on_commit_eq_ok.1 hcommit
      rw [on_run_of_ok (hattempt.trans (Action.on_bind_of_ok _ hnoting))]
      exact .committed htold hadmits hbody hover (by rw [hcommit])

/-- The body of a unit of work is run, and ends well. -/
def BodyEnds (limit : Option TimeLimit) (body : Action Session α) (s : Session) : Prop :=
  s.AdmitsLimit limit ∧ ∃ x u, body.on s = (.ok x, u)

/-- A failure that ends a unit of work: of the command, of the body, or of the commit in time. -/
inductive Raised (limit : Option TimeLimit) (elapsed : Rat) (body : Action Session α)
    (s : Session) : Failure → Prop
  | setUp {f : Failure} (h : ((setUp s.connection limit).on s).1 = .error f) :
    Raised limit elapsed body s f
  | body {f : Failure} {u : Session} (hset : s.AdmitsLimit limit) (h : body.on s = (.error f, u)) :
    Raised limit elapsed body s f
  | commit {x : α} {f : Failure} {u : Session} (hset : s.AdmitsLimit limit)
    (hbody : body.on s = (.ok x, u)) (hin : ¬Passed limit elapsed)
    (h : (commit.on u).1 = .error f) : Raised limit elapsed body s f

/--
What is left of a body that was undone: nothing that it wrote. Only a rival may have committed
something in the meantime; if none has, the tables are as they were.
-/
structure Undone (body : Action Session α) (s t : Session) : Prop where
  upholds : Upholds s t
  committed : (body.on s).2.committed = s.committed → t.committed = s.committed
  working : t.working = t.committed

section

variable {limit : Option TimeLimit} {elapsed late : Binary64} {e : Rat} {body : Action Session α}
  {s t : Session} {r : Except Failure α} {rs : List Request}

/-- A failure that ends a unit of work is what is reported. -/
theorem Course.of_raised (hin : ¬Passed limit e → overrun? limit elapsed = none)
    (h : Course limit elapsed body late s r t rs) {f : Failure}
    (hf : Raised limit e body s f) : r = .error (reported limit late f) := by
  -- Each stage is reached through the ones before it, so two failures are of the same stage.
  cases hf with
  | setUp hf => cases h <;> simp_all [AdmitsLimit]
  | body hset hf => cases h <;> simp_all [AdmitsLimit]
  | commit hset hbody hpassed hf =>
    have hover := hin hpassed
    cases h <;> simp_all [AdmitsLimit]

/-- There is one rollback, unless the commit goes through. -/
theorem Course.count_rollback (h : Course limit elapsed body late s r t rs) :
    rs.count .rollback = if r.toBool then 0 else 1 := by
  cases h with
  | notSetUp htold => simp [htold.count, Except.toBool]
  | failed htold => simp [htold.count, Except.toBool]
  | overran htold => simp [htold.count, Except.toBool]
  | notCommitted htold => simp [htold.count, Except.toBool]
  | committed htold => simp [htold.count, Except.toBool]

/-- A commit is tried if the body ends well and in time. -/
theorem Course.count_commit (hin : overrun? limit elapsed = none ↔ ¬Passed limit e)
    (h : Course limit elapsed body late s r t rs) :
    (rs.count .commit = 1 ∧ s.BodyEnds limit body ∧ ¬Passed limit e) ∨
      (rs.count .commit = 0 ∧ ¬(s.BodyEnds limit body ∧ ¬Passed limit e)) := by
  cases h with
  | notSetUp htold hset =>
    refine .inr ⟨by simp [htold.count], fun hends => ?_⟩
    obtain ⟨⟨hadmits, -⟩, -⟩ := hends
    rw [AdmitsLimit, hset] at hadmits
    cases hadmits
  | failed htold hset hbody =>
    refine .inr ⟨by simp [htold.count], fun hends => ?_⟩
    obtain ⟨⟨-, x, u, hx⟩, -⟩ := hends
    simp [hbody] at hx
  | overran htold hset hbody hover =>
    refine .inr ⟨by simp [htold.count], fun hends => ?_⟩
    simp [hin.2 hends.2] at hover
  | notCommitted htold hset hbody hover hcommit =>
    exact .inl ⟨by simp [htold.count], ⟨hset, _, _, hbody⟩, hin.1 hover⟩
  | committed htold hset hbody hover hcommit =>
    exact .inl ⟨by simp [htold.count], ⟨hset, _, _, hbody⟩, hin.1 hover⟩

/-- A body that is over too late is reported. -/
theorem Course.tooLate (he : elapsed.toRat? = some e) (h : Course limit elapsed body late s r t rs)
    (hends : s.BodyEnds limit body) (hpassed : Passed limit e) :
    ∃ f, r = .error f ∧ IsReport limit f := by
  obtain ⟨hset, x, u, hbody⟩ := hends
  obtain ⟨f, hover, hreport⟩ := overrun?_of_passed he hpassed
  refine ⟨f, ?_, hreport⟩
  have hreported : reported limit late f = f :=
    reported_of_not_database hreport.isDatabase_eq_false
  rw [← hreported]
  cases h <;> simp_all [AdmitsLimit]

/-- What is committed in the end has been written by the body; a failure leaves nothing behind. -/
theorem Course.tables (hbody : Upholds s (body.on s).2)
    (h : Course limit elapsed body late s r t rs) :
    (∃ x u, r = .ok x ∧ body.on s = (.ok x, u) ∧ t.committed = u.working) ∨
      (∃ f, r = .error f) ∧ Undone body s t := by
  have hback {y : Except Failure α} {u : Session} (hu : body.on s = (y, u)) :
      Undone body s u.rollback := by
    rw [hu] at hbody
    exact ⟨hbody.rollback, by rw [hu]; exact id, rfl⟩
  cases h with
  | notSetUp htold hset => exact .inr ⟨⟨_, rfl⟩, .same rfl, fun _ => rfl, rfl⟩
  | failed htold hset hu => exact .inr ⟨⟨_, rfl⟩, hback hu⟩
  | overran htold hset hu => exact .inr ⟨⟨_, rfl⟩, hback hu⟩
  | notCommitted htold hset hu => exact .inr ⟨⟨_, rfl⟩, hback hu⟩
  | committed htold hset hu => exact .inl ⟨_, _, rfl, hu, rfl⟩

/-- A course that fails does so at one of its stages, or because it is over too late. -/
theorem Course.cause (hin : overrun? limit elapsed = none ↔ ¬Passed limit e)
    (h : Course limit elapsed body late s r t rs) {f : Failure} (hf : r = .error f) :
    (∃ g, s.Raised limit e body g) ∨ s.BodyEnds limit body ∧ Passed limit e := by
  cases h with
  | notSetUp htold hset => exact .inl ⟨_, .setUp hset⟩
  | failed htold hset hbody => exact .inl ⟨_, .body hset hbody⟩
  | overran htold hset hbody hover =>
    refine .inr ⟨⟨hset, _, _, hbody⟩, ?_⟩
    by_contra hnot
    simp [hin.2 hnot] at hover
  | notCommitted htold hset hbody hover hcommit =>
    exact .inl ⟨_, .commit hset hbody (hin.1 hover) hcommit⟩
  | committed htold hset hbody hover hcommit => cases hf

end

/--
How a unit of work on a session has ended, with an outcome `r` in a session `t`, when `e` seconds
had elapsed at the end of its body and `e'` seconds when a failure was reported.
-/
structure Settles (limit : Option TimeLimit) (e e' : Rat) (body : Action Session α) (s : Session)
    (r : Except Failure α) (t : Session) (requests : List Request) : Prop where
  /-- What the body has written is committed if the unit of work succeeds. -/
  durable : ∀ x, r = .ok x → ∃ u, body.on s = (.ok x, u) ∧ t.committed = u.working
  /-- Nothing of it is if it fails. -/
  undone : ∀ f, r = .error f → Undone body s t
  /-- A commit is tried once if the body ends well and in time, and never otherwise. -/
  commits : requests.count .commit = 1 ↔ s.BodyEnds limit body ∧ ¬Passed limit e
  commits_once : requests.count .commit ≤ 1
  /-- A failure is rolled back, once; a success never. -/
  rollbacks : requests.count .rollback = if r.toBool then 0 else 1
  /-- The failures that end it are those of its stages, and a limit that has passed. -/
  causes : (∃ f, r = .error f) ↔
    (∃ f, s.Raised limit e body f) ∨ s.BodyEnds limit body ∧ Passed limit e
  /-- What does not come from the database reaches the caller unchanged. -/
  unchanged : ∀ f, s.Raised limit e body f → f.isDatabase = false → r = .error f
  /-- A body that is over too late is reported as such. -/
  tooLate : s.BodyEnds limit body → Passed limit e → ∃ f, r = .error f ∧ IsReport limit f
  /-- So is a failure of the database, if a statement was cancelled or the limit has passed. -/
  blamed : ∀ f, s.Raised limit e body f → f.isDatabase = true → IsSet limit →
    isCancelled f = true ∨ Passed limit e' → ∃ g, r = .error g ∧ IsReport limit g
  /-- Otherwise it is told without details. -/
  hidden : ∀ f, s.Raised limit e body f → f.isDatabase = true →
    ¬(IsSet limit ∧ (isCancelled f = true ∨ Passed limit e')) →
      r = .error (.refusal .storageFailure)

/--
Every unit of work settles, if its limit is a number or none and its body commits nothing by itself:
whatever else the body does, however much time it takes and whatever fails.
-/
theorem unit_of_work_settles (s : Session) (body : Action Session α) {limit : Option TimeLimit}
    {elapsed late : Binary64} {e e' : Rat} (hlimit : Numeric limit)
    (he : elapsed.toRat? = some e) (hlate : late.toRat? = some e')
    (hbody : Upholds s (body.on s).2) :
    let ended := (UnitOfWork.run s.connection limit elapsed body late).on s
    let noted := (UnitOfWork.run (notingConnection s.connection) limit elapsed (quietly body)
      late).on { state := s }
    Settles limit e e' body s ended.1 ended.2 noted.2.requests := by
  intro ended noted
  have hcourse : Course limit elapsed body late s ended.1 ended.2 noted.2.requests := by
    have hmirror : (noted.1, noted.2.state) = ended := mirrors_run _ _ _ _ _ { state := s }
    rw [← hmirror]
    exact course_of_run limit elapsed body late s
  generalize ended.1 = r at hcourse ⊢
  generalize ended.2 = t at hcourse ⊢
  generalize noted.2.requests = rs at hcourse ⊢
  have hin := overrun?_eq_none hlimit he
  have hraised {f : Failure} (hf : s.Raised limit e body f) := hcourse.of_raised hin.2 hf
  have hcommit := hcourse.count_commit hin
  have htables := hcourse.tables hbody
  constructor
  case durable =>
    rintro x rfl
    rcases htables with ⟨x, u, ⟨⟩, hu, ht⟩ | ⟨⟨f, ⟨⟩⟩, -⟩
    exact ⟨u, hu, ht⟩
  case undone =>
    rintro f rfl
    rcases htables with ⟨x, u, ⟨⟩, -⟩ | ⟨-, ht⟩
    exact ht
  case commits =>
    rcases hcommit with ⟨hone, hends⟩ | ⟨hzero, hends⟩
    · exact iff_of_true hone hends
    · exact iff_of_false (by omega) hends
  case commits_once => omega
  case rollbacks => exact hcourse.count_rollback
  case causes =>
    refine ⟨fun ⟨f, hf⟩ => hcourse.cause hin hf, ?_⟩
    rintro (⟨f, hf⟩ | ⟨hends, hpassed⟩)
    · exact ⟨_, hraised hf⟩
    · obtain ⟨f, hf, -⟩ := hcourse.tooLate he hends hpassed
      exact ⟨f, hf⟩
  case unchanged =>
    intro f hf hdatabase
    rw [hraised hf, reported_of_not_database hdatabase]
  case tooLate => exact hcourse.tooLate he
  case blamed =>
    intro f hf hdatabase hset hover
    exact ⟨_, hraised hf, reported_of_overrun hlate hdatabase hset hover⟩
  case hidden =>
    intro f hf hdatabase hover
    rw [hraised hf, reported_of_no_overrun hlimit hlate hdatabase hover]

/-- A session with a purse, whose server cancels the commit. -/
def cancelledSession : Session :=
  { Session.ofTables
      { wallets :=
          [{ id := "purse", userId := 1, currency := "NGN", balance := 1000
             createdAt := ⟨⟨2024, 1, 15⟩, 12, 0, 0⟩, updatedAt := ⟨⟨2024, 1, 15⟩, 12, 0, 0⟩ }] }
      ⟨⟨2024, 1, 15⟩, 12, 0, 0⟩ with
    faults := fun st => if st = .commit then some (.database { pgcode := some "57014" }) else none }

/-- A body that takes three hundred from the purse. -/
def spending : Action Session Unit :=
  write (.setBalance .debit) fun t => .ok (t.setBalance "purse" 700 ⟨⟨2024, 1, 15⟩, 12, 0, 0⟩)

theorem cancelled_commit_settles :
    let limit := some (TimeLimit.whole 10)
    let ended := (UnitOfWork.run cancelledSession.connection limit (.finite false 0 0) spending).on
      cancelledSession
    let noted := (UnitOfWork.run (notingConnection cancelledSession.connection) limit
      (.finite false 0 0) (quietly spending)).on { state := cancelledSession }
    ended.1 = .error (.ledger (.saying .deadlineExceeded "Operation exceeded its 10s deadline")) ∧
      noted.2.requests = [.commit, .rollback] ∧
      Settles limit 0 0 spending cancelledSession ended.1 ended.2 noted.2.requests := by
  intro limit ended noted
  refine ⟨Action.failure?_eq_some.1 (by decide +kernel), by decide +kernel, ?_⟩
  refine unit_of_work_settles cancelledSession spending ?_ (by decide +kernel)
    (by decide +kernel) ?_
  · intro l hl
    obtain rfl : TimeLimit.whole 10 = l := Option.some.inj hl
    exact ⟨10, rfl⟩
  · have hedited : Edited cancelledSession (spending.on cancelledSession).2 := within_write _ _ _
    exact hedited.sameUnit.upholds

/-- An integer beyond all doubles. -/
def beyondDoubles : Option TimeLimit := some (.whole (-tenTo 400))

/-- It has passed when the body is over, but that cannot be said. -/
theorem limit_beyond_doubles_is_not_reported :
    let s := Session.ofTables {} ⟨⟨2024, 1, 15⟩, 12, 0, 0⟩
    let ended := (UnitOfWork.run s.connection beyondDoubles (.finite false 0 0)
      (pure () : Action Session Unit)).on s
    Numeric beyondDoubles ∧ s.BodyEnds beyondDoubles (pure () : Action Session Unit) ∧
      Passed beyondDoubles 0 ∧ ended.1 = .error .integerOverflow ∧
      ∀ m, ended.1 ≠ .error (.ledger (.saying .deadlineExceeded m)) := by
  intro s ended
  have hended : ended.1 = .error .integerOverflow :=
    Action.failure?_eq_some.1 (by decide +kernel)
  have hadmits : s.AdmitsLimit beyondDoubles := admitsLimit_iff.2 fun _ _ hd => by cases hd
  refine ⟨?_, ⟨hadmits, (), s, rfl⟩, ⟨_, _, rfl, rfl, ?_, ?_⟩, hended, fun m => ?_⟩
  · rintro l ⟨⟩
    exact ⟨_, rfl⟩
  · decide +kernel
  · decide +kernel
  · rw [hended]
    simp

end Session

end CurrencyLedger
