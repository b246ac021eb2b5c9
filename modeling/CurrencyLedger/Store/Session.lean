import CurrencyLedger.Action
import CurrencyLedger.Store.Event
import CurrencyLedger.Store.Names
import CurrencyLedger.Store.Tables
import CurrencyLedger.UnitOfWork

/-!
Sessions on the store.

A session sees the `working` tables and keeps the `committed` ones beside them: a commit makes the
first the second, a rollback the second the first. A write that fails aborts the transaction, and an
aborted one refuses every statement until it is rolled back; inside a savepoint only what was done
since then is undone. Names drawn are not given back by any of this.

What else an operation meets is part of the session: the clock, the time that a unit of work will
have taken, statements that are bound to fail, and a rival that is about to create a wallet, in the
same transaction or in one of its own.
-/

namespace CurrencyLedger

/-- The statements that operations make. -/
inductive Statement where
  | limitTime
  | findWallet
  | resolveWallet
  | openSavepoint
  | createWallet
  | releaseSavepoint
  | resolveAgain
  | loadWallet (flow : Transaction.Flow)
  | setBalance (flow : Transaction.Flow)
  | insertTransaction (flow : Transaction.Flow)
  | listRows
  | commit
  deriving DecidableEq, Repr

/-- Another writer about to create a wallet. -/
structure Rival where
  userId : Int
  currency : String
  balance : Nat
  /--
  Whether it writes in a transaction of its own, which it has committed by the time it has come;
  otherwise it shares the transaction of the session, and what it wrote is undone with that.
  -/
  independent : Bool := false
  deriving DecidableEq, Repr

/-- A session on the store. -/
structure Session where
  committed : Tables := {}
  working : Tables := {}
  aborted : Bool := false
  names : Names := {}
  clock : Moment
  /-- Seconds that every unit of work will have taken when it comes to its end. -/
  elapsed : Binary64 := .finite false 0 0
  dialect : Dialect := .sqlite
  /-- The statements that fail, and how. -/
  faults : Statement → Option Failure := fun _ => none
  rival : Option Rival := none
  /-- The rivals that have come so far. -/
  rivals : Nat := 0
  /-- The events that a listener was told of, in order. -/
  announcements : List Announcement := []

namespace Session

/-- A session on tables that have been committed. -/
def ofTables (t : Tables) (clock : Moment) : Session := { committed := t, working := t, clock }

/-- Reads the working tables by a statement that binds some integers. -/
def query (statement : Statement) (bound : List Int) (f : Tables → α) : Action Session α :=
  .of fun s =>
    match s.faults statement with
    | some f => (.error f, s)
    | none =>
      if s.aborted then (.error (.database {}), s)
      else if !bound.all Column.fits then (.error .integerOverflow, s)
      else (.ok (f s.working), s)

/-- Changes the working tables; a change that fails aborts the transaction. -/
def write (statement : Statement) (change : Tables → Except Failure Tables) : Action Session Unit :=
  .of fun s =>
    if s.aborted then (.error (.database {}), s)
    else match s.faults statement with
      | some f => (.error f, { s with aborted := true })
      | none => match change s.working with
        | .ok t => (.ok (), { s with working := t })
        | .error f => (.error f, { s with aborted := true })

/-- A statement that reads nothing and changes no table. -/
def run (statement : Statement) : Action Session Unit := query statement [] fun _ => ()

/-- An action between the opening of a savepoint and its release. -/
def bracketed (a : Action Session α) : Action Session α := do
  run .openSavepoint
  let x ← a
  run .releaseSavepoint
  return x

/-- Runs an action in a savepoint: if it fails, the tables are as they were before it. -/
def nested (a : Action Session α) : Action Session α := .of fun s =>
  match (bracketed a).on s with
  | (.ok x, t) => (.ok x, t)
  | (.error f, t) => (.error f, { t with working := s.working, aborted := s.aborted })

/-- Makes the working tables the committed ones. -/
def commit : Action Session Unit := .of fun s =>
  match s.faults .commit with
  | some f => (.error f, s)
  | none =>
    if s.aborted then (.error (.database {}), s)
    else (.ok (), { s with committed := s.working })

/-- Makes the committed tables the working ones. -/
def rollback (s : Session) : Session := { s with working := s.committed, aborted := false }

/-- A command to the server that changes no table. -/
def execute (_ : String) : Action Session Unit := run .limitTime

/-- Draws a name. -/
def draw (f : Names → String × Names) : Action Session String := .of fun s =>
  let (name, names) := f s.names
  (.ok name, { s with names })

/-- The session as a connection for a unit of work. -/
def connection (s : Session) : Connection Session where
  dialect := s.dialect
  execute := execute
  commit := commit
  rollback := rollback

/-- Runs a body as a unit of work on the session. -/
def unitOfWork (limit : Option TimeLimit) (body : Action Session α) : Action Session α :=
  .of fun s => (UnitOfWork.run s.connection limit s.elapsed body).on s

/-- A rival's wallet. -/
def rivalWallet (s : Session) (r : Rival) : Wallet where
  id := "rival" ++ Text.natText (s.rivals + 1)
  userId := r.userId
  currency := r.currency
  balance := r.balance
  createdAt := s.clock
  updatedAt := s.clock

/-- The committed tables once a rival has come: with its wallet, if it has committed one. -/
def committedWith (s : Session) (r : Rival) : Tables :=
  if r.independent && (s.working.insertWallet? (s.rivalWallet r)).isSome then
    (s.committed.insertWallet? (s.rivalWallet r)).getD s.committed
  else s.committed

/--
Lets a rival come, if one is about to: it creates its wallet unless there is one, and the session
sees it. The wallet of an independent rival outlasts whatever becomes of the session's own
transaction.
-/
def admitRival : Action Session Unit := .update fun s =>
  match s.rival with
  | none => s
  | some r =>
    { s with
      rival := none
      rivals := s.rivals + 1
      working := (s.working.insertWallet? (s.rivalWallet r)).getD s.working
      committed := s.committedWith r }

/-- Tells a listener of an event, if there is one; that it fails is no failure here. -/
def announce (listener : Option Listener) (e : Event) : Action Session Unit := .update fun s =>
  match listener with
  | none => s
  | some listen =>
    { s with announcements := s.announcements ++ [⟨e, (listen e).toBool⟩] }

/-- Writes an activity down, in a transaction of its own; one that has no row is dropped. -/
def recordActivity (d : Activity.Draft) (s : Session) : Session :=
  match d.row? with
  | none => s
  | some row =>
    { s with
      committed := s.committed.insertActivity row
      working := s.working.insertActivity row }

/-- Writes the activity of an event down. -/
def recordEvent (e : Event) (s : Session) : Session := s.recordActivity e.draft

end Session

end CurrencyLedger
