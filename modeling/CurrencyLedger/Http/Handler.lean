import CurrencyLedger.Http.Document
import CurrencyLedger.Http.Message
import CurrencyLedger.Http.RateLimit
import CurrencyLedger.Rate.Provider
import CurrencyLedger.Store.Session

/-!
Handlers of requests.

A handler is a sequence of steps on the running service. Each step may answer early, and what it has
changed by then stays changed.
-/

namespace CurrencyLedger.Http

open CurrencyLedger.Validation

/-- How the service is configured. -/
structure Configuration where
  /-- The name that the service gives itself. -/
  appName : Value
  /-- The origins whose pages may send requests. -/
  origins : List String := []
  /-- The limits on requests that move money; none means that requests are not counted. -/
  limits : Option String := none
  ledgerLimit : Option TimeLimit := some (.whole 10)
  rates : Rate.Settings

/--
The running service: its session on the store, the requests it has counted, and the table of rates
that it has kept.
-/
structure Service where
  session : Session
  hits : Hits := []
  rates : Cache Rat Rate.Table := {}

/-- A step of answering, which may answer early. -/
abbrev Handler (α : Type) := ExceptT Answer (StateM Service) α

namespace Handler

/-- What a handler answers on a service, early or not, and the service after it. -/
def on (h : Handler α) (s : Service) : Except Answer α × Service := h.run s

/-- Answers early. -/
def stop (a : Answer) : Handler α := ExceptT.mk fun s => (.error a, s)

/-- An action on the session; its failure is the answer. -/
def act (a : Action Session α) : Handler α := ExceptT.mk fun s =>
  match a.on s.session with
  | (.ok x, t) => (.ok x, { s with session := t })
  | (.error f, t) => (.error (.ofFailure f), { s with session := t })

/-- A check whose issues are the answer. -/
def validate (c : Checked α) : Handler α :=
  match c with
  | .ok a => pure a
  | .error is => stop (.unprocessable is)

/-- Writes down what was announced. -/
def recordAnnounced : Handler Unit := ExceptT.mk fun s =>
  let events := (s.session.announcements.filter (·.taken)).map (·.event)
  let session := events.foldl (fun t e => t.recordEvent e) { s.session with announcements := [] }
  (.ok (), { s with session })

@[simp] theorem on_pure (a : α) (s : Service) : (pure a : Handler α).on s = (.ok a, s) := rfl

@[simp] theorem on_stop (a : Answer) (s : Service) :
    (stop a : Handler α).on s = (.error a, s) := rfl

@[simp] theorem on_validate (c : Checked α) (s : Service) :
    (validate c).on s = (c.mapError Answer.unprocessable, s) := by
  cases c <;> rfl

/-- A sequence goes on with what its first part left, if that part did not answer early. -/
theorem on_bind (h : Handler α) (f : α → Handler β) (s : Service) :
    (h >>= f).on s = match h.on s with
      | (.ok x, t) => (f x).on t
      | (.error a, t) => (.error a, t) := by
  show (ExceptT.bind h f).run s = _
  simp only [ExceptT.bind, ExceptT.run, ExceptT.mk, bind, StateT.bind, on]
  rcases e : (h s : Except Answer α × Service) with ⟨r, t⟩
  cases r <;> rfl

end Handler

end CurrencyLedger.Http
