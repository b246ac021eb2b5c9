import CurrencyLedger.Failure
import CurrencyLedger.Store.Column
import CurrencyLedger.Store.Row

/-!
Events.

An operation that has moved money announces it as an `Event`. Whoever listens may write it down as
an activity; a `Draft` is an activity on its way to the table, where a column may still be missing
or be given a value that it cannot keep.
-/

namespace CurrencyLedger

/-- What an event says of a user's money. -/
inductive Event.Kind where
  | credit
  | update
  deriving DecidableEq, Repr

/-- The written kind. -/
def Event.Kind.text : Event.Kind → String
  | .credit => "Credit"
  | .update => "Update"

/-- Money of a user has moved. -/
structure Event where
  userId : Int
  text : String
  kind : Event.Kind
  requestMeta : Value
  date : Moment
  deriving Repr

namespace Activity

/-- The resource of an activity that names none. -/
def standingResource : String := "Wallet"

/-- The entity of an activity that names none. -/
def standingEntity : String := "user"

/-- A text of an activity is cut to this many characters. -/
def maxTextLength : Nat := 512

/-- An activity on its way to the table. -/
structure Draft where
  userId : Value
  text : Value
  event : Value
  resource : Value := .text standingResource
  entity : Value := .text standingEntity
  requestMeta : Value := .null
  date : Moment
  deriving Repr

/-- The text of a column that has a standing one. -/
def textOr (standing : String) : Value → Option String
  | .null => some standing
  | v => Column.text? v

/-- The text of an activity, cut; only a text can be. -/
def cutText? : Value → Option String
  | .text s => some (String.ofList (s.toList.take maxTextLength))
  | _ => none

/-- The row of a draft, if every required column has a value that it keeps. -/
def Draft.row? (d : Draft) : Option (Nat → Activity) := do
  guard (Column.keeps d.userId)
  let userId := Column.integer? d.userId
  let text ← cutText? d.text
  let event ← Column.text? d.event
  let resource ← textOr standingResource d.resource
  let entity ← textOr standingEntity d.entity
  return fun id =>
    { id, userId, entity, resource, event, text, requestMeta := d.requestMeta, date := d.date }

end Activity

/-- Someone who is told of events, and may fail to take one in. -/
abbrev Listener := Event → Except Failure Unit

/-- An event that a listener was told of, and whether it took it in. -/
structure Announcement where
  event : Event
  taken : Bool
  deriving Repr

/-- The draft of an event. -/
def Event.draft (e : Event) : Activity.Draft where
  userId := .int e.userId
  text := .text e.text
  event := .text e.kind.text
  requestMeta := e.requestMeta
  date := e.date

end CurrencyLedger
