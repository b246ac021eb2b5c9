import CurrencyLedger.Action
import CurrencyLedger.Binary64.Arithmetic
import CurrencyLedger.Text.Uppercase
import CurrencyLedger.Value.Integer

/-!
Units of work.

A unit of work runs a body on a connection and commits when the body ends, or rolls back when
anything fails. It may have a time limit: then a server that supports it is told to cancel slow
statements, nothing is committed once the limit has passed, and a database error counts as a passed
limit if the driver says that a statement was cancelled or the limit has passed by then. Other
database errors become one refusal without details; every other failure reaches the caller
unchanged.

A `Failure` is an error that a program is expected to handle. What tells the process to stop, such
as an interrupt from the keyboard or an exit, is none: it would pass a unit of work without rolling
back, and is left out here.
-/

namespace CurrencyLedger

/-- A limit in seconds, of whatever kind it was given. -/
inductive TimeLimit where
  | whole (n : Int)
  | real (x : Binary64)
  | exact (d : Decimal)
  | text (s : String)
  /-- Neither a number nor a text. -/
  | other
  deriving DecidableEq, Repr

namespace TimeLimit

/-- The limit that a value gives; null, and what is empty but no text, give none. -/
def ofValue? : Value → Option TimeLimit
  | .null => none
  | .bool b => some (.whole (if b then 1 else 0))
  | .int n => some (.whole n)
  | .float x => some (.real x)
  | .decimal d => some (.exact d)
  | .text s => some (.text s)
  | v => if v.given then some .other else none

/-- Whether the limit is in force; zero is none, and so is an empty text. -/
def inForce : TimeLimit → Bool
  | .whole n => n != 0
  | .real x => !x.isZero
  | .exact d => !d.isZero
  | .text s => s != ""
  | .other => true

/-- Whether a number of seconds is past a rational number of them. -/
def isPast (elapsed : Binary64) (r : Rat) : Bool :=
  match elapsed with
  | .infinite negative => !negative
  | x => x.toRat?.any (r < ·)

/-- Whether a number of seconds is past the limit; only numbers can be compared. -/
def isPassed (elapsed : Binary64) : TimeLimit → Except Failure Bool
  | .whole n => .ok (isPast elapsed n)
  | .real x => .ok (x.isLess elapsed)
  | .exact d => match d, elapsed with
    | .nan .., _ => .error (.arithmetic .invalidOperation)
    | _, .nan => .error (.arithmetic .invalidOperation)
    | .infinite s, .infinite t => .ok (s && !t)
    | .infinite s, _ => .ok s
    | d, x => .ok (d.toRat?.any (isPast x))
  | _ => .error .badKind

/-- How often a text stands for itself when a thousand of it are taken. -/
def repeated (s : String) : String := String.join (List.replicate 1000 s)

/-- A thousand, as a decimal. -/
def thousand : Decimal := .ofInt 1000

/-- The limit in whole milliseconds, the rest cut off. -/
def wholeMilliseconds : TimeLimit → Except Failure Int
  | .whole n => .ok (n * 1000)
  | .real x => (Value.float (x.mulNat 1000)).toInteger
  | .exact d => do (Value.decimal (← ofSignal (d.mul thousand))).toInteger
  | .text s => (Value.text (repeated s)).toInteger
  | .other => .error .badKind

/-- The refusal to write an integer of too many digits. -/
def tooLongToWrite : Failure :=
  .badValue ("Exceeds the limit (" ++ Text.natText Text.maxIntegerDigits ++ " digits) for integer"
    ++ " string conversion; use sys.set_int_max_str_digits() to increase the limit")

/-- Those milliseconds, if a command can be written with them. -/
def milliseconds (limit : TimeLimit) : Except Failure Int := do
  let n ← limit.wholeMilliseconds
  if n.natAbs < tenTo Text.maxIntegerDigits then .ok n else .error tooLongToWrite

/-- The written double nearest to an integer. -/
def wholeText (n : Int) : Except Failure String :=
  match Binary64.ofInt? n with
  | some x => .ok x.generalText
  | none => .error .integerOverflow

/-- The written decimal, with a small letter before its exponent. -/
def exactText (d : Decimal) : String :=
  match d with
  | .finite .. => Text.asciiLower d.text
  | d => d.text

/-- The written limit; only numbers have a written form. -/
def written : TimeLimit → Except Failure String
  | .whole n => wholeText n
  | .real x => .ok x.generalText
  | .exact d => .ok (exactText d)
  | .text _ => .error (.badValue "Unknown format code 'g' for object of type 'str'")
  | .other => .error .badKind

/-- The failure of a unit of work that passed the limit. -/
def failure (limit : TimeLimit) : Failure :=
  match limit.written with
  | .ok s => .ledger (.saying .deadlineExceeded ("Operation exceeded its " ++ s ++ "s deadline"))
  | .error f => f

end TimeLimit

/-- The kinds of database server. -/
inductive Dialect where
  | sqlite
  | postgresql
  | other
  deriving DecidableEq, Repr

/-- What a unit of work needs of a database connection. -/
structure Connection (σ : Type) where
  dialect : Dialect
  execute : String → Action σ Unit
  commit : Action σ Unit
  rollback : σ → σ

namespace UnitOfWork

/-- The code with which a driver says that a statement was cancelled. -/
def cancelledCode : String := "57014"

/-- Whether a failure says that a statement was cancelled. -/
def isCancelled : Failure → Bool
  | .database codes => codes.code == some cancelledCode
  | _ => false

/-- A limit that is in force. -/
def effective? (limit : Option TimeLimit) : Option TimeLimit := limit.filter (·.inForce)

/-- The failure to report if a limit in force has passed, or cannot be compared. -/
def overrun? (limit : Option TimeLimit) (elapsed : Binary64) : Option Failure :=
  match effective? limit with
  | some l => match l.isPassed elapsed with
    | .ok passed => if passed then some l.failure else none
    | .error f => some f
  | none => none

/-- The failure that a caller sees for one that ended a unit of work. -/
def reported (limit : Option TimeLimit) (elapsed : Binary64) (f : Failure) : Failure :=
  if f.isDatabase then
    match effective? limit with
    | some l =>
      if isCancelled f then l.failure
      else (overrun? limit elapsed).getD (.refusal .storageFailure)
    | none => .refusal .storageFailure
  else f

/-- The command that limits every statement until the end of the transaction. -/
def limitCommand (milliseconds : Int) : String :=
  "SET LOCAL statement_timeout = " ++ Text.intText milliseconds

/-- Tells the server about a limit in force. -/
def setUp (c : Connection σ) (limit : Option TimeLimit) : Action σ Unit :=
  match effective? limit, c.dialect with
  | some l, .postgresql => do
    let ms ← Action.lift l.milliseconds
    c.execute (limitCommand ms)
  | _, _ => pure ()

/-- The unit of work without its end: set up, run the body, commit unless the limit has passed. -/
def attempt (c : Connection σ) (limit : Option TimeLimit) (elapsed : Binary64) (body : Action σ α) :
    Action σ α := do
  setUp c limit
  let a ← body
  match overrun? limit elapsed with
  | some f => .fail f
  | none =>
    c.commit
    return a

/--
Runs a body as a unit of work. The clock is read when the body is over, where `elapsed` seconds have
passed, and again when a failure is reported, which may be later.
-/
def run (c : Connection σ) (limit : Option TimeLimit) (elapsed : Binary64) (body : Action σ α)
    (late : Binary64 := elapsed) : Action σ α := .of fun s =>
  match (attempt c limit elapsed body).on s with
  | (.ok a, t) => (.ok a, t)
  | (.error f, t) => (.error (reported limit late f), c.rollback t)

end UnitOfWork

end CurrencyLedger
