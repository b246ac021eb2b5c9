import CurrencyLedger.Decimal.Basic

/-!
Refusals and failures.

A `LedgerError` is a refusal of the ledger: a kind, which fixes its code, its HTTP status and its
standing message, and sometimes a more particular message. A `Failure` is anything that ends a call:
a refusal, an error of the database driver, or a fault of the arithmetic or of a value's shape. What
stops the whole process, such as an interrupt from the keyboard, is no failure of a call.
-/

namespace CurrencyLedger

/-- The kinds of refusal. -/
inductive LedgerError.Kind where
  | rejected
  | invalidAmount
  | invalidCurrency
  | sameCurrency
  | walletNotFound
  | insufficientBalance
  | rateUnavailable
  | storageFailure
  | deadlineExceeded
  deriving DecidableEq, Repr

/-- A refusal of the ledger. -/
structure LedgerError where
  kind : LedgerError.Kind
  /-- A message of its own; an empty one counts as none. -/
  detail : Option String := none
  deriving DecidableEq, Repr

namespace LedgerError

/-- The code that callers tell kinds apart by. -/
def Kind.code : Kind → String
  | .rejected => "LEDGER_ERROR"
  | .invalidAmount => "INVALID_AMOUNT"
  | .invalidCurrency => "INVALID_CURRENCY"
  | .sameCurrency => "SAME_CURRENCY"
  | .walletNotFound => "WALLET_NOT_FOUND"
  | .insufficientBalance => "INSUFFICIENT_BALANCE"
  | .rateUnavailable => "RATE_UNAVAILABLE"
  | .storageFailure => "STORAGE_FAILURE"
  | .deadlineExceeded => "DEADLINE_EXCEEDED"

/-- The HTTP status of the answer. -/
def Kind.status : Kind → Nat
  | .walletNotFound => 404
  | .insufficientBalance => 409
  | .rateUnavailable => 422
  | .storageFailure => 500
  | .deadlineExceeded => 504
  | _ => 400

/-- The message of a refusal that has none of its own. -/
def Kind.standing : Kind → String
  | .rejected => "Ledger operation rejected"
  | .invalidAmount => "Amount must be a positive integer in the smallest currency unit"
  | .invalidCurrency => "Currency must be a three-letter code"
  | .sameCurrency => "Source and target currency must differ"
  | .walletNotFound => "Wallet not found"
  | .insufficientBalance => "Insufficient wallet balance"
  | .rateUnavailable => "Exchange rate is unavailable"
  | .storageFailure => "Ledger storage is unavailable. Please retry."
  | .deadlineExceeded => "Operation timed out and was rolled back"

/-- Whether the kind also says that a value is malformed, which request validation reports. -/
def Kind.isMalformedValue : Kind → Bool
  | .invalidCurrency => true
  | _ => false

/-- Whether the kind is a failure of the storage. -/
def Kind.isStorage : Kind → Bool
  | .storageFailure => true
  | .deadlineExceeded => true
  | _ => false

/-- The message: its own if it has one, else the standing one of its kind. -/
def message (e : LedgerError) : String :=
  match e.detail with
  | some s => if s = "" then e.kind.standing else s
  | none => e.kind.standing

/-- A refusal with nothing more to say than its kind. -/
def plain (kind : Kind) : LedgerError := { kind }

/-- A refusal with a message of its own. -/
def saying (kind : Kind) (message : String) : LedgerError := { kind, detail := some message }

end LedgerError

/-- What a database driver says about an error: the codes that it attaches under two names. -/
structure DriverCodes where
  pgcode : Option String := none
  sqlstate : Option String := none
  deriving DecidableEq, Repr

/-- The first code that is present and not empty. -/
def DriverCodes.code (codes : DriverCodes) : Option String :=
  match codes.pgcode with
  | some s => if s = "" then codes.sqlstate else some s
  | none => codes.sqlstate

/-- What ends a call. -/
inductive Failure where
  /-- A refusal of the ledger. -/
  | ledger (e : LedgerError)
  /-- An error of the database or its driver. -/
  | database (codes : DriverCodes)
  /-- A row that breaks a constraint of its table. -/
  | integrity
  /-- A value that cannot be part of a statement. -/
  | unbindable
  /-- A fault of decimal arithmetic. -/
  | arithmetic (s : Decimal.Signal)
  /-- An integer that does not fit where it has to go. -/
  | integerOverflow
  /-- A value of the right kind that means nothing here. -/
  | badValue (message : String)
  /-- A value of the wrong kind. -/
  | badKind
  /-- A part asked of a value that has no such part. -/
  | noSuchPart
  /-- An operation that is left to be defined. -/
  | undefinedOperation
  /-- A document whose parts are nested deeper than a reader follows. -/
  | tooDeep
  /-- A text that should have been a document. -/
  | malformedDocument
  /-- An address that cannot be one. -/
  | badAddress
  /-- A request that is not sent, for its client takes no more of them. -/
  | noReply
  /-- Any other fault. -/
  | runtime
  deriving DecidableEq, Repr

namespace Failure

/-- Whether the failure comes from the database. -/
def isDatabase : Failure → Bool
  | .database _ => true
  | .integrity => true
  | .unbindable => true
  | _ => false

/-- A refusal with nothing more to say than its kind. -/
def refusal (kind : LedgerError.Kind) : Failure := .ledger (.plain kind)

end Failure

/-- Decimal arithmetic as a part of a larger computation. -/
def ofSignal : Except Decimal.Signal α → Except Failure α
  | .ok a => .ok a
  | .error s => .error (.arithmetic s)

/-- A check of the ledger as a part of a larger computation. -/
def ofLedger : Except LedgerError α → Except Failure α
  | .ok a => .ok a
  | .error e => .error (.ledger e)

end CurrencyLedger
