import CurrencyLedger.Calendar.Moment
import CurrencyLedger.Value.Choice

/-!
The rows of the store.

A wallet holds the balance of one user in one currency. A transaction records one movement of one
wallet's balance and is never changed. An activity tells a user what was done; it is written apart
from the money, so one may be missing.
-/

namespace CurrencyLedger

/-- What a user may do. -/
inductive Role where
  | user
  | admin
  deriving DecidableEq, Repr

/-- Someone who holds wallets. -/
structure User where
  id : Int
  role : Role := .user
  active : Bool := true
  deriving DecidableEq, Repr

/-- The balance of a user in a currency, in smallest units. -/
structure Wallet where
  id : String
  userId : Int
  currency : String
  balance : Nat
  createdAt : Moment
  updatedAt : Moment
  deriving DecidableEq, Repr

namespace Transaction

/-- What a movement is part of. -/
inductive Kind where
  | funding
  | conversion
  | trade
  | withdrawal
  | fee
  deriving DecidableEq, Repr

/-- Which way a movement goes. -/
inductive Flow where
  | debit
  | credit
  deriving DecidableEq, Repr

/-- How far a movement has come. -/
inductive Status where
  | pending
  | completed
  | success
  | failed
  | abandoned
  | reversed
  deriving DecidableEq, Repr

/-- The written kind. -/
def Kind.text : Kind → String
  | .funding => "funding"
  | .conversion => "conversion"
  | .trade => "trade"
  | .withdrawal => "withdrawal"
  | .fee => "fee"

/-- The kind as the first word of a description. -/
def Kind.title : Kind → String
  | .funding => "Funding"
  | .conversion => "Conversion"
  | .trade => "Trade"
  | .withdrawal => "Withdrawal"
  | .fee => "Fee"

/-- The three letters with which references of a kind begin. -/
def Kind.mark : Kind → String
  | .funding => "FND"
  | .conversion => "CNV"
  | .trade => "TRD"
  | .withdrawal => "WDR"
  | .fee => "FEE"

/-- The letters of a reference without a kind. -/
def Kind.unmarked : String := "TXN"

/-- The kind that a text spells. -/
def Kind.ofText? (s : String) : Option Kind :=
  [.funding, .conversion, .trade, .withdrawal, .fee].find? fun k : Kind => k.text = s

/-- The kind that a value names, if it is not null. -/
def Kind.ofValue (v : Value) : Except Failure (Option Kind) :=
  v.choose? "TransactionType" ofText?

/-- The written flow. -/
def Flow.text : Flow → String
  | .debit => "debit"
  | .credit => "credit"

/-- The flow that a text spells. -/
def Flow.ofText? (s : String) : Option Flow :=
  [.debit, .credit].find? fun f : Flow => f.text = s

/-- The flow that a value names, if it is not null. -/
def Flow.ofValue (v : Value) : Except Failure (Option Flow) :=
  v.choose? "TransactionFlow" ofText?

/-- The written status. -/
def Status.text : Status → String
  | .pending => "pending"
  | .completed => "completed"
  | .success => "success"
  | .failed => "failed"
  | .abandoned => "abandoned"
  | .reversed => "reversed"

/-- The status that a text spells. -/
def Status.ofText? (s : String) : Option Status :=
  [.pending, .completed, .success, .failed, .abandoned, .reversed].find? fun t : Status =>
    t.text = s

/-- The status that a value names, if it is not null. -/
def Status.ofValue (v : Value) : Except Failure (Option Status) :=
  v.choose? "TransactionStatus" ofText?

end Transaction

/-- One movement of one wallet's balance. -/
structure Transaction where
  id : String
  reference : String
  /-- Shared by the movements of one operation. -/
  sessionId : String
  userId : Int
  walletId : String
  currency : String
  amount : Nat
  flow : Transaction.Flow
  kind : Transaction.Kind
  status : Transaction.Status
  /-- The rate at eight places. -/
  exchangeRate : String
  description : String
  remarks : Value
  disputed : Bool := false
  createdAt : Moment
  updatedAt : Moment
  deriving Repr

/-- A line of a user's history. -/
structure Activity where
  id : Nat
  /-- The user, unless the row was given what identifies none. -/
  userId : Option Int
  entity : String
  resource : String
  event : String
  text : String
  requestMeta : Value
  date : Moment
  deriving Repr

end CurrencyLedger
