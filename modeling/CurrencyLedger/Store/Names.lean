import CurrencyLedger.Text.Quoted
import CurrencyLedger.Text.Uppercase

/-!
Names for new rows.

Every new wallet, transaction, reference and session gets a name that has not been given before. The
names of one sort come from a `Series`: first those that were reserved, in order, then numbered
ones. A name once drawn is not given back, whatever becomes of the row.
-/

namespace CurrencyLedger

/-- The names of one sort. -/
structure Series where
  /-- Reserved names, used before any numbered one. -/
  reserved : List String := []
  next : Nat := 1
  deriving DecidableEq, Repr

/-- Draws a name, a numbered one written by `spell`. -/
def Series.draw (spell : Nat → String) (s : Series) : String × Series :=
  match s.reserved with
  | name :: rest => (name, { s with reserved := rest })
  | [] => (spell s.next, { s with next := s.next + 1 })

/-- Reserves names in place of those that were reserved before. -/
def Series.reserve (names : List String) (s : Series) : Series := { s with reserved := names }

/-- The names of every sort. -/
structure Names where
  wallets : Series := {}
  transactions : Series := {}
  references : Series := {}
  sessions : Series := {}
  deriving DecidableEq, Repr

namespace Names

/-- The hexadecimal digits of a reference. -/
def referenceDigits : Nat := 20

/-- The hexadecimal digits of a session. -/
def sessionDigits : Nat := 24

/-- A number as a token: lower-case hexadecimal digits, zeros in front. -/
def token (digits n : Nat) : String := String.ofList (Text.hexText digits n)

/-- The identifier of a new wallet. -/
def wallet (names : Names) : String × Names :=
  let (s, rest) := names.wallets.draw Text.natText
  ("w" ++ s, { names with wallets := rest })

/-- The identifier of a new transaction. -/
def transaction (names : Names) : String × Names :=
  let (s, rest) := names.transactions.draw Text.natText
  ("t" ++ s, { names with transactions := rest })

/-- A new reference, which begins with a mark. -/
def reference (mark : String) (names : Names) : String × Names :=
  let (s, rest) := names.references.draw (token referenceDigits)
  (mark ++ "_" ++ Text.upper s, { names with references := rest })

/-- A new session. -/
def session (names : Names) : String × Names :=
  let (s, rest) := names.sessions.draw (token sessionDigits)
  ("SES_" ++ Text.upper s, { names with sessions := rest })

end Names

end CurrencyLedger
