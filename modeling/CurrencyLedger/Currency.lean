import CurrencyLedger.Failure
import CurrencyLedger.Text.Uppercase
import CurrencyLedger.Value.Basic

/-!
Currency codes.

A currency is named by three letters A to Z. A caller may write them in any case and with blanks
around them; `Currency.normalize` gives the one spelling that the ledger stores.
-/

namespace CurrencyLedger.Currency

/-- An upper-case letter of the English alphabet. -/
def isLetter (c : Char) : Bool := 'A' ≤ c && c ≤ 'Z'

/-- Whether a text is a currency code as the ledger stores it. -/
def isCode (s : String) : Bool := s.toList.length == 3 && s.toList.all isLetter

/-- The text that a value spells as a code: trimmed and in upper case, empty if none is given. -/
def spelling (v : Value) : String := Text.upper (Text.trim v.plainOrEmpty)

/-- The refusal of a value that is no currency. -/
def refusal (v : Value) : LedgerError :=
  .saying .invalidCurrency ("Invalid currency code: " ++ v.quoted)

/-- The currency that a value names. -/
def normalize (v : Value) : Except LedgerError String :=
  if isCode (spelling v) then .ok (spelling v) else .error (refusal v)

theorem isCode_of_normalize {v : Value} {s : String} (h : normalize v = .ok s) :
    isCode s = true := by
  by_cases hc : isCode (spelling v) = true
  · rw [normalize, if_pos hc] at h
    exact Except.ok.inj h ▸ hc
  · rw [normalize, if_neg hc] at h
    exact absurd h (by simp)

end CurrencyLedger.Currency
