import CurrencyLedger.Fields
import CurrencyLedger.Text.Split
import CurrencyLedger.TimeScale

/-!
A cache whose entries expire.

An entry lives until a moment, that moment included. Reading an entry past its end removes it;
entries that nobody reads stay stored, which no later reading can tell. Any scale of time will do.
-/

namespace CurrencyLedger

/-- What is cached under a key, and the last moment at which it may be read. -/
structure Cache.Entry (τ α : Type) where
  value : α
  expires : τ

/-- Entries by key. -/
structure Cache (τ α : Type) where
  entries : List (String × Cache.Entry τ α) := []

namespace Cache

variable [TimeScale τ]

/-- The lifetime of an entry set without one, in seconds. -/
def defaultLifetime : Value := .int 60

/-- Reads a key at a moment. -/
def get (c : Cache τ α) (now : τ) (key : String) : Option α × Cache τ α :=
  match c.entries.lookup key with
  | none => (none, c)
  | some e =>
    if TimeScale.isLess e.expires now then (none, ⟨Fields.erase key c.entries⟩)
    else (some e.value, c)

/-- Sets a key for a lifetime; one that is not positive sets nothing. -/
def set (c : Cache τ α) (now : τ) (key : String) (v : α) (lifetime : τ) : Cache τ α :=
  if TimeScale.atMost lifetime TimeScale.zero then c
  else ⟨Fields.set key ⟨v, TimeScale.add now lifetime⟩ c.entries⟩

/-- Removes the keys that begin with a text. -/
def clear (c : Cache τ α) (beginning : String) : Cache τ α :=
  ⟨c.entries.filter fun e => !Text.beginsWith beginning e.1⟩

/-- The keys still stored, ascending. -/
def keys (c : Cache τ α) : List String := (c.entries.map (·.1)).mergeSort fun a b => a ≤ b

end Cache

end CurrencyLedger
