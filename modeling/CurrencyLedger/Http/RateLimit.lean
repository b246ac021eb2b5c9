import CurrencyLedger.Text.Numeral
import CurrencyLedger.Text.Split
import CurrencyLedger.Text.Uppercase

/-!
Limits on requests.

A limit allows a number of requests in a span of time, such as two per year. A text may give
several; a text that cannot be read gives none. Requests are counted for each client, path and
limit. The first one opens a window as long as the limit's time, and at the end of the window the
count is forgotten.
-/

namespace CurrencyLedger.Http

open CurrencyLedger.Text

/-- A number of requests in a span of time. -/
structure RateLimit where
  amount : Nat
  spans : Nat
  span : String
  deriving DecidableEq, Repr

namespace RateLimit

/-- The written limit. -/
def text (l : RateLimit) : String :=
  natText l.amount ++ " per " ++ natText l.spans ++ " " ++ l.span

/-- The names of spans of time, and how many seconds each is. -/
def spanSeconds : List (String × Nat) :=
  [("hour", 3600), ("minute", 60), ("second", 1), ("day", 86400), ("month", 2592000),
    ("year", 31104000)]

/-- The time of a limit in seconds: a month is thirty days, and a year is twelve months. -/
def seconds (l : RateLimit) : Nat := l.spans * (spanSeconds.lookup l.span).getD 0

/-- Drops blanks at the front. -/
def skipBlanks (cs : List Char) : List Char := cs.dropWhile isBlank

/-- A slash or the word `per` at the front, in any case. -/
def skipPer? (cs : List Char) : Option (List Char) :=
  match cs with
  | '/' :: rest => some rest
  | cs => if (cs.take 3).map Char.toLower == ['p', 'e', 'r'] then some (cs.drop 3) else none

/-- A span of time to the end of a text, in any case and with or without an `s`. -/
def readSpan? (cs : List Char) : Option String :=
  let word := String.ofList ((trimBy isBlank cs).map Char.toLower)
  (spanSeconds.map (·.1)).find? fun s => s == word || s ++ "s" == word

/-- One limit. -/
def read? (cs : List Char) : Option RateLimit := do
  let (amount, rest) := spanDigits (skipBlanks cs)
  if amount.isEmpty then none
  else
    let rest ← skipPer? (skipBlanks rest)
    let (times, rest) := spanDigits (skipBlanks rest)
    let span ← readSpan? rest
    if maxIntegerDigits < amount.length || maxIntegerDigits < times.length then none
    else some { amount := ofDigits amount, spans := max 1 (ofDigits times), span }

/-- The characters that stand between limits. -/
def separators : List Char := [',', ';', '|']

/-- A text without a colon at its end. -/
def dropColon (cs : List Char) : List Char :=
  match cs.reverse with
  | ':' :: rest => rest.reverse
  | _ => cs

/-- The limits of some parts; before a separator a colon may stand. -/
def readParts? : List (List Char) → Option (List RateLimit)
  | [] => some []
  | [p] => (read? p).map ([·])
  | p :: ps => do
    let l ← read? (dropColon p)
    let ls ← readParts? ps
    some (l :: ls)

/-- All limits of a text, or none if one of them cannot be read. -/
def readAll (s : String) : List RateLimit :=
  let cs := s.toList.map fun c => if separators.contains c then ',' else c
  (readParts? (splitList ',' cs)).getD []

end RateLimit

/-- What requests are counted by. -/
structure Counter where
  client : String
  path : String
  limit : RateLimit
  deriving DecidableEq, Repr

/-- How many requests came since a window was opened, and when it ends. -/
structure Window where
  count : Nat
  ends : Rat
  deriving DecidableEq, Repr

/-- The windows that have been opened. -/
abbrev Hits := List (Counter × Window)

namespace Hits

/-- The window of a counter, if one is open. -/
def window? (h : Hits) (now : Rat) (k : Counter) : Option Window :=
  (h.lookup k).filter fun w => now < w.ends

/-- The window of a counter with one more request, which opens it if none is open. -/
def next (h : Hits) (now : Rat) (k : Counter) : Window :=
  match h.window? now k with
  | some w => { w with count := w.count + 1 }
  | none => { count := 1, ends := now + k.limit.seconds }

/-- The windows with that of a counter put in its place. -/
def put (h : Hits) (k : Counter) (w : Window) : Hits := (k, w) :: h.filter fun e => e.1 != k

/-- Counts a request of a client for a path; the answer is the first limit that it exceeds. -/
def take (now : Rat) (client path : String) (h : Hits) :
    List RateLimit → Option RateLimit × Hits
  | [] => (none, h)
  | l :: ls =>
    let k : Counter := ⟨client, path, l⟩
    let w := h.next now k
    if l.amount < w.count then (some l, h.put k w) else take now client path (h.put k w) ls

end Hits

end CurrencyLedger.Http
