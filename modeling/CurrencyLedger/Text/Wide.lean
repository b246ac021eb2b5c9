/-!
Texts in wide bytes.

A text may be written in units of two or of four bytes, either end first. A document begins with
ASCII, so the zero bytes among its first four tell the form. Two units of two bytes, a high and a
low surrogate, make one code point.
-/

namespace CurrencyLedger.Text

/-- Joins each high surrogate with the low one behind it; others stay as they are. -/
def joinSurrogates : List Nat → List Nat
  | n :: m :: rest =>
    if 0xD800 ≤ n ∧ n < 0xDC00 ∧ 0xDC00 ≤ m ∧ m < 0xE000 then
      (0x10000 + (n - 0xD800) * 0x400 + (m - 0xDC00)) :: joinSurrogates rest
    else n :: joinSurrogates (m :: rest)
  | ns => ns

/-- A form in which code points are written: in two bytes or in four, the high end first or last. -/
structure Wide where
  isDouble : Bool
  highFirst : Bool
  deriving DecidableEq, Repr

namespace Wide

/-- The form of a text that begins with ASCII; none if its characters are no wider than a byte. -/
def guess? : List Nat → Option Wide
  | [a, b] =>
    if a = 0 then some ⟨false, true⟩ else if b = 0 then some ⟨false, false⟩ else none
  | a :: b :: c :: d :: _ =>
    if a = 0 then some ⟨b == 0, true⟩
    else if b = 0 then some ⟨c == 0 && d == 0, false⟩
    else none
  | _ => none

/-- The number that two bytes write. -/
def unit2 (highFirst : Bool) (a b : Nat) : Nat := if highFirst then 256 * a + b else 256 * b + a

/-- The units of two bytes each, if the bytes come in pairs. -/
def units2? (highFirst : Bool) : List Nat → Option (List Nat)
  | [] => some []
  | a :: b :: rest => (units2? highFirst rest).map (unit2 highFirst a b :: ·)
  | _ => none

/-- The units of four bytes each, if the bytes come in fours. -/
def units4? (highFirst : Bool) (bytes : List Nat) : Option (List Nat) :=
  (units2? highFirst bytes).bind go
where
  /-- Two numbers of two bytes make one of four. -/
  go : List Nat → Option (List Nat)
    | [] => some []
    | a :: b :: rest =>
      (go rest).map ((if highFirst then 65536 * a + b else 65536 * b + a) :: ·)
    | _ => none

/-- The largest code point. -/
def maxCode : Nat := 0x10FFFF

/-- The code points that some bytes write. -/
def decode? (form : Wide) (bytes : List Nat) : Option (List Nat) :=
  if form.isDouble then
    (units4? form.highFirst bytes).filter fun codes => codes.all (· ≤ maxCode)
  else (units2? form.highFirst bytes).map joinSurrogates

end Wide

end CurrencyLedger.Text
