/-!
Bytes as characters.

A run of bytes is read as the encoding of characters in one to four bytes each. Where the bytes are
no such encoding, the longest beginning of one is replaced by the replacement character, and reading
goes on after it.
-/

namespace CurrencyLedger.Text.Utf8

/-- The replacement character. -/
def replacement : Char := '\ufffd'

/--
A character that has begun: how many bytes it lacks, its bits so far, and the range of the next.
-/
structure Pending where
  lacking : Nat
  bits : Nat
  low : Nat
  high : Nat

/-- What a first byte begins. -/
inductive Beginning where
  | whole (c : Char)
  | part (p : Pending)
  | none

/-- What a byte begins. -/
def begin (b : Nat) : Beginning :=
  if b < 0x80 then .whole (Char.ofNat b)
  else if b < 0xC2 then .none
  else if b < 0xE0 then .part ⟨1, b - 0xC0, 0x80, 0xBF⟩
  else if b = 0xE0 then .part ⟨2, 0, 0xA0, 0xBF⟩
  else if b = 0xED then .part ⟨2, 0xD, 0x80, 0x9F⟩
  else if b < 0xF0 then .part ⟨2, b - 0xE0, 0x80, 0xBF⟩
  else if b = 0xF0 then .part ⟨3, 0, 0x90, 0xBF⟩
  else if b < 0xF4 then .part ⟨3, b - 0xF0, 0x80, 0xBF⟩
  else if b = 0xF4 then .part ⟨3, 4, 0x80, 0x8F⟩
  else .none

/-- A character with one byte more. -/
def Pending.extend (p : Pending) (b : Nat) : Beginning :=
  let bits := p.bits * 64 + (b - 0x80)
  if p.lacking ≤ 1 then .whole (Char.ofNat bits) else .part ⟨p.lacking - 1, bits, 0x80, 0xBF⟩

/-- What has been begun after a byte, and the characters that are complete by then. -/
def step (pending : Option Pending) (b : Nat) : List Char × Option Pending :=
  let fresh (before : List Char) : List Char × Option Pending := match begin b with
    | .whole c => (before ++ [c], Option.none)
    | .part p => (before, some p)
    | .none => (before ++ [replacement], Option.none)
  match pending with
  | Option.none => fresh []
  | some p =>
    if p.low ≤ b ∧ b ≤ p.high then match p.extend b with
      | .whole c => ([c], Option.none)
      | .part q => ([], some q)
      | .none => ([replacement], Option.none)
    else fresh [replacement]

/-- The characters of some bytes, after a character that may have begun. -/
def decodeFrom (pending : Option Pending) : List Nat → List Char
  | [] => if pending.isSome then [replacement] else []
  | b :: bs => (step pending b).1 ++ decodeFrom (step pending b).2 bs

/-- The characters of some bytes. -/
def decode (bs : List Nat) : List Char := decodeFrom Option.none bs

/-- The bytes of a character. -/
def encodeChar (c : Char) : List Nat := (String.singleton c).toUTF8.data.toList.map UInt8.toNat

end CurrencyLedger.Text.Utf8
