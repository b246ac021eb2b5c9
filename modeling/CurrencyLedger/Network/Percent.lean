import CurrencyLedger.Text.Quoted
import CurrencyLedger.Text.Utf8

/-!
Percent notation.

In an address a percent sign and two hexadecimal digits stand for a byte. Which characters have to
be written by their bytes depends on the part of the address they stand in.
-/

namespace CurrencyLedger.Network.Percent

/-- A byte in percent notation. -/
def byte (b : Nat) : List Char := '%' :: (Text.hexText 2 b).map Char.toUpper

/-- A character by its bytes. -/
def char (c : Char) : List Char := (Text.Utf8.encodeChar c).flatMap byte

/-- Writes the characters of a set by their bytes, and with them controls and all beyond ASCII. -/
def encode (inSet : Char → Bool) (cs : List Char) : List Char :=
  cs.flatMap fun c => if c.toNat < 0x20 || 0x7F ≤ c.toNat || inSet c then char c else [c]

/-- What is encoded in a query. -/
def querySet : List Char := [' ', '\x22', '#', '<', '>']

/-- What is encoded in a path. -/
def pathSet : List Char := querySet ++ ['?', '`', '\x7b', '\x7d']

/-- What is encoded in a fragment. -/
def fragmentSet : List Char := [' ', '\x22', '<', '>', '`']

/--
What is encoded in the name and the password before a host, where a colon stands between them.
-/
def pairSet : List Char := pathSet ++ ['/', ';', '=', '@', '[', '\\', ']', '^', '|']

/-- What is encoded in a name or a password by itself. -/
def userSet : List Char := ':' :: pairSet

/-- The bytes of a text in percent notation. -/
def bytes : List Char → List Nat
  | '%' :: a :: b :: cs => match Text.hexDigit? a, Text.hexDigit? b with
    | some x, some y => (16 * x + y) :: bytes cs
    | _, _ => 0x25 :: bytes (a :: b :: cs)
  | c :: cs => Text.Utf8.encodeChar c ++ bytes cs
  | [] => []

/-- A text without percent notation. -/
def decode (cs : List Char) : List Char := Text.Utf8.decode (bytes cs)

end CurrencyLedger.Network.Percent
