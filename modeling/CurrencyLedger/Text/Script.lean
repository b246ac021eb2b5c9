import CurrencyLedger.Text.Blank

/-!
Scripts.

The letters of the scripts that have punctuation of their own inside words: Greek, Hebrew, and the
three in which Japanese is written.
-/

namespace CurrencyLedger.Text

/-- The characters of the Greek script, as closed ranges. -/
def greek : List (Nat × Nat) :=
  [(0x0370, 0x0373), (0x0375, 0x037D), (0x037F, 0x0384), (0x0386, 0x0386), (0x0388, 0x03E1),
   (0x03F0, 0x03FF), (0x1D26, 0x1D2A), (0x1D5D, 0x1D61), (0x1D66, 0x1D6A), (0x1DBF, 0x1DBF),
   (0x1F00, 0x1FFE), (0x2126, 0x2126), (0xAB65, 0xAB65), (0x10140, 0x1018E), (0x101A0, 0x101A0),
   (0x1D200, 0x1D245)]

/-- The characters of the Hebrew script, as closed ranges. -/
def hebrew : List (Nat × Nat) :=
  [(0x0591, 0x05F4), (0xFB1D, 0xFB4F)]

/-- The characters of the scripts of Japanese, as closed ranges. -/
def japanese : List (Nat × Nat) :=
  [(0x2E80, 0x2FD5), (0x3005, 0x3005), (0x3007, 0x3007), (0x3021, 0x3029), (0x3038, 0x303B),
   (0x3041, 0x3096), (0x309D, 0x309F), (0x30A1, 0x30FA), (0x30FD, 0x30FF), (0x31F0, 0x31FF),
   (0x32D0, 0x32FE), (0x3300, 0x3357), (0x3400, 0x4DBF), (0x4E00, 0x9FFF), (0xF900, 0xFAD9),
   (0xFF66, 0xFF6F), (0xFF71, 0xFF9D), (0x16FE2, 0x16FE3), (0x16FF0, 0x16FF1), (0x1AFF0, 0x1B167),
   (0x1F200, 0x1F200), (0x20000, 0x2EE5D), (0x2F800, 0x2FA1D), (0x30000, 0x323AF)]

/-- Whether a character is Greek. -/
def isGreek (c : Char) : Bool := inRanges greek c.toNat

/-- Whether a character is Hebrew. -/
def isHebrew (c : Char) : Bool := inRanges hebrew c.toNat

/-- Whether a character belongs to a script of Japanese. -/
def isJapanese (c : Char) : Bool := inRanges japanese c.toNat

end CurrencyLedger.Text
