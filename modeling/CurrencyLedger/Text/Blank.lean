/-!
Blank characters and trimming.

Text that people and headers send is compared after its surrounding blanks are dropped. What counts
as blank is a set of code points: the Unicode property `White_Space`, together with the four
information separators U+001C to U+001F. The zero-width space and the byte order mark are not blank.
-/

namespace CurrencyLedger.Text

/-- The code points with the Unicode property `White_Space`, as closed ranges. -/
def whiteSpace : List (Nat × Nat) :=
  [(0x09, 0x0D), (0x20, 0x20), (0x85, 0x85), (0xA0, 0xA0), (0x1680, 0x1680), (0x2000, 0x200A),
    (0x2028, 0x2029), (0x202F, 0x202F), (0x205F, 0x205F), (0x3000, 0x3000)]

/-- Whether a code point lies in one of the ranges. -/
def inRanges (ranges : List (Nat × Nat)) (n : Nat) : Bool :=
  ranges.any fun r => r.1 ≤ n && n ≤ r.2

/-- White space in the sense of the Unicode property. -/
def isWhiteSpace (c : Char) : Bool := inRanges whiteSpace c.toNat

/-- Blank: white space, or one of the information separators. -/
def isBlank (c : Char) : Bool :=
  isWhiteSpace c || (0x1C ≤ c.toNat && c.toNat ≤ 0x1F)

/-- Drops the longest runs of `p` at both ends. -/
def trimBy (p : Char → Bool) (cs : List Char) : List Char :=
  ((cs.dropWhile p).reverse.dropWhile p).reverse

/-- The text without the blanks around it. -/
def trim (s : String) : String := String.ofList (trimBy isBlank s.toList)

/-- Drops every trailing occurrence of `c`. -/
def dropTrailing (c : Char) (s : String) : String :=
  String.ofList (s.toList.reverse.dropWhile (· == c)).reverse

end CurrencyLedger.Text
