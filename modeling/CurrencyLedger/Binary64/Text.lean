import CurrencyLedger.Binary64.Basic

/-!
Reading and writing doubles.

The written form has the fewest digits that read back as the same double, and of those the nearest,
or of two equally near the even one. A double can also be written rounded to a fixed number of
significant digits. `Layout` says how digits and a power of ten are put on paper; the digits
themselves do not depend on it.
-/

namespace CurrencyLedger.Binary64

open CurrencyLedger.Text

/-- The power of ten of the first digit of `n / d`, for `n` and `d` positive. -/
def decimalMagnitude (n d : Nat) : Int :=
  let k : Int := (Nat.toDigits 10 n).length - (Nat.toDigits 10 d).length
  if d * tenTo k.toNat ≤ n * tenTo (-k).toNat then k else k - 1

/--
The two neighbours of `n / d` among the multiples of `10 ^ place`, with the remainder between.
-/
def neighbours (n d : Nat) (place : Int) : Nat × Nat × Nat :=
  let m := n * tenTo (-place).toNat
  let k := d * tenTo place.toNat
  (m / k, m % k, k)

/-- Whether a decimal reads back as the magnitude `m · 2 ^ e`. -/
def readsBack (m : Nat) (e : Int) (c : Nat) (place : Int) : Bool :=
  ofScientific false c place == .finite false m e

/--
The shortest digits for a magnitude: tries the grids of `digits`, `digits + 1`, … significant
digits, `fuel` of them, and takes the nearer of the two neighbours that read back, the even one if
both are equally near.
-/
def shortestFrom (m : Nat) (e : Int) (n d : Nat) (first : Int) (digits : Nat) : Nat → Nat × Int
  | 0 => (n, 0)
  | fuel + 1 =>
    let place := first - (digits - 1)
    let (below, r, k) := neighbours n d place
    let low := readsBack m e below place
    let high := readsBack m e (below + 1) place
    if low && (!high || 2 * r < k || (2 * r == k && below % 2 == 0)) then (below, place)
    else if high then (below + 1, place)
    else shortestFrom m e n d first (digits + 1) fuel

/-- The digits of a magnitude in their fewest, with the power of ten of the last one. -/
def shortest (m : Nat) (e : Int) : Nat × Int :=
  let (n, d) := ratio m e
  shortestFrom m e n d (decimalMagnitude n d) 1 17

/-- A magnitude rounded to `digits` significant digits, half to even. -/
def significant (digits : Nat) (m : Nat) (e : Int) : Nat × Int :=
  let (n, d) := ratio m e
  let place := decimalMagnitude n d - (digits - 1)
  (nearestEven (n * tenTo (-place).toNat) (d * tenTo place.toNat), place)

/-- How digits are put on paper. -/
structure Layout where
  /-- Positional while the first digit's power of ten is at least this … -/
  lowest : Int
  /-- … and below this. -/
  highest : Int
  /-- Whether a whole number in positional form ends in a point and a zero. -/
  keepsPoint : Bool
  /-- Whether a single digit before a power of ten is followed by a point and a zero. -/
  keepsPowerPoint : Bool := false

/-- The form that reads back: positional from the fourth place after the point to sixteen digits. -/
def Layout.exact : Layout := ⟨-4, 16, true, false⟩

/-- The form with six significant digits, in which a whole number has no point. -/
def Layout.general : Layout := ⟨-4, 6, false, false⟩

/-- The form with up to fifteen digits, which always has a point. -/
def Layout.pointed : Layout := ⟨-4, 15, true, true⟩

/-- Digits without their trailing zeros; at least one stays. -/
def dropZeros (ds : List Char) : List Char :=
  match (ds.reverse.dropWhile (· == '0')).reverse with
  | [] => ['0']
  | ds => ds

/-- Digits on paper: `first` is the power of ten of the first one. -/
def Layout.write (layout : Layout) (ds : List Char) (first : Int) : List Char :=
  if layout.lowest ≤ first ∧ first < layout.highest then
    if first < 0 then '0' :: '.' :: (List.replicate (-first - 1).toNat '0' ++ ds)
    else
      let whole := ds.take (first.toNat + 1)
      let whole := whole ++ List.replicate (first.toNat + 1 - whole.length) '0'
      match ds.drop (first.toNat + 1) with
      | [] => if layout.keepsPoint then whole ++ ['.', '0'] else whole
      | fraction => whole ++ '.' :: fraction
  else
    let exponent := (paddedNat 2 first.natAbs).toList
    let mantissa := match ds with
      | d :: r :: rest => d :: '.' :: r :: rest
      | ds => if layout.keepsPowerPoint then ds ++ ['.', '0'] else ds
    mantissa ++ 'e' :: (if first < 0 then '-' else '+') :: exponent

/-- A double in a layout, its digits chosen by `digits`. -/
def writeWith (layout : Layout) (digits : Nat → Int → Nat × Int) : Binary64 → String
  | .finite s m e =>
    let body :=
      if m = 0 then layout.write ['0'] 0
      else
        let (c, place) := digits m e
        let ds := Nat.toDigits 10 c
        layout.write (dropZeros ds) (place + ds.length - 1)
    String.ofList ((if s then ['-'] else []) ++ body)
  | .infinite s => if s then "-inf" else "inf"
  | .nan => "nan"

/-- The form that reads back. -/
def text : Binary64 → String := writeWith .exact shortest

/-- The form with six significant digits. -/
def generalText : Binary64 → String := writeWith .general (significant 6)

/-- The words for the special values, in any case. -/
def readSpecial? (negative : Bool) (cs : List Char) : Option Binary64 :=
  match cs.map Char.toLower with
  | ['i', 'n', 'f'] => some (.infinite negative)
  | ['i', 'n', 'f', 'i', 'n', 'i', 't', 'y'] => some (.infinite negative)
  | ['n', 'a', 'n'] => some .nan
  | _ => none

/-- A signed number or special value in ASCII. -/
def readSigned? (cs : List Char) : Option Binary64 :=
  let (negative, body) := splitSign cs
  match readSpecial? negative body with
  | some x => some x
  | none => (readNumber? body).map fun (c, e) => ofScientific negative c e

/--
A double in written form: white space around it is dropped, digits of any script count, and single
underscores may stand between digits.
-/
def ofText? (s : String) : Option Binary64 :=
  let cs := asciiDigits (trimBy isWhiteSpace s.toList)
  if underscoresBetweenDigits cs then readSigned? (dropUnderscores cs) else none

end CurrencyLedger.Binary64
