import CurrencyLedger.Power
import CurrencyLedger.Text.Numeral
import CurrencyLedger.Text.Split

/-!
Addresses of the fourth version.

An address is a number below two to the power 32, written as four decimal bytes with points between.
Browsers take it in more ways: with fewer parts, of which the last stands for all the bytes that are
left, and with parts in octal or hexadecimal.
-/

namespace CurrencyLedger.Network.Ipv4

/-- Four decimal bytes with points between, none with a zero in front. -/
def readDotted? (cs : List Char) : Option Nat :=
  let parts := Text.splitList '.' cs
  let isByte (p : List Char) : Bool :=
    !p.isEmpty && p.length ≤ 3 && p.all Char.isDigit && (p.length == 1 || p.head? != some '0')
  let bytes := parts.map fun p => Text.ofDigits (Text.spanDigits p).1
  if parts.length == 4 && parts.all isByte && bytes.all (· < 256) then
    some (bytes.foldl (fun n b => 256 * n + b) 0)
  else none

/-- The number that digits write in a base; every one of them has to be below it. -/
def readDigits? (base : Nat) (cs : List Char) : Option Nat :=
  cs.foldlM
    (fun n c => (Text.hexDigit? c).bind fun d => if d < base then some (base * n + d) else none) 0

/-- A part in hexadecimal after `0x`, in octal after a zero, else in decimal. -/
def readPart? : List Char → Option Nat
  | [] => none
  | '0' :: 'x' :: cs => readDigits? 16 cs
  | '0' :: 'X' :: cs => readDigits? 16 cs
  | '0' :: c :: cs => readDigits? 8 (c :: cs)
  | cs => readDigits? 10 cs

/-- The parts of a name, without an empty last one. -/
def parts (cs : List Char) : List (List Char) :=
  let ps := Text.splitList '.' cs
  if 2 ≤ ps.length && ps.getLast? == some [] then ps.dropLast else ps

/-- Whether a name means to be an address: its last part is a number. -/
def isMeant (cs : List Char) : Bool :=
  match (parts cs).getLast? with
  | some p => !p.isEmpty && (p.all Char.isDigit || (readPart? p).isSome)
  | none => false

/-- An address in any of the ways of browsers. -/
def readLoose? (cs : List Char) : Option Nat := do
  let numbers ← (parts cs).mapM readPart?
  match numbers.reverse with
  | [] => none
  | last :: front =>
    let weight := fun k : Nat => twoTo (8 * k)
    if 4 ≤ front.length || front.any (256 ≤ ·) || weight (4 - front.length) ≤ last then none
    else some (front.reverse.zipIdx.foldl (fun n p => n + p.1 * weight (3 - p.2)) last)

/-- The written address. -/
def text (n : Nat) : List Char :=
  List.intercalate ['.'] <| [n / 16777216, n / 65536 % 256, n / 256 % 256, n % 256].map
    fun b => (Text.natText b).toList

end CurrencyLedger.Network.Ipv4
