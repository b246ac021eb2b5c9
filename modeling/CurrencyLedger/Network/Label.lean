import CurrencyLedger.Text.Composition
import CurrencyLedger.Text.Direction
import CurrencyLedger.Text.Joining
import CurrencyLedger.Text.Script

/-!
Labels of names.

A name is a row of labels. A label with characters beyond ASCII has to be readable whatever stands
around it: it does not begin with a mark, a joiner stands only where it changes how letters are
written, and its letters and numbers agree on a direction. Some punctuation belongs to the words of
a script and may stand there.
-/

namespace CurrencyLedger.Network.Label

open CurrencyLedger.Text

/-! ### Joiners -/

/-- The class of the marks that take the vowel from a letter. -/
def vowelKiller : Nat := 9

/-- The character that joins letters. -/
def joiner : Char := '\u200d'

/-- The character that parts letters. -/
def nonJoiner : Char := '\u200c'

/-- Whether a row of marks, read from a gap outward, leads to a letter with a property. -/
def leadsTo (p : Char → Bool) (cs : List Char) : Bool :=
  ((cs.dropWhile isTransparent).head?).any p

/-- Whether a joiner may stand between what is before it, in reverse, and what is after it. -/
def joinerFits (c : Char) (before after : List Char) : Bool :=
  (before.head?).any (markClass · == vowelKiller)
    || (c == nonJoiner && leadsTo joinsAfter before && leadsTo joinsBefore after)

/--
Whether every joiner of a label may stand where it stands; what is before is given in reverse.
-/
def joinersFit (before : List Char) : List Char → Bool
  | [] => true
  | c :: cs =>
    ((c != joiner && c != nonJoiner) || joinerFits c before cs) && joinersFit (c :: before) cs

/-! ### Directions -/

/-- The directions that a label to the left may have. -/
def leftwardDirections : List Direction :=
  [.leftward, .arabicNumber, .europeanNumber, .neutral, .mark]

/-- The directions that a label to the right may have. -/
def rightwardDirections : List Direction := [.rightward, .europeanNumber, .neutral, .mark]

/-- The last direction of a label that is not a mark's. -/
def lastDirection? (ds : List Direction) : Option Direction :=
  (ds.reverse.dropWhile (· = .mark)).head?

/-- Whether the directions of a label agree with that of its first character. -/
def directionsAgree (ds : List Direction) : Bool :=
  match ds.head? with
  | none => true
  | some .leftward =>
    ds.all leftwardDirections.contains
      && (lastDirection? ds).any [.leftward, .europeanNumber, .arabicNumber].contains
      && !(ds.contains .europeanNumber && ds.contains .arabicNumber)
  | some .rightward =>
    ds.all rightwardDirections.contains
      && (lastDirection? ds).any [.rightward, .europeanNumber].contains
  | some _ => false

/-- Whether a label has a character that runs to the left. -/
def isLeftward (label : List Char) : Bool := label.any fun c => (direction c).isLeftward

/-- Whether the characters of a label agree on a direction. -/
def hasOneDirection (label : List Char) : Bool := directionsAgree (label.map direction)

/-! ### Punctuation inside words -/

/-- Whether a character is a digit of the Arabs of the west. -/
def isWesternArabic (c : Char) : Bool := '\u0660' ≤ c && c ≤ '\u0669'

/-- Whether a character is a digit of the Arabs of the east. -/
def isEasternArabic (c : Char) : Bool := '\u06f0' ≤ c && c ≤ '\u06f9'

/-- The dot between two letters l. -/
def middleDot : Char := '\u00b7'

/-- The sign before Greek numerals. -/
def numeralSign : Char := '\u0375'

/-- The signs behind Hebrew letters that stand for numbers or for a word cut short. -/
def hebrewSigns : List Char := ['\u05f3', '\u05f4']

/-- The dot between words of Japanese. -/
def wordDot : Char := '\u30fb'

/-- Whether a character is at home only in some places of some labels. -/
def needsPlace (c : Char) : Bool :=
  isWesternArabic c || isEasternArabic c || c == middleDot || c == numeralSign
    || hebrewSigns.contains c || c == wordDot

/-- Whether a character may stand in a label between what is before it, in reverse, and after it. -/
def placeFits (label before after : List Char) (c : Char) : Bool :=
  if isWesternArabic c then !label.any isEasternArabic
  else if isEasternArabic c then !label.any isWesternArabic
  else if c == middleDot then before.head? == some 'l' && after.head? == some 'l'
  else if c == numeralSign then (after.head?).any isGreek
  else if hebrewSigns.contains c then (before.head?).any isHebrew
  else if c == wordDot then label.any isJapanese
  else true

/-- Whether every character of the rest of a label may stand where it stands. -/
def placesFit (label before : List Char) : List Char → Bool
  | [] => true
  | c :: cs => placeFits label before cs c && placesFit label (c :: before) cs

/-! ### Labels -/

/-- Whether a label is in composed form, begins with no mark, and has its joiners where they fit. -/
def isWellFormed (label : List Char) : Bool :=
  compose label == label && !(label.head?).any isMark && joinersFit [] label

end CurrencyLedger.Network.Label
