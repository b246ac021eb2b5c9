/-!
Splitting text at a character.

`split` cuts a text at every occurrence of a separator, so there is always one piece more than there
are separators, and the pieces joined by the separator are the text again.
-/

namespace CurrencyLedger.Text

/-- The pieces of a text between the occurrences of a separator. -/
def splitList (sep : Char) : List Char → List (List Char)
  | [] => [[]]
  | c :: cs =>
    if c = sep then [] :: splitList sep cs
    else match splitList sep cs with
      | [] => [[c]]
      | p :: ps => (c :: p) :: ps

/-- The pieces of a text between the occurrences of a separator. -/
def split (sep : Char) (s : String) : List String := (splitList sep s.toList).map String.ofList

/-- The text before the first occurrence of a separator, and what follows it, if it occurs. -/
def cutList (sep : Char) : List Char → List Char × Option (List Char)
  | [] => ([], none)
  | c :: cs =>
    if c = sep then ([], some cs)
    else let (front, back) := cutList sep cs; (c :: front, back)

/-- The text before the first occurrence of a separator, and what follows it, if it occurs. -/
def cut (sep : Char) (s : String) : String × Option String :=
  let (front, back) := cutList sep s.toList
  (String.ofList front, back.map String.ofList)

/-- Whether a text begins with another. -/
def beginsWith (beginning s : String) : Bool := beginning.toList.isPrefixOf s.toList

theorem splitList_ne_nil (sep : Char) (cs : List Char) : splitList sep cs ≠ [] := by
  cases cs with
  | nil => simp [splitList]
  | cons c cs =>
    by_cases h : c = sep
    · simp [splitList, h]
    · simp only [splitList, h, if_false]
      split <;> simp

end CurrencyLedger.Text
