/-!
Named fields in order.

Objects, rate tables and caches are lists of names with values. Setting a name that is there keeps
its place; a new one goes to the end. So a list built by `set` holds no name twice.
-/

namespace CurrencyLedger.Fields

/-- The fields with one set: in the place of the first of that name, else at the end. -/
def set (name : String) (v : α) : List (String × α) → List (String × α)
  | [] => [(name, v)]
  | (k, w) :: fs => if k = name then (k, v) :: fs else (k, w) :: set name v fs

/-- The fields with one set if its name is not there yet. -/
def setDefault (name : String) (v : α) (fs : List (String × α)) : List (String × α) :=
  if (fs.lookup name).isSome then fs else fs ++ [(name, v)]

/-- The fields without those of a name. -/
def erase (name : String) (fs : List (String × α)) : List (String × α) :=
  fs.filter fun f => f.1 != name

/-- A name is looked up at the front first. -/
theorem lookup_cons (name other : String) (v : α) (fs : List (String × α)) :
    ((name, v) :: fs).lookup other = if other = name then some v else fs.lookup other := by
  rw [List.lookup_cons]
  by_cases h : other = name
  · simp [h]
  · rw [if_neg h, beq_eq_false_iff_ne.2 h]

/-- What is set is found, and other names are found as before. -/
theorem lookup_set (name other : String) (v : α) (fs : List (String × α)) :
    (set name v fs).lookup other = if other = name then some v else fs.lookup other := by
  induction fs with
  | nil => simp only [set, lookup_cons]
  | cons f fs ih =>
    obtain ⟨k, w⟩ := f
    by_cases hk : k = name
    · subst hk
      by_cases h : other = k <;> simp [set, lookup_cons, h]
    · by_cases h : other = k
      · subst h
        simp [set, hk]
      · simp [set, hk, lookup_cons, ih, h]

/-- An erased name is not found, and other names are found as before. -/
theorem lookup_erase (name other : String) (fs : List (String × α)) :
    (erase name fs).lookup other = if other = name then none else fs.lookup other := by
  induction fs with
  | nil => simp [erase]
  | cons f fs ih =>
    obtain ⟨k, w⟩ := f
    simp only [erase] at ih
    by_cases hk : k = name
    · subst hk
      by_cases h : other = k
      · subst h; simpa [erase] using ih
      · simp [erase, lookup_cons, ih, h]
    · by_cases h : other = k
      · subst h; simp [erase, hk]
      · simp [erase, hk, lookup_cons, ih, h]

end CurrencyLedger.Fields
