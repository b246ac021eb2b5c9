import CurrencyLedger.Value.Json
import Mathlib.Data.List.DropRight
import Mathlib.Tactic.SplitIfs

/-!
Objects of texts, as they are written.

An object whose names and values are texts without quotes, backslashes and control characters is
written with each of them in quotes as it is. However many blanks stand between the parts, the
reader reads it back. Names that are written by other code points are other names, even where a
surrogate stands alone in them.
-/

namespace CurrencyLedger

/-- A new name goes to the end. -/
theorem Fields.set_of_not_mem {name : String} {fields : List (String × α)}
    (h : name ∉ fields.map (·.1)) (v : α) : set name v fields = fields ++ [(name, v)] := by
  induction fields with
  | nil => rfl
  | cons f fields ih =>
    obtain ⟨k, w⟩ := f
    rw [List.map_cons, List.mem_cons, not_or] at h
    rw [set, if_neg (Ne.symm h.1), ih h.2]
    rfl

namespace Json

/-! ### Blanks -/

/-- Blanks between the parts of a document. -/
def Blanks (cs : List Char) : Prop := skipBlanks cs = []

theorem skipBlanks_append {blanks : List Char} (h : Blanks blanks) (cs : List Char) :
    skipBlanks (blanks ++ cs) = skipBlanks cs := by
  rw [Blanks, skipBlanks] at h
  rw [skipBlanks, List.dropWhile_append, h]
  rfl

/-! ### Texts -/

/-- A character that a text in quotes has as it is. -/
structure IsBare (c : Char) : Prop where
  quote : c ≠ '\x22'
  backslash : c ≠ '\\'
  control : 32 ≤ c.toNat

/-- A text in quotes, its characters as they are, and what follows it. -/
def inQuotes (s : String) (rest : List Char) : List Char := '\x22' :: (s.toList ++ '\x22' :: rest)

theorem readUnits_bare {cs : List Char} (h : ∀ c ∈ cs, IsBare c) (units : List Nat)
    (rest : List Char) :
    readUnits units (cs ++ '\x22' :: rest) = .ok ((cs.map Char.toNat).reverse ++ units, rest) := by
  induction cs generalizing units with
  | nil => rfl
  | cons c cs ih =>
    obtain ⟨hquote, hbackslash, hcontrol⟩ := h c List.mem_cons_self
    have hbare : ¬(decide (c.toNat < 32) || c == '\\') = true := by
      simp only [Bool.or_eq_true, decide_eq_true_eq, beq_iff_eq, not_or]
      exact ⟨by omega, hbackslash⟩
    have hstep : readUnits units (c :: (cs ++ '\x22' :: rest)) =
        readUnits (c.toNat :: units) (cs ++ '\x22' :: rest) := by
      rw [readUnits, if_neg hbare]
      · exact hquote
      · rintro _ _ _ _ _ rfl
        exact absurd rfl hbackslash
      · rintro _ _ rfl
        exact absurd rfl hbackslash
    rw [List.cons_append, hstep, ih fun d hd => h d (List.mem_cons_of_mem _ hd)]
    simp

theorem not_isSurrogate_toNat (c : Char) : Text.isSurrogate c.toNat = false := by
  have hvalid : c.toNat < 0xD800 ∨ (0xDFFF < c.toNat ∧ c.toNat < 0x110000) := c.valid
  simp only [Text.isSurrogate, Bool.and_eq_false_iff, decide_eq_false_iff_not]
  omega

/-- Characters are no surrogates, so there is nothing to join. -/
theorem joinSurrogates_toNat (cs : List Char) :
    Text.joinSurrogates (cs.map Char.toNat) = cs.map Char.toNat := by
  induction cs with
  | nil => rfl
  | cons c cs ih =>
    cases cs with
    | nil => rfl
    | cons d cs =>
      have hc := not_isSurrogate_toNat c
      simp only [Text.isSurrogate, Bool.and_eq_false_iff, decide_eq_false_iff_not] at hc
      rw [List.map_cons, List.map_cons, Text.joinSurrogates, if_neg (by omega), ← List.map_cons, ih]

/-- The code point that a character stands for. -/
def codeOf (c : Char) : Nat := if 0x10F000 ≤ c.toNat then c.toNat - 0x101800 else c.toNat

theorem codeOf_charOf {n : Nat} (h : n < 0x10F000) : codeOf (Text.charOf n) = n := by
  rw [codeOf, Text.toNat_charOf (by omega)]
  by_cases hsurrogate : Text.isSurrogate n = true
  · have hrange := hsurrogate
    simp only [Text.isSurrogate, Bool.and_eq_true, decide_eq_true_eq] at hrange
    rw [if_pos hsurrogate]
    split_ifs <;> omega
  · rw [if_neg hsurrogate, if_neg (by omega)]

/-- Names of different code points are different, also where surrogates stand alone in them. -/
theorem plain_ofCodes_inj {codes codes' : List Nat} (h : ∀ n ∈ codes, n < 0x10F000)
    (h' : ∀ n ∈ codes', n < 0x10F000)
    (hsame : (Value.ofCodes codes).plain = (Value.ofCodes codes').plain) : codes = codes' := by
  have hplain (ns : List Nat) : (Value.ofCodes ns).plain.toList = ns.map Text.charOf := by
    rw [Value.ofCodes]
    split_ifs <;> exact String.toList_ofList
  have hback {ns : List Nat} (hns : ∀ n ∈ ns, n < 0x10F000) :
      (Value.ofCodes ns).plain.toList.map codeOf = ns := by
    rw [hplain, List.map_map]
    exact (List.map_congr_left fun n hn => codeOf_charOf (hns n hn)).trans (List.map_id _)
  rw [← hback h, ← hback h', hsame]

theorem ofCodes_toNat (s : String) : Value.ofCodes (s.toList.map Char.toNat) = .text s := by
  have hnone : (s.toList.map Char.toNat).any Text.isSurrogate = false := by
    simp [not_isSurrogate_toNat]
  have hself : (s.toList.map Char.toNat).map Text.charOf = s.toList := by
    rw [List.map_map]
    refine (List.map_congr_left fun c _ => ?_).trans (List.map_id _)
    simp [Text.charOf, not_isSurrogate_toNat]
  rw [Value.ofCodes, hnone, hself, String.ofList_toList]
  rfl

theorem readCodes_bare {s : String} (h : ∀ c ∈ s.toList, IsBare c) (rest : List Char) :
    readCodes (s.toList ++ '\x22' :: rest) = .ok (s.toList.map Char.toNat, rest) := by
  rw [readCodes, readUnits_bare h, List.append_nil]
  dsimp only
  rw [List.reverse_reverse, joinSurrogates_toNat]

theorem readValue_inQuotes {s : String} (h : ∀ c ∈ s.toList, IsBare c) {blanks : List Char}
    (hblanks : Blanks blanks) (fuel depth : Nat) (rest : List Char) :
    readValue (fuel + 1) depth (blanks ++ inQuotes s rest) = .ok (.text s, rest) := by
  have hword : readWord? ('\x22' :: (s.toList ++ '\x22' :: rest)) = none := rfl
  have hscalar : readScalar (inQuotes s rest) = .ok (.text s, rest) := by
    unfold readScalar inQuotes
    simp only [hword, readCodes_bare h, ofCodes_toNat]
  have hfront : skipBlanks (blanks ++ inQuotes s rest) = inQuotes s rest := by
    rw [skipBlanks_append hblanks]
    rfl
  unfold readValue
  rw [hfront]
  cases depth <;> exact hscalar

/-! ### Fields -/

/-- The blanks around the parts of a field. -/
structure Spacing where
  beforeName : List Char
  afterName : List Char
  beforeValue : List Char
  afterValue : List Char
  blank : Blanks beforeName ∧ Blanks afterName ∧ Blanks beforeValue ∧ Blanks afterValue

/-- A field, name and value in quotes, and what follows it. -/
def fieldText (w : Spacing) (f : String × String) (rest : List Char) : List Char :=
  w.beforeName ++ inQuotes f.1 (w.afterName ++ ':' ::
    (w.beforeValue ++ inQuotes f.2 (w.afterValue ++ rest)))

/-- Fields up to the brace that closes their object. -/
inductive FieldsText : List (String × String) → List Char → Prop
  | last (w : Spacing) (f : String × String) : FieldsText [f] (fieldText w f ['\x7d'])
  | more (w : Spacing) (f : String × String) {fs : List (String × String)} {cs : List Char}
    (rest : FieldsText fs cs) : FieldsText (f :: fs) (fieldText w f (',' :: cs))

/-- An object of texts. -/
inductive ObjectText : List (String × String) → List Char → Prop
  | empty {blanks : List Char} (h : Blanks blanks) : ObjectText [] ('\x7b' :: (blanks ++ ['\x7d']))
  | fields {fs : List (String × String)} {cs : List Char} (h : FieldsText fs cs) :
    ObjectText fs ('\x7b' :: cs)

/-- The fields of such an object. -/
def textFields (fs : List (String × String)) : List (String × Value) :=
  fs.map fun f => (f.1, .text f.2)

/-- Names and values that are written as they are. -/
def AreBare (fs : List (String × String)) : Prop :=
  ∀ f ∈ fs, (∀ c ∈ f.1.toList, IsBare c) ∧ ∀ c ∈ f.2.toList, IsBare c

/-- A field is read, and what is behind it tells whether another follows. -/
theorem readFields_fieldText {f : String × String}
    (hf : (∀ c ∈ f.1.toList, IsBare c) ∧ ∀ c ∈ f.2.toList, IsBare c) (w : Spacing)
    (fuel depth : Nat) (fields : List (String × Value)) (rest : List Char) :
    readFields (fuel + 2) depth fields (fieldText w f rest) =
      match skipBlanks rest with
      | ',' :: cs => readFields (fuel + 1) depth (Fields.set f.1 (.text f.2) fields) cs
      | '\x7d' :: cs => .ok (.object (Fields.set f.1 (.text f.2) fields), cs)
      | _ => .error .malformed := by
  obtain ⟨hbefore, hafter, hvalue, hbehind⟩ := w.blank
  have hname : skipBlanks (fieldText w f rest) = inQuotes f.1 (w.afterName ++ ':' ::
      (w.beforeValue ++ inQuotes f.2 (w.afterValue ++ rest))) := by
    rw [fieldText, skipBlanks_append hbefore]
    rfl
  have hcolon (cs : List Char) : skipBlanks (w.afterName ++ ':' :: cs) = ':' :: cs := by
    rw [skipBlanks_append hafter]
    rfl
  rw [readFields, hname, inQuotes]
  simp only [readCodes_bare hf.1, hcolon, readValue_inQuotes hf.2 hvalue,
    skipBlanks_append hbehind, ofCodes_toNat]
  rfl

/-- Every field takes one step, and the names that it meets are those before it. -/
theorem readFields_fieldsText {fs : List (String × String)} {cs : List Char}
    (h : FieldsText fs cs) (hbare : AreBare fs) {fields : List (String × Value)}
    (hnames : (fields.map (·.1) ++ fs.map (·.1)).Nodup) {fuel : Nat} (hfuel : fs.length ≤ fuel)
    (depth : Nat) :
    readFields (fuel + 1) depth fields cs = .ok (.object (fields ++ textFields fs), []) := by
  have hnew {f : String × String} {fs : List (String × String)}
      {fields : List (String × Value)} (h : (fields.map (·.1) ++ (f :: fs).map (·.1)).Nodup) :
      Fields.set f.1 (.text f.2) fields = fields ++ [(f.1, Value.text f.2)] := by
    obtain ⟨-, -, hdisjoint⟩ := List.nodup_append.1 h
    exact Fields.set_of_not_mem (fun hmem => hdisjoint _ hmem f.1 (by simp) rfl) _
  induction h generalizing fields fuel with
  | last w f =>
    obtain ⟨fuel, rfl⟩ := Nat.exists_eq_add_of_le' hfuel
    rw [List.length_singleton, readFields_fieldText (hbare f List.mem_cons_self), hnew hnames]
    rfl
  | @more w f fs cs rest ih =>
    rw [List.length_cons] at hfuel
    obtain ⟨fuel, rfl⟩ := Nat.exists_eq_add_of_le' (Nat.le_of_add_left_le hfuel)
    have hnames' : ((fields ++ [(f.1, Value.text f.2)]).map (·.1) ++ fs.map (·.1)).Nodup := by
      simpa using hnames
    have hrest : readFields (fuel + 1) depth (fields ++ [(f.1, Value.text f.2)]) cs =
        .ok (.object (fields ++ [(f.1, Value.text f.2)] ++ textFields fs), []) :=
      ih (fun g hg => hbare g (List.mem_cons_of_mem _ hg)) hnames' (by omega)
    rw [readFields_fieldText (hbare f List.mem_cons_self), hnew hnames]
    refine Eq.trans ?_ (hrest.trans ?_)
    · rfl
    · rw [List.append_assoc]
      rfl

/-- Each field takes more than one character, so there are enough steps for all of them. -/
theorem FieldsText.length_lt {fs : List (String × String)} {cs : List Char}
    (h : FieldsText fs cs) : fs.length < cs.length := by
  have hlonger (w : Spacing) (f : String × String) (rest : List Char) :
      rest.length < (fieldText w f rest).length := by
    simp only [fieldText, inQuotes, List.length_append, List.length_cons]
    omega
  induction h with
  | last w f => exact hlonger w f ['\x7d']
  | @more w f fs cs _ ih =>
    have := hlonger w f (',' :: cs)
    rw [List.length_cons] at this ⊢
    omega

theorem FieldsText.front {fs : List (String × String)} {cs : List Char} (h : FieldsText fs cs) :
    ∃ rest, skipBlanks cs = '\x22' :: rest := by
  have hfield (w : Spacing) (f : String × String) (rest : List Char) :
      ∃ behind, skipBlanks (fieldText w f rest) = '\x22' :: behind := by
    rw [fieldText, skipBlanks_append w.blank.1]
    exact ⟨_, rfl⟩
  cases h with
  | last w f => exact hfield w f _
  | more w f => exact hfield w f _

theorem skipBlanks_skipBlanks (cs : List Char) : skipBlanks (skipBlanks cs) = skipBlanks cs :=
  List.dropWhile_idempotent _ cs

theorem readFields_skipBlanks (fuel depth : Nat) (fields : List (String × Value))
    (cs : List Char) : readFields fuel depth fields (skipBlanks cs) =
      readFields fuel depth fields cs := by
  cases fuel with
  | zero => rfl
  | succ fuel => rw [readFields, readFields, skipBlanks_skipBlanks]

theorem readValue_brace (fuel depth : Nat) (cs : List Char) :
    readValue (fuel + 1) (depth + 1) ('\x7b' :: cs) = match skipBlanks cs with
      | '\x7d' :: cs => .ok (.object [], cs)
      | cs => readFields fuel depth [] cs := by
  rw [readValue.eq_def]
  rfl

/-- An object of texts is read back, if no name is given twice. -/
theorem readChars_objectText {fs : List (String × String)} {cs : List Char} (h : ObjectText fs cs)
    (hbare : AreBare fs) (hnames : (fs.map (·.1)).Nodup) :
    readChars cs = .ok (.object (textFields fs)) := by
  have hdepth : maxDepth = 979 + 1 := rfl
  cases h with
  | @empty blanks hblanks =>
    have hclosed : skipBlanks (blanks ++ ['\x7d']) = ['\x7d'] := by
      rw [skipBlanks_append hblanks]
      rfl
    rw [readChars, hdepth, readValue_brace, hclosed]
    rfl
  | @fields _ cs h =>
    obtain ⟨rest, hfront⟩ := h.front
    have hlength := h.length_lt
    have hvalue : readValue (2 * (cs.length + 1) + 2) (979 + 1) ('\x7b' :: cs) =
        readFields (2 * (cs.length + 1) + 1) 979 [] (skipBlanks cs) := by
      rw [readValue_brace, hfront]
      rfl
    rw [readChars, hdepth, List.length_cons, hvalue, readFields_skipBlanks,
      readFields_fieldsText h hbare (by simpa using hnames) (by omega)]
    rfl

/-! ### Writing -/

/-- Whatever is to be written can be written, without blanks. -/
theorem exists_objectText (fs : List (String × String)) : ∃ cs, ObjectText fs cs := by
  let tight : Spacing := ⟨[], [], [], [], rfl, rfl, rfl, rfl⟩
  have hfields (f : String × String) (fs : List (String × String)) :
      ∃ cs, FieldsText (f :: fs) cs := by
    induction fs generalizing f with
    | nil => exact ⟨_, .last tight f⟩
    | cons g fs ih =>
      obtain ⟨cs, h⟩ := ih g
      exact ⟨_, .more tight f h⟩
  cases fs with
  | nil => exact ⟨_, .empty (show Blanks [] from rfl)⟩
  | cons f fs =>
    obtain ⟨cs, h⟩ := hfields f fs
    exact ⟨_, .fields h⟩

/-- An object stands between its braces. -/
theorem ObjectText.braces {fs : List (String × String)} {cs : List Char} (h : ObjectText fs cs) :
    ∃ inside, cs = '\x7b' :: (inside ++ ['\x7d']) := by
  have hbehind (w : Spacing) (f : String × String) (rest : List Char) :
      fieldText w f rest = fieldText w f [] ++ rest := by
    simp [fieldText, inQuotes]
  cases h with
  | empty => exact ⟨_, rfl⟩
  | @fields _ cs h =>
    have hclosed : ∃ inside, cs = inside ++ ['\x7d'] := by
      induction h with
      | last w f => exact ⟨_, hbehind w f _⟩
      | @more w f _ cs _ ih =>
        obtain ⟨inside, rfl⟩ := ih
        exact ⟨fieldText w f [] ++ ',' :: inside, by rw [hbehind]; simp⟩
    obtain ⟨inside, rfl⟩ := hclosed
    exact ⟨inside, rfl⟩

end Json

end CurrencyLedger
