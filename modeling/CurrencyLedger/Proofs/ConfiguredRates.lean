import CurrencyLedger.Proofs.Literals
import CurrencyLedger.Proofs.ObjectTexts
import CurrencyLedger.Proofs.Splitting
import CurrencyLedger.Rate.Table
import Mathlib.Data.List.Induction
import Mathlib.Data.List.Nodup

/-!
Configured rates.

A configured text lists entries in one of two notations. Whatever it is, the table made of it has
each code once, with the value of the last usable entry for it; entries that are not usable might as
well not be there. Blanks do not tell texts apart, so a list of codes and rates makes the same table
in either notation.
-/

namespace CurrencyLedger

/-! ### Fields -/

/-- The names once one is set: it goes to the end unless it is there. -/
theorem Fields.names_set (name : String) (v : α) (fs : List (String × α)) :
    (set name v fs).map (·.1) =
      if name ∈ fs.map (·.1) then fs.map (·.1) else fs.map (·.1) ++ [name] := by
  induction fs with
  | nil => rfl
  | cons f fs ih =>
    obtain ⟨k, w⟩ := f
    rw [set]
    by_cases hk : k = name
    · simp [hk]
    · rw [if_neg hk, List.map_cons, ih]
      simp only [List.map_cons, List.mem_cons, Ne.symm hk, false_or]
      split_ifs <;> rfl

theorem Fields.nodup_set {name : String} {v : α} {fs : List (String × α)}
    (h : (fs.map (·.1)).Nodup) : ((set name v fs).map (·.1)).Nodup := by
  rw [names_set]
  split_ifs with hname
  · exact h
  · simpa only [List.concat_eq_append] using h.concat hname

theorem Fields.mem_names_iff {name : String} {fs : List (String × α)} :
    name ∈ fs.map (·.1) ↔ ∃ v, fs.lookup name = some v := by
  induction fs with
  | nil => simp
  | cons f fs ih =>
    obtain ⟨k, w⟩ := f
    rw [List.map_cons, List.mem_cons, ih, lookup_cons]
    split_ifs with hname
    · simp [hname]
    · simp [hname]

namespace Rate.Table

/-! ### Entries -/

/-- A usable rate: its trimmed text is a literal of a finite number above zero. -/
def Usable (rate : Value) (d : Decimal) : Prop :=
  Decimal.PositiveLiteral (Text.trim rate.plain) d

theorem usable?_eq_some {rate : Value} {d : Decimal} : usable? rate = some d ↔ Usable rate d := by
  rw [Usable, ← Decimal.ofText?_iff_positiveLiteral, usable?]
  cases Decimal.ofText? (Text.trim rate.plain) with
  | none => simp
  | some d' =>
    simp only [Option.ite_none_right_eq_some, Option.some.injEq]
    constructor
    · rintro ⟨hpositive, rfl⟩
      exact ⟨rfl, hpositive⟩
    · rintro ⟨rfl, hpositive⟩
      exact ⟨hpositive, rfl⟩

theorem usable?_eq_none {rate : Value} : usable? rate = none ↔ ¬∃ d, Usable rate d := by
  simp only [Option.eq_none_iff_forall_ne_some, ne_eq, usable?_eq_some, not_exists]

/-- The last usable rate for a code: no entry for it that comes later is usable. -/
def Stands (entries : List (String × Value)) (key : String) (d : Decimal) : Prop :=
  ∃ before code rate after, entries = before ++ (code, rate) :: after ∧
    configuredCode code = key ∧ Usable rate d ∧
      ∀ e ∈ after, configuredCode e.1 = key → ¬∃ d, Usable e.2 d

variable {entries : List (String × Value)} {e : String × Value} {key : String} {d : Decimal}

theorem not_stands_nil : ¬Stands [] key d := by
  rintro ⟨before, code, rate, after, h, -⟩
  exact absurd h (by simp)

theorem stands_iff : Stands entries key d ↔ ∃ before e after, entries = before ++ e :: after ∧
    (configuredCode e.1 = key ∧ Usable e.2 d) ∧
      ∀ e ∈ after, configuredCode e.1 = key → ¬∃ d, Usable e.2 d := by
  simp only [Stands, Prod.exists, and_assoc]

theorem stands_concat : Stands (entries ++ [e]) key d ↔
    (configuredCode e.1 = key ∧ Usable e.2 d) ∨
      (Stands entries key d ∧ (configuredCode e.1 = key → ¬∃ d, Usable e.2 d)) := by
  simp only [stands_iff]
  exact exists_last_concat

/-- If a code has a usable rate, it has a last one. -/
theorem exists_stands_iff : (∃ d, Stands entries key d) ↔
    ∃ e ∈ entries, configuredCode e.1 = key ∧ ∃ d, Usable e.2 d := by
  constructor
  · rintro ⟨d, before, code, rate, after, rfl, hcode, hrate, -⟩
    exact ⟨(code, rate), by simp, hcode, d, hrate⟩
  · induction entries using List.reverseRecOn with
    | nil => simp
    | append_singleton entries e ih =>
      rintro ⟨x, hx, hcode, hrate⟩
      simp only [stands_concat]
      by_cases hlast : configuredCode e.1 = key ∧ ∃ d, Usable e.2 d
      · obtain ⟨hlast, d, hd⟩ := hlast
        exact ⟨d, .inl ⟨hlast, hd⟩⟩
      · have hx' : x ∈ entries := by
          rcases List.mem_append.1 hx with hx | hx
          · exact hx
          · rw [List.mem_singleton.1 hx] at hcode hrate
            exact absurd ⟨hcode, hrate⟩ hlast
        obtain ⟨d, hd⟩ := ih ⟨x, hx', hcode, hrate⟩
        exact ⟨d, .inr ⟨hd, fun h hrate => hlast ⟨h, hrate⟩⟩⟩

/-! ### Tables -/

theorem ofPairs_concat (entries : List (String × Value)) (e : String × Value) :
    ofPairs (entries ++ [e]) = (ofPairs entries).put (configuredCode e.1) e.2 :=
  List.foldl_concat ..

theorem put_of_unusable {rate : Value} (h : usable? rate = none) (table : Table) (code : String) :
    table.put code rate = table := by
  rw [put, h]

theorem lookup_put {rate : Value} (h : usable? rate = some d) (table : Table) (code : String) :
    (table.put code rate).lookup key =
      if code = key ∧ key ≠ "" then some d else table.lookup key := by
  rw [put, h]
  dsimp only
  split_ifs with hempty heq heq
  · exact absurd hempty (heq.1 ▸ heq.2)
  · rfl
  · rw [Fields.lookup_set, if_pos heq.1.symm]
  · rw [Fields.lookup_set, if_neg]
    rintro rfl
    exact heq ⟨rfl, hempty⟩

theorem nodup_ofPairs (entries : List (String × Value)) :
    ((ofPairs entries).map (·.1)).Nodup := by
  induction entries using List.reverseRecOn with
  | nil => exact List.nodup_nil
  | append_singleton entries e ih =>
    rw [ofPairs_concat, put]
    split
    · split_ifs
      · exact ih
      · exact Fields.nodup_set ih
    · exact ih

/-- Of each code the table has the last usable rate, and it has nothing else. -/
theorem lookup_ofPairs (entries : List (String × Value)) (key : String) (d : Decimal) :
    (ofPairs entries).lookup key = some d ↔ key ≠ "" ∧ Stands entries key d := by
  induction entries using List.reverseRecOn generalizing d with
  | nil => simp [ofPairs, not_stands_nil]
  | append_singleton entries e ih =>
    rw [ofPairs_concat, stands_concat, ← usable?_eq_some, ← usable?_eq_none]
    cases hrate : usable? e.2 with
    | none => simp [put_of_unusable hrate, ih]
    | some d' =>
      rw [lookup_put hrate]
      split_ifs with heq
      · simp [heq]
      · rw [ih]
        refine and_congr_right fun hkey => ?_
        have hcode : configuredCode e.1 ≠ key := fun h => heq ⟨h, hkey⟩
        simp [hcode]

/-- What a table keeps of some entries. -/
structure Keeps (entries : List (String × Value)) (table : Table) : Prop where
  nodup : (table.map (·.1)).Nodup
  /-- A code is there if it is not empty and has a usable rate. -/
  codes : ∀ key, key ∈ table.map (·.1) ↔
    key ≠ "" ∧ ∃ e ∈ entries, configuredCode e.1 = key ∧ ∃ d, Usable e.2 d
  /-- Its rate is the last usable one. -/
  rates : ∀ key d, table.lookup key = some d ↔ key ≠ "" ∧ Stands entries key d
  /-- Without an unusable entry the table is the same. -/
  unusable : ∀ before e after, entries = before ++ e :: after → (¬∃ d, Usable e.2 d) →
    ofPairs (before ++ after) = table

theorem keeps_ofPairs (entries : List (String × Value)) : Keeps entries (ofPairs entries) where
  nodup := nodup_ofPairs entries
  codes key := by
    simp only [Fields.mem_names_iff, lookup_ofPairs, exists_and_left, exists_stands_iff]
  rates := lookup_ofPairs entries
  unusable before e after h he := by
    rw [h, ofPairs, ofPairs, List.foldl_append, List.foldl_append, List.foldl_cons,
      put_of_unusable (usable?_eq_none.2 he)]

/-! ### The comma notation -/

/-- The entry in a piece of the comma notation: a code, a colon and a rate, or else nothing. -/
inductive Piece : List Char → List (String × Value) → Prop
  | pair {code rate : List Char} (h : ':' ∉ code) :
    Piece (code ++ ':' :: rate) [(String.ofList code, .text (String.ofList rate))]
  | bare {cs : List Char} (h : ':' ∉ cs) : Piece cs []

/-- The entries in pieces with commas between them. -/
inductive Pieces : List Char → List (String × Value) → Prop
  | last {cs : List Char} {es : List (String × Value)} (h : ',' ∉ cs) (piece : Piece cs es) :
    Pieces cs es
  | more {cs rest : List Char} {es es' : List (String × Value)} (h : ',' ∉ cs)
    (piece : Piece cs es) (pieces : Pieces rest es') : Pieces (cs ++ ',' :: rest) (es ++ es')

/-- The entry that is read of a piece. -/
def entryOf? (cs : List Char) : Option (String × Value) := readPair? (String.ofList cs)

/-- The entries that are read of a text in the comma notation. -/
def commaEntries (cs : List Char) : List (String × Value) :=
  (Text.splitList ',' cs).filterMap entryOf?

theorem entryOf?_append {code : List Char} (h : ':' ∉ code) (rate : List Char) :
    entryOf? (code ++ ':' :: rate) =
      some (String.ofList code, .text (String.ofList rate)) := by
  rw [entryOf?, readPair?, Text.cut, String.toList_ofList, Text.cutList_append h]
  rfl

theorem entryOf?_of_not_mem {cs : List Char} (h : ':' ∉ cs) : entryOf? cs = none := by
  rw [entryOf?, readPair?, Text.cut, String.toList_ofList, Text.cutList_of_not_mem h]
  rfl

theorem Piece.entry {cs : List Char} {es : List (String × Value)} (h : Piece cs es) :
    (entryOf? cs).toList = es := by
  cases h with
  | pair h => rw [entryOf?_append h, Option.toList_some]
  | bare h => rw [entryOf?_of_not_mem h, Option.toList_none]

theorem piece (cs : List Char) : Piece cs (entryOf? cs).toList := by
  by_cases h : ':' ∈ cs
  · obtain ⟨code, rate, rfl, hcode⟩ := List.eq_append_cons_of_mem h
    rw [entryOf?_append hcode]
    exact .pair hcode
  · rw [entryOf?_of_not_mem h]
    exact .bare h

theorem commaEntries_of_not_mem {cs : List Char} (h : ',' ∉ cs) :
    commaEntries cs = (entryOf? cs).toList := by
  rw [commaEntries, Text.splitList_of_not_mem h]
  cases hentry : entryOf? cs <;> simp [hentry]

theorem commaEntries_append {cs : List Char} (h : ',' ∉ cs) (rest : List Char) :
    commaEntries (cs ++ ',' :: rest) = (entryOf? cs).toList ++ commaEntries rest := by
  rw [commaEntries, Text.splitList_append h, commaEntries]
  cases hentry : entryOf? cs <;> simp [hentry]

theorem pieces (cs : List Char) : Pieces cs (commaEntries cs) := by
  by_cases h : ',' ∈ cs
  · obtain ⟨front, rest, hcs, hfront⟩ := List.eq_append_cons_of_mem h
    have hshorter : rest.length < cs.length := by
      rw [hcs, List.length_append, List.length_cons]
      omega
    rw [hcs, commaEntries_append hfront]
    exact .more hfront (piece front) (pieces rest)
  · rw [commaEntries_of_not_mem h]
    exact .last h (piece cs)
termination_by cs.length

/-- A text in the comma notation has the entries that are read of it, and no others. -/
theorem pieces_iff {cs : List Char} {es : List (String × Value)} :
    Pieces cs es ↔ commaEntries cs = es := by
  constructor
  · intro h
    induction h with
    | last h piece => rw [commaEntries_of_not_mem h, piece.entry]
    | more h piece _ ih => rw [commaEntries_append h, piece.entry, ih]
  · rintro rfl
    exact pieces cs

/-! ### Configured texts -/

/--
The entries of a trimmed text. The fields of an object have a name each: of a name that is written
twice, only the last value is one of them, at the place of the first. The comma notation gives an
entry for every piece, so there a code may have several.
-/
inductive Entries (raw : String) : List (String × Value) → Prop
  | object {fields : List (String × Value)} (brace : Text.beginsWith "\x7b" raw = true)
    (read : Json.read raw = .ok (.object fields)) : Entries raw fields
  | unreadable (brace : Text.beginsWith "\x7b" raw = true)
    (read : ∀ fields, Json.read raw ≠ .ok (.object fields))
    (depth : Json.read raw ≠ .error .tooDeep) : Entries raw []
  | commas {es : List (String × Value)} (brace : Text.beginsWith "\x7b" raw = false)
    (pieces : Pieces raw.toList es) : Entries raw es

theorem readPairs_of_commas {s : String} (h : Text.beginsWith "\x7b" (Text.trim s) = false) :
    readPairs s = .ok (commaEntries (Text.trim s).toList) := by
  rw [readPairs, h, if_neg Bool.false_ne_true, Text.split, List.filterMap_map]
  rfl

theorem readPairs_eq_ok {s : String} {es : List (String × Value)} :
    readPairs s = .ok es ↔ Entries (Text.trim s) es := by
  cases hbrace : Text.beginsWith "\x7b" (Text.trim s) with
  | false =>
    rw [readPairs_of_commas hbrace, Except.ok.injEq, ← pieces_iff]
    refine ⟨.commas hbrace, fun h => ?_⟩
    cases h with
    | object brace => exact absurd brace (by rw [hbrace]; decide)
    | unreadable brace => exact absurd brace (by rw [hbrace]; decide)
    | commas _ pieces => exact pieces
  | true =>
    rw [readPairs, if_pos hbrace]
    constructor
    · intro h
      split at h
      · cases h
        exact .object hbrace ‹_›
      · cases h
      · rename_i hobject hdeep
        cases h
        exact .unreadable hbrace hobject hdeep
    · intro h
      cases h with
      | object _ read => rw [read]
      | unreadable _ read depth =>
        split
        · exact absurd ‹_› (read _)
        · exact absurd ‹_› depth
        · rfl
      | commas brace => exact absurd hbrace (by rw [brace]; decide)

/-- Every text has entries, unless it is an object that is nested too deep. -/
theorem exists_entries {s : String} (h : Text.beginsWith "\x7b" (Text.trim s) = true →
    Json.read (Text.trim s) ≠ .error .tooDeep) : ∃ es, Entries (Text.trim s) es := by
  cases hbrace : Text.beginsWith "\x7b" (Text.trim s) with
  | false => exact ⟨_, readPairs_eq_ok.1 (readPairs_of_commas hbrace)⟩
  | true =>
    by_cases hobject : ∃ fields, Json.read (Text.trim s) = .ok (.object fields)
    · obtain ⟨fields, hread⟩ := hobject
      exact ⟨fields, .object hbrace hread⟩
    · exact ⟨[], .unreadable hbrace (not_exists.1 hobject) (h hbrace)⟩

theorem ofConfiguration_of_entries {s : String} (h : Entries (Text.trim s) entries) :
    ofConfiguration s = .ok (ofPairs entries) := by
  rw [ofConfiguration, readPairs_eq_ok.2 h]
  rfl

/-! ### Blanks -/

/-- All that a table takes from an entry: its code as it is stored, and its rate if it is usable. -/
def taken (e : String × Value) : String × Option Decimal := (configuredCode e.1, usable? e.2)

/-- Enters what was taken from an entry. -/
def enter (table : Table) (p : String × Option Decimal) : Table :=
  match p.2 with
  | some d => if p.1 = "" then table else Fields.set p.1 d table
  | none => table

theorem put_eq_enter (table : Table) (e : String × Value) :
    table.put (configuredCode e.1) e.2 = table.enter (taken e) := by
  unfold put enter taken
  cases usable? e.2 <;> rfl

theorem ofPairs_congr {es es' : List (String × Value)} (h : es.map taken = es'.map taken) :
    ofPairs es = ofPairs es' := by
  have htaken (es : List (String × Value)) : ofPairs es = (es.map taken).foldl enter [] := by
    simp only [ofPairs, put_eq_enter, List.foldl_map]
  rw [htaken, htaken, h]

theorem ne_of_isBlank {c d : Char} (hc : Text.isBlank c = true) (hd : Text.isBlank d = false) :
    d ≠ c := by
  rintro rfl
  rw [hd] at hc
  cases hc

theorem taken_entryOf?_cons {c : Char} (hc : Text.isBlank c = true) (cs : List Char) :
    (entryOf? (c :: cs)).map taken = (entryOf? cs).map taken := by
  have hcolon : ':' ≠ c := ne_of_isBlank hc (by decide)
  by_cases h : ':' ∈ cs
  · obtain ⟨code, rate, rfl, hcode⟩ := List.eq_append_cons_of_mem h
    have hcode' : ':' ∉ c :: code := List.not_mem_cons_of_ne_of_not_mem hcolon hcode
    rw [← List.cons_append, entryOf?_append hcode', entryOf?_append hcode]
    simp only [Option.map_some, taken, configuredCode, Text.trim, String.toList_ofList,
      Text.trimBy_cons hc]
  · rw [entryOf?_of_not_mem h,
      entryOf?_of_not_mem (List.not_mem_cons_of_ne_of_not_mem hcolon h)]

theorem taken_entryOf?_concat {c : Char} (hc : Text.isBlank c = true) (cs : List Char) :
    (entryOf? (cs ++ [c])).map taken = (entryOf? cs).map taken := by
  have hcolon : ':' ≠ c := ne_of_isBlank hc (by decide)
  by_cases h : ':' ∈ cs
  · obtain ⟨code, rate, rfl, hcode⟩ := List.eq_append_cons_of_mem h
    rw [List.append_assoc, List.cons_append, entryOf?_append hcode, entryOf?_append hcode]
    simp only [Option.map_some, taken, usable?, Value.plain, Text.trim, String.toList_ofList,
      Text.trimBy_concat hc]
  · rw [entryOf?_of_not_mem h, entryOf?_of_not_mem (by simp [h, hcolon])]

/-- Blanks around a text in the comma notation are blanks around its codes and rates. -/
theorem taken_commaEntries_trimBy (cs : List Char) :
    (commaEntries (Text.trimBy Text.isBlank cs)).map taken = (commaEntries cs).map taken := by
  have htaken (cs : List Char) : (commaEntries cs).map taken =
      (Text.splitList ',' cs).filterMap fun p => (entryOf? p).map taken := List.map_filterMap
  refine Text.eq_of_trimBy (f := fun cs => (commaEntries cs).map taken) ?_ ?_ cs
  · intro c cs hc
    have hcomma : c ≠ ',' := (ne_of_isBlank hc (by decide)).symm
    obtain ⟨p, ps, hsplit⟩ := List.exists_cons_of_ne_nil (Text.splitList_ne_nil ',' cs)
    have hcons : Text.splitList ',' (c :: cs) = (c :: p) :: ps := by
      rw [Text.splitList, if_neg hcomma, hsplit]
    simp only [htaken, hsplit, hcons, List.filterMap_cons, taken_entryOf?_cons hc]
  · intro cs c hc
    have hcomma : c ≠ ',' := (ne_of_isBlank hc (by decide)).symm
    obtain ⟨front, last, hcs, hconcat⟩ := Text.splitList_concat hcomma cs
    simp only [htaken, hcs, hconcat, List.filterMap_append, List.filterMap_cons,
      taken_entryOf?_concat hc]

/-! ### Lists of codes and rates -/

/-- Codes and rates in the comma notation. -/
def commaText (pairs : List (String × String)) : String :=
  ",".intercalate (pairs.map fun p => p.1 ++ ":" ++ p.2)

/-- A character that has no meaning of its own in either notation. -/
structure IsPlain (c : Char) : Prop extends Json.IsBare c where
  comma : c ≠ ','
  colon : c ≠ ':'

instance : DecidablePred IsPlain := fun c =>
  decidable_of_iff (c ≠ '\x22' ∧ c ≠ '\\' ∧ 32 ≤ c.toNat ∧ c ≠ ',' ∧ c ≠ ':')
    ⟨fun ⟨quote, backslash, control, comma, colon⟩ =>
      ⟨⟨quote, backslash, control⟩, comma, colon⟩,
      fun h => ⟨h.quote, h.backslash, h.control, h.comma, h.colon⟩⟩

/-- Codes and rates that can be written in either notation. -/
structure IsPlainList (pairs : List (String × String)) : Prop where
  codes : (pairs.map (·.1)).Nodup
  chars : ∀ p ∈ pairs, (∀ c ∈ p.1.toList, IsPlain c) ∧ ∀ c ∈ p.2.toList, IsPlain c
  /-- The first code does not make the list look like an object. -/
  front : ∀ p ∈ pairs.head?, Text.beginsWith "\x7b" (Text.trim p.1) = false

variable {pairs : List (String × String)}

theorem toList_commaText (pairs : List (String × String)) : (commaText pairs).toList =
    [','].intercalate (pairs.map fun p => p.1.toList ++ ':' :: p.2.toList) := by
  rw [commaText, String.toList_intercalate, List.map_map]
  have hpiece : (String.toList ∘ fun p : String × String => p.1 ++ ":" ++ p.2) =
      fun p => p.1.toList ++ ':' :: p.2.toList := by
    funext p
    simp [String.toList_append]
  rw [hpiece]
  rfl

theorem commaEntries_commaText (h : IsPlainList pairs) :
    commaEntries (commaText pairs).toList = Json.textFields pairs := by
  have hcomma : ∀ p ∈ pairs, ',' ∉ p.1.toList ++ ':' :: p.2.toList := by
    intro p hp
    obtain ⟨hcode, hrate⟩ := h.chars p hp
    rw [List.mem_append, List.mem_cons]
    rintro (hc | hc | hc)
    · exact (hcode _ hc).comma rfl
    · exact absurd hc (by decide)
    · exact (hrate _ hc).comma rfl
  have hentry : ∀ p ∈ pairs, (entryOf? ∘ fun p : String × String =>
      p.1.toList ++ ':' :: p.2.toList) p = some (p.1, .text p.2) := by
    intro p hp
    rw [Function.comp, entryOf?_append fun hc => ((h.chars p hp).1 _ hc).colon rfl,
      String.ofList_toList, String.ofList_toList]
  rw [toList_commaText, commaEntries, Json.textFields]
  by_cases hne : pairs = []
  · rw [hne]
    rfl
  · rw [Text.splitList_intercalate (by simpa using hne)
      (by simpa only [List.forall_mem_map] using hcomma), List.filterMap_map,
      List.filterMap_congr hentry, List.filterMap_eq_map']

/-- The first code is the front of the text, so the text does not look like an object either. -/
theorem beginsWith_commaText (h : IsPlainList pairs) :
    Text.beginsWith "\x7b" (Text.trim (commaText pairs)) = false := by
  have hhead (s : String) : Text.beginsWith "\x7b" (Text.trim s) = true ↔
      (s.toList.dropWhile Text.isBlank).head? = some '\x7b' := by
    rw [← Text.head?_trimBy, ← String.toList_ofList (l := Text.trimBy Text.isBlank s.toList)]
    exact Text.beginsWith_iff_head? rfl
  rw [← Bool.not_eq_true, hhead, toList_commaText]
  cases pairs with
  | nil => decide
  | cons p pairs =>
    have hfront := h.front p rfl
    rw [← Bool.not_eq_true, hhead] at hfront
    -- A colon stops the blanks, if no character of the code does.
    have hcolon (rest : List Char) :
        ((p.1.toList ++ ':' :: rest).dropWhile Text.isBlank).head? ≠ some '\x7b' := by
      rw [List.dropWhile_append]
      split_ifs with hblank
      · rw [List.dropWhile_cons_of_neg (by decide)]
        simp
      · obtain ⟨c, cs, hcs⟩ := List.exists_cons_of_ne_nil (mt List.isEmpty_iff.2 hblank)
        rw [hcs] at hfront ⊢
        exact hfront
    cases pairs with
    | nil =>
      rw [List.map_singleton, List.intercalate_singleton]
      exact hcolon _
    | cons q pairs =>
      rw [List.map_cons, List.map_cons, List.intercalate_cons_cons, List.append_assoc,
        List.append_assoc, List.cons_append]
      exact hcolon _

theorem ofConfiguration_commaText (h : IsPlainList pairs) :
    ofConfiguration (commaText pairs) = .ok (ofPairs (Json.textFields pairs)) := by
  have hentries := readPairs_eq_ok.1 (readPairs_of_commas (beginsWith_commaText h))
  rw [ofConfiguration_of_entries hentries, ← commaEntries_commaText h, Text.trim,
    String.toList_ofList, ofPairs_congr (taken_commaEntries_trimBy _)]

theorem ofConfiguration_objectText (h : IsPlainList pairs) {s : String}
    (hs : Json.ObjectText pairs (Text.trim s).toList) :
    ofConfiguration s = .ok (ofPairs (Json.textFields pairs)) := by
  have hbare : Json.AreBare pairs := fun p hp =>
    ⟨fun c hc => ((h.chars p hp).1 c hc).toIsBare, fun c hc => ((h.chars p hp).2 c hc).toIsBare⟩
  have hbrace : Text.beginsWith "\x7b" (Text.trim s) = true := by
    rw [Text.beginsWith_iff_head? rfl]
    generalize (Text.trim s).toList = cs at hs
    cases hs <;> rfl
  have hread : Json.read (Text.trim s) = .ok (.object (Json.textFields pairs)) := by
    rw [Json.read, Json.readChars_objectText hs hbare h.codes]
  exact ofConfiguration_of_entries (.object hbrace hread)

theorem exists_object (pairs : List (String × String)) :
    ∃ s, Json.ObjectText pairs (Text.trim s).toList := by
  obtain ⟨cs, h⟩ := Json.exists_objectText pairs
  obtain ⟨inside, rfl⟩ := h.braces
  refine ⟨String.ofList ('\x7b' :: (inside ++ ['\x7d'])), ?_⟩
  rwa [Text.trim, String.toList_ofList, String.toList_ofList,
    Text.trimBy_between (by decide) (by decide)]

/--
A configured text has entries, unless it is an object nested too deep, and its table keeps of each
code the last usable rate. A list of codes and rates makes one table, whichever notation it is
written in.
-/
theorem last_usable_rates_stand :
    (∀ s, (Text.beginsWith "\x7b" (Text.trim s) = true →
        Json.read (Text.trim s) ≠ .error .tooDeep) →
      ∃ entries table, (∀ es, Entries (Text.trim s) es ↔ es = entries) ∧
        ofConfiguration s = .ok table ∧ Keeps entries table) ∧
    ∀ pairs, IsPlainList pairs →
      (∃ s, Json.ObjectText pairs (Text.trim s).toList) ∧
        ∀ s, Json.ObjectText pairs (Text.trim s).toList →
          ofConfiguration s = ofConfiguration (commaText pairs) := by
  refine ⟨fun s hs => ?_, fun pairs hplain => ⟨exists_object pairs, fun s hs => ?_⟩⟩
  · obtain ⟨entries, hentries⟩ := exists_entries hs
    refine ⟨entries, ofPairs entries, fun es => ?_, ofConfiguration_of_entries hentries,
      keeps_ofPairs entries⟩
    rw [← readPairs_eq_ok, readPairs_eq_ok.2 hentries, Except.ok.injEq, eq_comm]
  · rw [ofConfiguration_objectText hplain hs, ofConfiguration_commaText hplain]

/-- The dollar at one and the euro at nine tenths. -/
def twoRates : List (String × String) := [(" usd", "1"), ("eur", " 0.9")]

/-- The same, with a blank here and there. -/
def twoRatesObject : String := "\x7b\" usd\": \"1\" ,\"eur\":\" 0.9\"\x7d "

theorem two_rates_stand :
    ofConfiguration "usd:2,eur,usd:1,EUR: 0.9 ,usd:x" =
        .ok [("USD", .finite false 1 0), ("EUR", .finite false 9 (-1))] ∧
      (∃ entries, Keeps entries [("USD", .finite false 1 0), ("EUR", .finite false 9 (-1))]) ∧
      IsPlainList twoRates ∧ Json.ObjectText twoRates (Text.trim twoRatesObject).toList ∧
      ofConfiguration twoRatesObject = ofConfiguration (commaText twoRates) := by
  obtain ⟨hkeeps, hsame⟩ := last_usable_rates_stand
  have htable : ofConfiguration "usd:2,eur,usd:1,EUR: 0.9 ,usd:x" =
      .ok [("USD", .finite false 1 0), ("EUR", .finite false 9 (-1))] := by decide +kernel
  obtain ⟨entries, table, -, hread, hkept⟩ := hkeeps "usd:2,eur,usd:1,EUR: 0.9 ,usd:x"
    fun hbrace => absurd hbrace (by decide)
  obtain rfl := Except.ok.inj (hread.symm.trans htable)
  have hpairs : twoRates.Forall fun p => p.1.toList.Forall IsPlain ∧ p.2.toList.Forall IsPlain := by
    decide
  have hplain : IsPlainList twoRates :=
    ⟨by decide, fun p hp => (List.forall_iff_forall_mem.1 hpairs p hp).imp
      List.forall_iff_forall_mem.1 List.forall_iff_forall_mem.1, by decide⟩
  let loose : Json.Spacing := ⟨[], [], [' '], [' '], rfl, rfl, rfl, rfl⟩
  let tight : Json.Spacing := ⟨[], [], [], [], rfl, rfl, rfl, rfl⟩
  have hobject : Json.ObjectText twoRates (Text.trim twoRatesObject).toList := by
    have hchars : (Text.trim twoRatesObject).toList = '\x7b' :: Json.fieldText loose (" usd", "1")
        (',' :: Json.fieldText tight ("eur", " 0.9") ['\x7d']) := by decide
    rw [hchars]
    exact .fields (.more loose _ (.last tight _))
  exact ⟨htable, ⟨entries, hkept⟩, hplain, hobject, (hsame _ hplain).2 _ hobject⟩

end Rate.Table

end CurrencyLedger
