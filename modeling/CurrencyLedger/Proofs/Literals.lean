import CurrencyLedger.Proofs.DecimalText
import Mathlib.Data.List.TakeWhile

/-!
Literals of decimals.

A literal is a sign, digits with an optional point among or around them, and an optional exponent;
digits of any script count, and underscores do not. A text is read as a positive decimal exactly
when it is such a literal within the span of exponents, and then nothing of it is rounded.
-/

namespace CurrencyLedger

namespace Text

/-- Nothing but digits. -/
def AreDigits (ds : List Char) : Prop := ∀ c ∈ ds, c.isDigit = true

/-- The number that digits spell. -/
def digitsValue (ds : List Char) : Nat := ofDigits (ds.map fun c => c.toNat - 48)

/-- A sign, and whether it is a minus. -/
inductive Sign : List Char → Bool → Prop
  | none : Sign [] false
  | plus : Sign ['+'] false
  | minus : Sign ['-'] true

/-- An exponent: nothing, or a letter, a sign and digits. -/
inductive Exponent : List Char → Int → Prop
  | none : Exponent [] 0
  | power {mark : Char} {sign ds : List Char} {negative : Bool} (hmark : mark = 'e' ∨ mark = 'E')
    (hsign : Sign sign negative) (hds : AreDigits ds) (hne : ds ≠ []) :
    Exponent (mark :: (sign ++ ds)) (signed negative (digitsValue ds))

/-- A number without sign, as its coefficient and its power of ten. -/
inductive Numeral : List Char → Nat → Int → Prop
  | whole {ds tail : List Char} {e : Int} (hds : AreDigits ds) (hne : ds ≠ [])
    (htail : Exponent tail e) : Numeral (ds ++ tail) (digitsValue ds) e
  | pointed {ds fs tail : List Char} {e : Int} (hds : AreDigits ds) (hfs : AreDigits fs)
    (hne : ds ++ fs ≠ []) (htail : Exponent tail e) :
    Numeral (ds ++ '.' :: (fs ++ tail)) (digitsValue (ds ++ fs)) (e - fs.length)

/-! ### Parts -/

theorem splitSign_append {sign rest : List Char} {negative : Bool} (h : Sign sign negative)
    (hrest : ∀ c ∈ rest.head?, c ≠ '+' ∧ c ≠ '-') :
    splitSign (sign ++ rest) = (negative, rest) := by
  cases h with
  | plus => rfl
  | minus => rfl
  | none =>
    cases rest with
    | nil => rfl
    | cons c rest =>
      obtain ⟨hplus, hminus⟩ := hrest c rfl
      rw [List.nil_append, splitSign]
      · rintro _ ⟨⟩
        exact hminus rfl
      · rintro _ ⟨⟩
        exact hplus rfl

/-- Every text is a sign, perhaps an empty one, and something behind it. -/
theorem exists_sign (cs : List Char) : ∃ sign negative rest, Sign sign negative ∧
    cs = sign ++ rest ∧ splitSign cs = (negative, rest) := by
  unfold splitSign
  split
  · exact ⟨['-'], true, _, .minus, rfl, rfl⟩
  · exact ⟨['+'], false, _, .plus, rfl, rfl⟩
  · exact ⟨[], false, _, .none, rfl, rfl⟩

theorem AreDigits.head {ds : List Char} (h : AreDigits ds) :
    ∀ c ∈ ds.head?, c ≠ '+' ∧ c ≠ '-' := by
  intro c hc
  have hdigit := h c (List.mem_of_mem_head? hc)
  constructor <;> rintro rfl <;> exact absurd hdigit (by decide)

/-- Every text is a run of digits, perhaps an empty one, and what does not go on with it. -/
theorem exists_digits (cs : List Char) : ∃ ds rest, AreDigits ds ∧ cs = ds ++ rest ∧
    (∀ c ∈ rest.head?, c.isDigit = false) ∧
      spanDigits cs = (ds.map fun c => c.toNat - 48, rest) := by
  refine ⟨cs.takeWhile Char.isDigit, cs.dropWhile Char.isDigit,
    fun c hc => List.mem_takeWhile_imp hc, List.takeWhile_append_dropWhile.symm, ?_, rfl⟩
  intro c hc
  have := List.head?_dropWhile_not Char.isDigit cs
  rw [Option.mem_def.1 hc] at this
  exact this

theorem Exponent.head {tail : List Char} {e : Int} (h : Exponent tail e) :
    ∀ c ∈ tail.head?, c.isDigit = false ∧ c ≠ '.' := by
  cases h with
  | none => simp
  | power hmark =>
    rintro c ⟨⟩
    rcases hmark with rfl | rfl <;> decide

theorem readExponent?_eq_some {cs : List Char} {e : Int} :
    readExponent? cs = some e ↔ Exponent cs e := by
  constructor
  · intro h
    cases cs with
    | nil =>
      cases h
      exact .none
    | cons mark cs =>
      obtain ⟨sign, negative, body, hsign, rfl, hsplit⟩ := exists_sign cs
      obtain ⟨ds, rest, hds, rfl, -, hspan⟩ := exists_digits body
      simp only [readExponent?, hsplit, hspan, List.isEmpty_map, Option.ite_none_right_eq_some,
        Option.ite_none_left_eq_some] at h
      obtain ⟨hmark, hwhole, h⟩ := h
      simp only [Bool.or_eq_true, Bool.not_eq_true', not_or, Bool.not_eq_false,
        List.isEmpty_iff] at hwhole
      obtain ⟨hne, rfl⟩ := hwhole
      obtain rfl := Option.some.inj h
      rw [List.append_nil]
      exact .power (by simpa using hmark) hsign hds hne
  · intro h
    cases h with
    | none => rfl
    | @power mark sign ds negative hmark hsign hds hne =>
      have hspan : spanDigits (ds ++ []) = (ds.map fun c => c.toNat - 48, []) :=
        spanDigits_append hds (by simp)
      rw [List.append_nil] at hspan
      have hmark' : (mark == 'e' || mark == 'E') = true := by
        rcases hmark with rfl | rfl <;> rfl
      simp only [readExponent?, hmark', splitSign_append hsign hds.head, hspan]
      simp [hne, signed, digitsValue]

section

variable {ds fs tail : List Char}

theorem readNumber?_whole (hds : AreDigits ds)
    (htail : ∀ c ∈ tail.head?, c.isDigit = false ∧ c ≠ '.') :
    readNumber? (ds ++ tail) =
      if ds = [] then none else (readExponent? tail).map fun e => (digitsValue ds, e) := by
  rw [readNumber?, spanDigits_append hds fun c hc => (htail c hc).1]
  cases tail with
  | nil => simp [readExponent?, digitsValue]
  | cons c tail =>
    have hpoint : c ≠ '.' := (htail c rfl).2
    cases hread : readExponent? (c :: tail) <;> simp [hpoint, digitsValue, hread]

theorem readNumber?_pointed (hds : AreDigits ds) (hfs : AreDigits fs)
    (htail : ∀ c ∈ tail.head?, c.isDigit = false) :
    readNumber? (ds ++ '.' :: (fs ++ tail)) = if ds ++ fs = [] then none
      else (readExponent? tail).map fun e : Int =>
        (digitsValue (ds ++ fs), e - fs.length) := by
  have hwhole : spanDigits (ds ++ '.' :: (fs ++ tail)) =
      (ds.map fun c => c.toNat - 48, '.' :: (fs ++ tail)) := spanDigits_append hds (by simp)
  simp only [readNumber?, hwhole, spanDigits_append hfs htail]
  cases readExponent? tail with
  | none => simp
  | some e => simp [digitsValue]

end

theorem readNumber?_eq_some {cs : List Char} {c : Nat} {e : Int} :
    readNumber? cs = some (c, e) ↔ Numeral cs c e := by
  constructor
  · intro h
    obtain ⟨ds, rest, hds, rfl, hrest, -⟩ := exists_digits cs
    by_cases hpoint : ∃ behind, rest = '.' :: behind
    · obtain ⟨behind, rfl⟩ := hpoint
      obtain ⟨fs, tail, hfs, rfl, htail, -⟩ := exists_digits behind
      rw [readNumber?_pointed hds hfs htail, Option.ite_none_left_eq_some] at h
      obtain ⟨hne, h⟩ := h
      obtain ⟨e, he, hce⟩ := Option.map_eq_some_iff.1 h
      cases hce
      exact .pointed hds hfs hne (readExponent?_eq_some.1 he)
    · have hrest' : ∀ c ∈ rest.head?, c.isDigit = false ∧ c ≠ '.' := by
        intro c hc
        refine ⟨hrest c hc, ?_⟩
        rintro rfl
        exact hpoint ⟨_, (List.head?_eq_some_iff.1 hc).choose_spec⟩
      rw [readNumber?_whole hds hrest', Option.ite_none_left_eq_some] at h
      obtain ⟨hne, h⟩ := h
      obtain ⟨e, he, hce⟩ := Option.map_eq_some_iff.1 h
      cases hce
      exact .whole hds hne (readExponent?_eq_some.1 he)
  · intro h
    cases h with
    | whole hds hne htail =>
      rw [readNumber?_whole hds htail.head, if_neg hne, readExponent?_eq_some.2 htail]
      rfl
    | pointed hds hfs hne htail =>
      rw [readNumber?_pointed hds hfs fun c hc => (htail.head c hc).1, if_neg hne,
        readExponent?_eq_some.2 htail]
      rfl

/-- A number begins with a digit or with a point. -/
theorem Numeral.head {cs : List Char} {c : Nat} {e : Int} (h : Numeral cs c e) :
    ∃ d rest, cs = d :: rest ∧ (d.isDigit = true ∨ d = '.') := by
  cases h with
  | @whole ds tail _ hds hne htail =>
    obtain ⟨d, ds, rfl⟩ := List.exists_cons_of_ne_nil hne
    exact ⟨d, ds ++ tail, rfl, .inl (hds d List.mem_cons_self)⟩
  | @pointed ds fs tail _ hds =>
    cases ds with
    | nil => exact ⟨'.', fs ++ tail, rfl, .inr rfl⟩
    | cons d ds => exact ⟨d, _, rfl, .inl (hds d List.mem_cons_self)⟩

end Text

namespace Decimal

open Text

/-- A literal of a positive decimal. -/
inductive PositiveLiteral (s : String) : Decimal → Prop
  | mk {sign body : List Char} {c : Nat} {e : Int}
    (hs : asciiDigits (dropUnderscores (trimBy isBlank s.toList)) = sign ++ body)
    (hsign : Sign sign false) (hbody : Numeral body c e) (hspan : representable c e = true)
    (hpos : 0 < c) : PositiveLiteral s (.finite false c e)

theorem readSpecial?_of_numeral {body : List Char} {c : Nat} {e : Int} (h : Numeral body c e)
    (negative : Bool) : readSpecial? negative body = none := by
  obtain ⟨d, rest, rfl, hd | rfl⟩ := h.head
  · exact readSpecial?_of_isDigit negative hd rest
  · rfl

theorem not_isPositive_of_readSpecial? {negative : Bool} {body : List Char} {d : Decimal}
    (h : readSpecial? negative body = some d) : d.isPositive = false := by
  unfold readSpecial? at h
  split at h
  · obtain ⟨_, -, rfl⟩ := Option.map_eq_some_iff.1 h
    rfl
  · obtain ⟨_, -, rfl⟩ := Option.map_eq_some_iff.1 h
    rfl
  · cases h
    rfl
  · cases h
    rfl
  · cases h

/-- The positive decimals that are read are those of literals. -/
theorem ofText?_iff_positiveLiteral {s : String} {d : Decimal} :
    ofText? s = some d ∧ d.isPositive = true ↔ PositiveLiteral s d := by
  constructor
  · rintro ⟨h, hpositive⟩
    obtain ⟨sign, negative, body, hsign, hs, hsplit⟩ :=
      exists_sign (asciiDigits (dropUnderscores (trimBy isBlank s.toList)))
    simp only [ofText?, hsplit] at h
    cases hspecial : readSpecial? negative body with
    | some d' =>
      rw [hspecial] at h
      cases h
      rw [not_isPositive_of_readSpecial? hspecial] at hpositive
      cases hpositive
    | none =>
      rw [hspecial] at h
      simp only [readFinite?] at h
      split at h
      · rename_i c e hnumber
        rw [Option.ite_none_right_eq_some] at h
        obtain ⟨hspan, h⟩ := h
        cases h
        obtain ⟨_, _, hpos, ⟨⟩⟩ := isPositive_iff.1 hpositive
        exact .mk hs hsign (readNumber?_eq_some.1 hnumber) hspan hpos
      · cases h
  · intro h
    cases h with
    | @mk sign body c e hs hsign hbody hspan hpos =>
      have hhead : ∀ x ∈ body.head?, x ≠ '+' ∧ x ≠ '-' := by
        obtain ⟨d, rest, rfl, hd⟩ := hbody.head
        rintro _ ⟨⟩
        rcases hd with hd | rfl
        · constructor <;> rintro rfl <;> exact absurd hd (by decide)
        · decide
      refine ⟨?_, isPositive_iff.2 ⟨_, _, hpos, rfl⟩⟩
      simp only [ofText?, hs, splitSign_append hsign hhead, readSpecial?_of_numeral hbody,
        readFinite?, readNumber?_eq_some.2 hbody, hspan, if_true]

end Decimal

end CurrencyLedger
