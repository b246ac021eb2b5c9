import CurrencyLedger.Proofs.Literals

/-!
Literals of integers.

A literal of an integer is a sign and digits, of which two may have an underscore between them.
There may be blanks around it, digits of any script count, and there are not too many of them. A
text is read as an integer exactly if it is such a literal, and then as the number that its digits
spell.
-/

namespace CurrencyLedger.Text

/-- Digits, here and there with an underscore between two of them, and the digits alone. -/
inductive DigitGroups : List Char → List Char → Prop
  | single {c : Char} (hc : c.isDigit = true) : DigitGroups [c] [c]
  | digit {c : Char} {body ds : List Char} (hc : c.isDigit = true) (h : DigitGroups body ds) :
    DigitGroups (c :: body) (c :: ds)
  | underscore {c : Char} {body ds : List Char} (hc : c.isDigit = true) (h : DigitGroups body ds) :
    DigitGroups (c :: '_' :: body) (c :: ds)

/-- A literal of an integer. -/
inductive IntegerLiteral (s : String) : Int → Prop
  | mk {sign body ds : List Char} {negative : Bool}
    (hs : asciiDigits (trimBy isWhiteSpace s.toList) = sign ++ body) (hsign : Sign sign negative)
    (hbody : DigitGroups body ds) (hshort : ds.length ≤ maxIntegerDigits) :
    IntegerLiteral s (signed negative (digitsValue ds))

/-- The characters that a run of digit groups is made of. -/
def isGrouped (c : Char) : Bool := c.isDigit || c == '_'

section

variable {c : Char} {body ds : List Char}

/-- A digit is none of the other characters. -/
theorem ne_of_isDigit {d : Char} (h : c.isDigit = true) (hd : d.isDigit = false) : c ≠ d := by
  rintro rfl
  rw [h] at hd
  cases hd

theorem ne_underscore_of_isDigit (h : c.isDigit = true) : c ≠ '_' := ne_of_isDigit h rfl

/-! ### Groups -/

theorem dropUnderscores_cons_digit (h : c.isDigit = true) (cs : List Char) :
    dropUnderscores (c :: cs) = c :: dropUnderscores cs := by
  simp [dropUnderscores, ne_underscore_of_isDigit h]

theorem dropUnderscores_cons_underscore (cs : List Char) :
    dropUnderscores ('_' :: cs) = dropUnderscores cs := rfl

namespace DigitGroups

theorem head (h : DigitGroups body ds) : ∃ d tail, body = d :: tail ∧ d.isDigit = true := by
  cases h with
  | single hc => exact ⟨_, _, rfl, hc⟩
  | digit hc => exact ⟨_, _, rfl, hc⟩
  | underscore hc => exact ⟨_, _, rfl, hc⟩

theorem areDigits (h : DigitGroups body ds) : AreDigits ds := by
  induction h with
  | single hc => exact fun d hd => List.mem_singleton.1 hd ▸ hc
  | digit hc _ ih => exact List.forall_mem_cons.2 ⟨hc, ih⟩
  | underscore hc _ ih => exact List.forall_mem_cons.2 ⟨hc, ih⟩

theorem dropUnderscores_eq (h : DigitGroups body ds) : dropUnderscores body = ds := by
  induction h with
  | single hc => exact dropUnderscores_cons_digit hc []
  | digit hc _ ih => rw [dropUnderscores_cons_digit hc, ih]
  | underscore hc _ ih =>
    rw [dropUnderscores_cons_digit hc, dropUnderscores_cons_underscore, ih]

theorem isGrouped (h : DigitGroups body ds) : ∀ c ∈ body, isGrouped c = true := by
  have hdigit {c : Char} (hc : c.isDigit = true) : Text.isGrouped c = true := by
    simp [Text.isGrouped, hc]
  induction h with
  | single hc => exact List.forall_mem_cons.2 ⟨hdigit hc, by simp⟩
  | digit hc _ ih => exact List.forall_mem_cons.2 ⟨hdigit hc, ih⟩
  | underscore hc _ ih =>
    exact List.forall_mem_cons.2 ⟨hdigit hc, List.forall_mem_cons.2 ⟨by decide, ih⟩⟩

theorem underscoresBetweenDigits_eq (h : DigitGroups body ds) :
    underscoresBetweenDigits body = true := by
  induction h with
  | single hc => simp [underscoresBetweenDigits, ne_underscore_of_isDigit hc]
  | digit hc h ih =>
    obtain ⟨d, tail, rfl, hd⟩ := h.head
    have hne := ne_underscore_of_isDigit hd
    rwa [underscoresBetweenDigits]
    · exact ne_underscore_of_isDigit hc
    · rintro _ _ ⟨⟩
      exact hne rfl
    · rintro ⟨⟩
      exact hne rfl
  | underscore hc h ih =>
    obtain ⟨d, tail, rfl, hd⟩ := h.head
    simp [underscoresBetweenDigits, ne_underscore_of_isDigit hc, hc, hd, ih]

/-- A run of digits and underscores is of groups if every underscore stands between digits. -/
theorem of_underscoresBetweenDigits (hbody : ∀ c ∈ body, Text.isGrouped c = true)
    (hne : body ≠ []) (h : underscoresBetweenDigits body = true) :
    DigitGroups body (dropUnderscores body) := by
  induction body using underscoresBetweenDigits.induct with
  | case1 => exact absurd rfl hne
  | case2 cs => simp [underscoresBetweenDigits] at h
  | case3 c d cs _ ih =>
    simp only [underscoresBetweenDigits, Bool.and_eq_true] at h
    obtain ⟨⟨hc, -⟩, htail⟩ := h
    rw [dropUnderscores_cons_digit hc, dropUnderscores_cons_underscore]
    exact .underscore hc (ih (fun x hx => hbody x (.tail _ (.tail _ hx))) (by simp) htail)
  | case4 c hc => simp [underscoresBetweenDigits] at h
  | case5 c cs hc hgroup hend ih =>
    have hdigit : c.isDigit = true := by
      have hcase := hbody c (.head _)
      simp only [Text.isGrouped, Bool.or_eq_true, beq_iff_eq] at hcase
      exact hcase.resolve_right hc
    rw [underscoresBetweenDigits] at h
    · rw [dropUnderscores_cons_digit hdigit]
      by_cases hcs : cs = []
      · subst hcs
        exact .single hdigit
      · exact .digit hdigit (ih (fun x hx => hbody x (.tail _ hx)) hcs h)
    all_goals assumption

end DigitGroups

/-! ### Integers -/

theorem spanDigits_of_areDigits (h : AreDigits ds) :
    spanDigits ds = (ds.map fun c => c.toNat - 48, []) := by
  have hspan : spanDigits (ds ++ []) = (ds.map fun c => c.toNat - 48, []) :=
    spanDigits_append h (by simp)
  rwa [List.append_nil] at hspan

/-- A text is read as the integer of which it is a literal. -/
theorem readInteger_eq_ok {s : String} {n : Int} :
    readInteger s = .ok n ↔ IntegerLiteral s n := by
  constructor
  · intro h
    obtain ⟨sign, negative, body, hsign, hs, hsplit⟩ :=
      exists_sign (asciiDigits (trimBy isWhiteSpace s.toList))
    simp only [readInteger, hsplit] at h
    split_ifs at h with hrun hlong hrest
    have hwhole : body.takeWhile isGrouped = body :=
      (List.takeWhile_prefix isGrouped).eq_of_length_le (Nat.le_of_not_lt hrest)
    rw [show (body.takeWhile fun c => c.isDigit || c == '_') = body from hwhole] at h hrun hlong
    simp only [Bool.or_eq_true, List.isEmpty_iff, Bool.not_eq_true', not_or, Bool.not_eq_false]
      at hrun
    obtain ⟨hne, hunderscores⟩ := hrun
    have hgroups : DigitGroups body (dropUnderscores body) := by
      refine .of_underscoresBetweenDigits (fun c hc => ?_) ?_ hunderscores
      · rw [← hwhole] at hc
        exact List.mem_takeWhile_imp hc
      · rintro rfl
        exact hne rfl
    rw [spanDigits_of_areDigits hgroups.areDigits] at h
    cases h
    exact .mk hs hsign hgroups (Nat.le_of_not_lt hlong)
  · rintro ⟨hs, hsign, hbody, hshort⟩
    obtain ⟨d, tail, rfl, hd⟩ := hbody.head
    have hhead : ∀ c ∈ (d :: tail).head?, c ≠ '+' ∧ c ≠ '-' := by
      rintro _ ⟨⟩
      constructor <;> rintro rfl <;> exact absurd hd (by decide)
    have hrun : ((d :: tail).takeWhile fun c => c.isDigit || c == '_') = d :: tail :=
      List.takeWhile_eq_self_iff.2 hbody.isGrouped
    have hne : dropUnderscores (d :: tail) ≠ [] := by simp [dropUnderscores_cons_digit hd]
    have hvalue := spanDigits_of_areDigits hbody.areDigits
    rw [← hbody.dropUnderscores_eq] at hshort hvalue ⊢
    simp only [readInteger, hs, splitSign_append hsign hhead, hrun,
      hbody.underscoresBetweenDigits_eq, hvalue]
    simp [hne, hshort, digitsValue]

end

end CurrencyLedger.Text
