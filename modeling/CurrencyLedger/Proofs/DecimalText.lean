import CurrencyLedger.Proofs.Codes
import CurrencyLedger.Rate.Basic
import Mathlib.Order.MinMax

/-!
Reading back written decimals.

A written number has no blanks, no underscores and no digits but the ASCII ones, so a reader finds
it as it stands. What it finds in the positional form is the coefficient, whatever zeros were put in
front, and as many places as stand behind the point. A rate that was recorded can therefore be
recorded again, and says the same.
-/

namespace CurrencyLedger

namespace Text

/-- The characters of which written numbers consist. -/
def isNumeral (c : Char) : Bool := c.isDigit || ['.', 'E', '+', '-'].contains c

theorem isDigit_iff {c : Char} : c.isDigit = true ↔ 48 ≤ c.toNat ∧ c.toNat ≤ 57 := by
  simp only [Char.isDigit, Bool.and_eq_true, decide_eq_true_eq]
  exact Iff.rfl

theorem isNumeral_cases {c : Char} (h : isNumeral c = true) :
    c.isDigit = true ∨ c = '.' ∨ c = 'E' ∨ c = '+' ∨ c = '-' := by
  simpa [isNumeral] using h

theorem digitValue?_of_isDigit {c : Char} (h : c.isDigit = true) :
    digitValue? c = some (c.toNat - 48) := by
  rw [isDigit_iff] at h
  have hzero : (decide (48 ≤ c.toNat) && decide (c.toNat < 48 + 10)) = true := by
    simp only [Bool.and_eq_true, decide_eq_true_eq]
    omega
  rw [digitValue?, show digitZeros = 48 :: digitZeros.tail from rfl, List.find?_cons, hzero]
  rfl

theorem digitChar_toNat {c : Char} (h : c.isDigit = true) : digitChar (c.toNat - 48) = c := by
  rw [isDigit_iff] at h
  rw [digitChar, show 48 + (c.toNat - 48) = c.toNat by omega, Char.ofNat_toNat]

/-- A written number is read as it stands. -/
theorem asciiDigits_eq_self {cs : List Char} (h : ∀ c ∈ cs, isNumeral c = true) :
    asciiDigits cs = cs := by
  refine (List.map_congr_left fun c hc => ?_).trans (List.map_id' cs)
  rcases isNumeral_cases (h c hc) with hd | rfl | rfl | rfl | rfl
  · rw [digitValue?_of_isDigit hd]
    exact digitChar_toNat hd
  all_goals rfl

theorem dropUnderscores_eq_self {cs : List Char} (h : ∀ c ∈ cs, isNumeral c = true) :
    dropUnderscores cs = cs := by
  rw [dropUnderscores, List.filter_eq_self]
  intro c hc
  rcases isNumeral_cases (h c hc) with hd | rfl | rfl | rfl | rfl
  · rw [isDigit_iff] at hd
    have : c ≠ '_' := by
      rintro rfl
      exact absurd hd (by decide)
    simpa using this
  all_goals rfl

theorem isBlank_of_isNumeral {c : Char} (h : isNumeral c = true) : isBlank c = false := by
  rcases isNumeral_cases h with hd | rfl | rfl | rfl | rfl
  · rw [isDigit_iff] at hd
    simp [isBlank, isWhiteSpace, inRanges, whiteSpace]
    omega
  all_goals rfl

/-- The digits in front are found, up to what is no digit. -/
theorem spanDigits_append {ds rest : List Char} (hd : ∀ c ∈ ds, c.isDigit = true)
    (hrest : ∀ c ∈ rest.head?, c.isDigit = false) :
    spanDigits (ds ++ rest) = (ds.map fun c => c.toNat - 48, rest) := by
  have htake : rest.takeWhile Char.isDigit = [] ∧ rest.dropWhile Char.isDigit = rest := by
    cases rest with
    | nil => exact ⟨rfl, rfl⟩
    | cons c rest => simp [hrest c rfl]
  rw [spanDigits, List.takeWhile_append_of_pos hd, List.dropWhile_append_of_pos hd, htake.1,
    htake.2, List.append_nil]

theorem ofDigits_eq_ofDigitChars (ds : List Char) :
    ofDigits (ds.map fun c => c.toNat - 48) = Nat.ofDigitChars 10 ds 0 := by
  rw [ofDigits, List.foldl_map, Nat.ofDigitChars_eq_foldl]
  rfl

/-- Zeros in front of the digits of a number change nothing. -/
theorem ofDigits_toDigits (zeros n : Nat) :
    ofDigits ((List.replicate zeros '0' ++ Nat.toDigits 10 n).map fun c => c.toNat - 48) = n := by
  rw [ofDigits_eq_ofDigitChars, Nat.ofDigitChars_append, Nat.ofDigitChars_replicate_zero]
  simp

end Text

namespace Decimal

open Text

/-- The point stands before the last places, and a digit before the point. -/
theorem pointed_eq (ds : List Char) {places : Nat} (h : 0 < places) :
    ∃ front back, pointed ds places = front ++ '.' :: back ∧ front ≠ [] ∧ back.length = places ∧
      front ++ back = List.replicate (places + 1 - ds.length) '0' ++ ds := by
  let padded := List.replicate (places + 1 - ds.length) '0' ++ ds
  have hlength : places < padded.length := by
    simp only [padded, List.length_append, List.length_replicate]
    omega
  refine ⟨padded.take (padded.length - places), padded.drop (padded.length - places), ?_, ?_, ?_,
    List.take_append_drop _ _⟩
  · rw [pointed, if_neg (by omega)]
  · rw [Ne, List.take_eq_nil_iff, not_or]
    exact ⟨by omega, List.ne_nil_of_length_pos (by omega)⟩
  · rw [List.length_drop]
    omega

section

variable {front back tail : List Char} {e : Int}

/-- Digits, a point and digits are read as one coefficient with places. -/
theorem readNumber?_point (hfront : ∀ c ∈ front, c.isDigit = true) (hne : front ≠ [])
    (hback : ∀ c ∈ back, c.isDigit = true) (htail : ∀ c ∈ tail.head?, c.isDigit = false)
    (he : readExponent? tail = some e) : readNumber? (front ++ '.' :: (back ++ tail)) =
      some (ofDigits ((front ++ back).map fun c => c.toNat - 48), e - back.length) := by
  have hwhole : spanDigits (front ++ '.' :: (back ++ tail)) =
      (front.map fun c => c.toNat - 48, '.' :: (back ++ tail)) :=
    spanDigits_append hfront (by simp)
  have hfraction := spanDigits_append hback htail
  rw [readNumber?, hwhole]
  simp only [hfraction, he, List.map_append, List.length_map, Option.bind_eq_bind,
    Option.bind_some]
  simp [hne]

/-- Digits alone are read as a coefficient. -/
theorem readNumber?_digits (hfront : ∀ c ∈ front, c.isDigit = true) (hne : front ≠ [])
    (htail : ∀ c ∈ tail.head?, c.isDigit = false ∧ c ≠ '.') (he : readExponent? tail = some e) :
    readNumber? (front ++ tail) = some (ofDigits (front.map fun c => c.toNat - 48), e) := by
  have hwhole := spanDigits_append hfront fun c hc => (htail c hc).1
  rw [readNumber?, hwhole]
  cases tail with
  | nil => simp [he, hne]
  | cons c tail =>
    have hpoint : c ≠ '.' := (htail c rfl).2
    simp [he, hne, hpoint]

end

theorem isDigit_toDigits (n : Nat) : ∀ d ∈ Nat.toDigits 10 n, d.isDigit = true :=
  fun _ hd => Nat.isDigit_of_mem_toDigits (by decide) (by decide) hd

/-- The positional form is read as its coefficient and its places. -/
theorem readNumber?_pointed (c : Nat) {places : Nat} (h : 0 < places) :
    readNumber? (pointed (Nat.toDigits 10 c) places) = some (c, -(places : Int)) := by
  obtain ⟨front, back, heq, hfront, hback, hdigits⟩ := pointed_eq (Nat.toDigits 10 c) h
  have hd : ∀ d ∈ front ++ back, d.isDigit = true := by
    intro d hd
    rw [hdigits, List.mem_append] at hd
    rcases hd with hd | hd
    · rw [List.eq_of_mem_replicate hd]
      rfl
    · exact isDigit_toDigits c d hd
  have hend : ∀ c ∈ ([] : List Char).head?, c.isDigit = false := by simp
  have hread := readNumber?_point (fun d hd' => hd d (List.mem_append_left _ hd')) hfront
    (fun d hd' => hd d (List.mem_append_right front hd')) hend rfl
  rw [List.append_nil, hdigits, ofDigits_toDigits, hback, Int.zero_sub] at hread
  rw [heq, hread]

/-- A digit is no letter, and no sign. -/
theorem readSpecial?_of_isDigit (negative : Bool) {d : Char} (h : d.isDigit = true)
    (rest : List Char) : readSpecial? negative (d :: rest) = none := by
  rw [isDigit_iff] at h
  have hletter : ¬('A'.val ≤ d.val ∧ d.val ≤ 'Z'.val) := by
    intro hd
    have : 65 ≤ d.toNat := hd.1
    omega
  have hlower : d.toLower = d := dif_neg hletter
  rw [readSpecial?, List.map_cons, hlower]
  split
  all_goals first
    | rfl
    | rename_i heq
      obtain ⟨rfl, -⟩ := List.cons.inj heq
      exact absurd h (by decide)

theorem splitSign_signText (negative : Bool) {d : Char} (h : d.isDigit = true)
    (rest : List Char) : splitSign (signText negative ++ d :: rest) = (negative, d :: rest) := by
  cases negative with
  | true => rfl
  | false =>
    rw [isDigit_iff] at h
    rw [signText, if_neg Bool.false_ne_true, List.nil_append, splitSign.eq_def]
    split
    all_goals first
      | rfl
      | rename_i heq
        obtain ⟨rfl, -⟩ := List.cons.inj heq
        exact absurd h (by decide)

/-- A written number that begins with a digit after its sign is read as a number. -/
theorem ofText?_signText (negative : Bool) {cs : List Char}
    (hnumeral : ∀ c ∈ cs, isNumeral c = true) (hdigit : ∃ d ∈ cs.head?, d.isDigit = true) :
    ofText? (String.ofList (signText negative ++ cs)) = readFinite? negative cs := by
  obtain ⟨d, hd, hdigit⟩ := hdigit
  obtain ⟨rest, rfl⟩ : ∃ rest, cs = d :: rest := by
    cases cs with
    | nil => cases hd
    | cons c rest => exact ⟨rest, by rw [Option.some.inj hd]⟩
  have hall : ∀ c ∈ signText negative ++ d :: rest, isNumeral c = true := by
    intro c hc
    rcases List.mem_append.1 hc with hc | hc
    · cases negative with
      | true =>
        rw [List.mem_singleton.1 hc]
        rfl
      | false => cases hc
    · exact hnumeral c hc
  rw [ofText?, String.toList_ofList, trimBy_eq_self fun c hc => isBlank_of_isNumeral (hall c hc),
    dropUnderscores_eq_self hall, asciiDigits_eq_self hall, splitSign_signText negative hdigit]
  simp only [readSpecial?_of_isDigit negative hdigit]

theorem isNumeral_of_isDigit {c : Char} (h : c.isDigit = true) : isNumeral c = true := by
  simp [isNumeral, h]

/-- The positional form is made of digits and a point, and begins with a digit. -/
theorem pointed_chars {ds : List Char} (hds : ∀ d ∈ ds, d.isDigit = true) (hne : ds ≠ [])
    (places : Nat) : (∀ c ∈ pointed ds places, isNumeral c = true) ∧
      ∃ d ∈ (pointed ds places).head?, d.isDigit = true := by
  rcases Nat.eq_zero_or_pos places with rfl | hplaces
  · rw [pointed, if_pos rfl]
    obtain ⟨d, rest, rfl⟩ := List.exists_cons_of_ne_nil hne
    exact ⟨fun c hc => isNumeral_of_isDigit (hds c hc), d, rfl, hds d (.head _)⟩
  · obtain ⟨front, back, heq, hfront, -, hdigits⟩ := pointed_eq ds hplaces
    have hd : ∀ d ∈ front ++ back, d.isDigit = true := by
      intro d hd
      rw [hdigits, List.mem_append] at hd
      rcases hd with hd | hd
      · rw [List.eq_of_mem_replicate hd]
        rfl
      · exact hds d hd
    rw [heq]
    refine ⟨fun c hc => ?_, ?_⟩
    · simp only [List.mem_append, List.mem_cons] at hc
      rcases hc with hc | rfl | hc
      · exact isNumeral_of_isDigit (hd c (List.mem_append_left _ hc))
      · rfl
      · exact isNumeral_of_isDigit (hd c (List.mem_append_right _ hc))
    · obtain ⟨d, rest, rfl⟩ := List.exists_cons_of_ne_nil hfront
      exact ⟨d, rfl, hd d (.head _)⟩

/-- A decimal with places is read back from its positional form. -/
theorem ofText?_positionalText (negative : Bool) (c : Nat) {places : Nat} (h : 0 < places)
    (hc : representable c (-places) = true) :
    ofText? (positionalText (.finite negative c (-places))) =
      some (.finite negative c (-places)) := by
  obtain ⟨hnumeral, hdigit⟩ := pointed_chars (isDigit_toDigits c) Nat.toDigits_ne_nil places
  have htext : positionalText (.finite negative c (-places)) =
      String.ofList (signText negative ++ pointed (Nat.toDigits 10 c) places) := by
    simp [positionalText]
  rw [htext, ofText?_signText negative hnumeral hdigit, readFinite?, readNumber?_pointed c h]
  simp only [hc, if_true]

/-- The scientific form is made of numerals, and begins with a digit. -/
theorem finiteText_chars (c : Nat) (e : Int) : (∀ x ∈ finiteText c e, isNumeral x = true) ∧
    ∃ d ∈ (finiteText c e).head?, d.isDigit = true := by
  have hdigits := isDigit_toDigits c
  have hexponent (e : Int) : ∀ x ∈ exponentText e, isNumeral x = true := by
    intro x hx
    simp only [exponentText, List.mem_cons] at hx
    rcases hx with rfl | rfl | hx
    · rfl
    · split <;> rfl
    · exact isNumeral_of_isDigit (isDigit_toDigits _ x hx)
  rw [finiteText]
  split
  · exact pointed_chars hdigits Nat.toDigits_ne_nil _
  · split
    · rename_i d r rest heq
      rw [heq] at hdigits
      refine ⟨fun x hx => ?_, d, rfl, hdigits d (.head _)⟩
      simp only [List.cons_append, List.mem_cons, List.mem_append] at hx
      rcases hx with rfl | rfl | rfl | hx | hx
      · exact isNumeral_of_isDigit (hdigits x (.head _))
      · rfl
      · exact isNumeral_of_isDigit (hdigits x (.tail _ (.head _)))
      · exact isNumeral_of_isDigit (hdigits x (.tail _ (.tail _ hx)))
      · exact hexponent _ x hx
    · obtain ⟨d, rest, heq⟩ := List.exists_cons_of_ne_nil (Nat.toDigits_ne_nil (n := c) (b := 10))
      rw [heq] at hdigits ⊢
      refine ⟨fun x hx => ?_, d, rfl, hdigits d (.head _)⟩
      rcases List.mem_append.1 hx with hx | hx
      · exact isNumeral_of_isDigit (hdigits x hx)
      · exact hexponent _ x hx

/-- Whatever is read from the scientific form is a number of the same sign. -/
theorem finite_of_ofText?_text {negative : Bool} {c : Nat} {e : Int} {d : Decimal}
    (h : ofText? (text (.finite negative c e)) = some d) : ∃ c' e', d = .finite negative c' e' := by
  obtain ⟨hnumeral, hdigit⟩ := finiteText_chars c e
  rw [text, ofText?_signText negative hnumeral hdigit, readFinite?] at h
  split at h
  · split at h
    · exact ⟨_, _, (Option.some.inj h).symm⟩
    · cases h
  · cases h

/-! ### Places -/

theorem digitCount_of_lt {n : Nat} (h : n < 10) : digitCount n = 1 := by
  rw [digitCount, if_pos h]

theorem digitCount_of_le {n : Nat} (h : 10 ≤ n) : digitCount n = digitCount (n / 10) + 1 := by
  rw [digitCount, if_neg (by omega)]

theorem digitCount_pos (n : Nat) : 0 < digitCount n := by
  rw [digitCount]
  split <;> omega

/-- A number has at most so many digits if it is below that power of ten. -/
theorem digitCount_le_iff {k : Nat} (n : Nat) : digitCount n ≤ k + 1 ↔ n < tenTo (k + 1) := by
  induction k generalizing n with
  | zero =>
    rw [tenTo_succ, tenTo_zero]
    by_cases h : n < 10
    · simp [digitCount_of_lt h, h]
    · have hpos := digitCount_pos (n / 10)
      rw [digitCount_of_le (by omega)]
      omega
  | succ k ih =>
    rw [tenTo_succ]
    by_cases h : n < 10
    · have hpos := tenTo_pos (k + 1)
      rw [digitCount_of_lt h]
      omega
    · rw [digitCount_of_le (by omega), Nat.add_le_add_iff_right, ih]
      omega

/-- Zeros behind a number are as many digits more. -/
theorem digitCount_mul_tenTo {c k n : Nat} (h : digitCount c + k ≤ n + 1) :
    digitCount (c * tenTo k) ≤ n + 1 := by
  have hpos := digitCount_pos c
  obtain ⟨m, rfl⟩ : ∃ m, n = m + k := ⟨n - k, by omega⟩
  rw [digitCount_le_iff]
  have hc : c < tenTo (m + 1) := (digitCount_le_iff c).1 (by omega)
  calc c * tenTo k < tenTo (m + 1) * tenTo k :=
        Nat.mul_lt_mul_of_pos_right hc (Nat.pow_pos (by decide))
    _ = tenTo (m + k + 1) := by
        rw [tenTo, tenTo, tenTo]
        show 10 ^ (m + 1) * 10 ^ k = 10 ^ (m + k + 1)
        rw [← Nat.pow_add]
        congr 1
        omega

/-- A number at a place that arithmetic can reach has the place and at most the precision. -/
theorem quantize_finite_eq_ok {mode : Rounding} {place : Int} (hlow : tinyExponent ≤ place)
    (hhigh : place ≤ maxExponent) {negative : Bool} {c : Nat} {e : Int} {d : Decimal}
    (h : quantize mode place (.finite negative c e) = .ok d) :
    ∃ q, d = .finite negative q place ∧ digitCount q ≤ precision := by
  simp only [quantize] at h
  split_ifs at h with hc hplace hlong hlong
  · cases h
    refine ⟨0, ?_, by rw [digitCount_of_lt (by decide)]; decide⟩
    rw [zeroAt, min_eq_left hhigh, max_eq_right hlow]
  · cases h
    exact ⟨_, rfl, digitCount_mul_tenTo (n := 27) (Nat.le_of_not_lt hlong)⟩
  · cases h
    exact ⟨_, rfl, Nat.le_of_not_lt hlong⟩

/-- What stands at a place already is left as it is. -/
theorem quantize_self (mode : Rounding) {place : Int} (hlow : tinyExponent ≤ place)
    (hhigh : place ≤ maxExponent) (negative : Bool) {c : Nat} (hc : digitCount c ≤ precision) :
    quantize mode place (.finite negative c place) = .ok (.finite negative c place) := by
  simp only [quantize, Int.sub_self, Int.toNat_zero, Nat.add_zero, Int.le_refl, if_true]
  split_ifs with hzero hlong
  · rw [zeroAt, min_eq_left hhigh, max_eq_right hlow, hzero]
  · omega
  · rw [tenTo_zero, Nat.mul_one]

end Decimal

/-- Digits that arithmetic can hold can be recorded. -/
theorem Decimal.representable_recorded {q : Nat} (hq : Decimal.digitCount q ≤ Decimal.precision) :
    Decimal.representable q Rate.recordedPlace = true := by
  have : Rate.recordedPlace + Decimal.digitCount q - 1 ≤ Decimal.maxWrittenExponent := by
    simp only [Rate.recordedPlace, Decimal.maxWrittenExponent, Decimal.precision] at hq ⊢
    omega
  simp only [Decimal.representable, Bool.and_eq_true, decide_eq_true_eq]
  exact ⟨by decide, this⟩

/-- A rate that has been recorded can be recorded again, and says the same. -/
theorem Rate.format_text {d : Decimal} (hd : d.isPositive = true) {s : String}
    (h : Rate.format (.decimal d) = .ok s) : Rate.format (.text s) = .ok s := by
  obtain ⟨c, e, -, rfl⟩ := Decimal.isPositive_iff.1 hd
  have hlow : Decimal.tinyExponent ≤ recordedPlace := by decide
  have hhigh : recordedPlace ≤ Decimal.maxExponent := by decide
  rw [format, Value.plain] at h
  split at h
  · rename_i read hread
    obtain ⟨c', e', rfl⟩ := Decimal.finite_of_ofText?_text hread
    obtain ⟨rounded, hrounded, hs⟩ := bind_eq_ok.1 h
    obtain ⟨q, rfl, hq⟩ := Decimal.quantize_finite_eq_ok hlow hhigh hrounded
    cases hs
    have hread' : Decimal.ofText? (Decimal.positionalText (.finite false q recordedPlace)) =
        some (.finite false q recordedPlace) :=
      Decimal.ofText?_positionalText false q (show 0 < 8 by decide)
        (Decimal.representable_recorded hq)
    rw [format, Value.plain, hread']
    simp only [Decimal.quantize_self .halfUp hlow hhigh false hq]
    rfl
  · cases h

end CurrencyLedger
