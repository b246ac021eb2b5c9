import CurrencyLedger.Proofs.Codes
import Mathlib.Data.List.TakeWhile

/-!
Spellings of codes.

A text names the currency whose letters it has in upper case, blanks around it apart. Each of its
characters is taken by itself: an English letter becomes its capital, and so do ten characters
besides, most of them several letters at once. No other character becomes anything that a code is
made of. So a text without those ten names a currency exactly if it is three English letters, and
then only what differs from it in case and in blanks names the same one. With them a text may name
a currency by fewer characters than three, and by some that are no English letters.
-/

namespace CurrencyLedger

open Text

/-! ### Characters -/

theorem Text.mem_dropWhile {p : Char → Bool} {c : Char} {cs : List Char} (h : c ∈ cs)
    (hc : p c = false) : c ∈ cs.dropWhile p := by
  rw [← List.takeWhile_append_dropWhile (p := p) (l := cs), List.mem_append] at h
  refine h.resolve_left fun hdropped => ?_
  rw [List.mem_takeWhile_imp hdropped] at hc
  cases hc

/-- Trimming drops nothing that is not to be dropped. -/
theorem Text.mem_trimBy {p : Char → Bool} {c : Char} {cs : List Char} (h : c ∈ cs)
    (hc : p c = false) : c ∈ trimBy p cs :=
  List.mem_reverse.2 (mem_dropWhile (List.mem_reverse.2 (mem_dropWhile h hc)) hc)

namespace Currency

/-- The characters that are no English letters and become such in upper case, with what they become:
the i without a dot, the long and the sharp s, and ligatures. -/
def lookalikes : List (Char × List Char) :=
  [('ı', ['I']), ('ſ', ['S']), ('ß', ['S', 'S']), ('ﬀ', ['F', 'F']), ('ﬁ', ['F', 'I']),
   ('ﬂ', ['F', 'L']), ('ﬃ', ['F', 'F', 'I']), ('ﬄ', ['F', 'F', 'L']), ('ﬅ', ['S', 'T']),
   ('ﬆ', ['S', 'T'])]

/-- The letters of a code that a character stands for. -/
inductive StandsFor : Char → List Char → Prop
  | letter {c : Char} (h : c.isAlpha = true) : StandsFor c [c.toUpper]
  | lookalike {c : Char} {letters : List Char} (h : (c, letters) ∈ lookalikes) :
    StandsFor c letters

theorem isAlpha_iff {c : Char} : c.isAlpha = true ↔
    (0x41 ≤ c.toNat ∧ c.toNat ≤ 0x5A) ∨ (0x61 ≤ c.toNat ∧ c.toNat ≤ 0x7A) := by
  have hupper : c.isUpper = true ↔ 0x41 ≤ c.toNat ∧ c.toNat ≤ 0x5A := decide_eq_true_iff
  have hlower : c.isLower = true ↔ 0x61 ≤ c.toNat ∧ c.toNat ≤ 0x7A := by
    rw [show c.isLower = (decide (c.val ≥ 'a'.val) && decide (c.val ≤ 'z'.val)) from rfl]
    simp only [Bool.and_eq_true, decide_eq_true_eq]
    exact Iff.rfl
  rw [← hupper, ← hlower]
  exact Bool.or_eq_true_iff

/-- Upper case makes a letter of a code of an English letter, and of no other ASCII character. -/
theorem isLetter_toUpper_iff (c : Char) : isLetter c.toUpper = true ↔ c.isAlpha = true := by
  rw [isLetter_iff, isAlpha_iff]
  by_cases hsmall : 'a'.val ≤ c.val ∧ c.val ≤ 'z'.val
  · have hbounds : 0x61 ≤ c.toNat ∧ c.toNat ≤ 0x7A := hsmall
    have hcapital : c.toUpper.val = c.val + ('A'.val - 'a'.val) := by
      rw [show c.toUpper = _ from dif_pos hsmall]
    have hshift : ('A'.val - 'a'.val).toNat = 2 ^ 32 - 32 := by decide
    have hpoint : c.toUpper.toNat = (c.toNat + (2 ^ 32 - 32)) % 2 ^ 32 := by
      rw [← Char.toNat_val, hcapital, UInt32.toNat_add, hshift, Char.toNat_val]
    omega
  · have hbounds : ¬(0x61 ≤ c.toNat ∧ c.toNat ≤ 0x7A) := hsmall
    rw [show c.toUpper = c from dif_neg hsmall]
    omega

/-- The code point of a letter is in the alphabet. -/
theorem bounds_of_isLetter_ofNat {n : Nat} (h : isLetter (Char.ofNat n) = true) :
    0x41 ≤ n ∧ n ≤ 0x5A := by
  rw [isLetter_iff] at h
  by_cases hn : n.isValidChar
  · have hpoint : (Char.ofNat n).toNat = n := by
      rw [Char.ofNat, dif_pos hn]
      rfl
    rwa [hpoint] at h
  · -- What is no code point becomes the null character.
    have hnull : Char.ofNat n = Char.ofNat 0 := by
      rw [Char.ofNat, dif_neg hn]
      rfl
    rw [hnull] at h
    exact absurd h (by decide)

/-- Of the letters that become one, only the dotless i and the long s come into the alphabet. -/
theorem caseRuns_cases : ∀ r ∈ caseRuns, 0x5A < r.first + r.shift ∨
    r.first = r.last ∧
      (Char.ofNat r.first, [Char.ofNat (r.first + r.shift).toNat]) ∈ lookalikes := by
  decide +kernel

/-- Of those that become several, eight become letters of the alphabet alone. -/
theorem caseExpansions_cases : ∀ p ∈ caseExpansions,
    (p.2.map Char.ofNat).all isLetter = true →
      (Char.ofNat p.1, p.2.map Char.ofNat) ∈ lookalikes := by
  decide +kernel

theorem upperChar_lookalikes : ∀ p ∈ lookalikes,
    upperChar p.1 = p.2 ∧ p.2.all isLetter = true := by
  decide +kernel

/-- A character stands for what it becomes in upper case, if these are letters of the alphabet. -/
theorem standsFor_iff {c : Char} {letters : List Char} : StandsFor c letters ↔
    upperChar c = letters ∧ ∀ l ∈ letters, isLetter l = true := by
  constructor
  · intro h
    cases h with
    | letter halpha =>
      have hascii : c.toNat < 128 := by
        rw [isAlpha_iff] at halpha
        omega
      refine ⟨upperChar_ascii hascii, fun l hl => ?_⟩
      rw [List.mem_singleton.1 hl]
      exact (isLetter_toUpper_iff c).2 halpha
    | lookalike hmem =>
      obtain ⟨hupper, hletters⟩ := upperChar_lookalikes _ hmem
      exact ⟨hupper, List.all_eq_true.1 hletters⟩
  · rintro ⟨rfl, hletters⟩
    by_cases hascii : c.toNat < 128
    · rw [upperChar_ascii hascii] at hletters ⊢
      exact .letter ((isLetter_toUpper_iff c).1 (hletters _ (.head _)))
    rw [upperChar, if_neg hascii] at hletters ⊢
    split at hletters
    · rename_i codes hlookup
      obtain ⟨before, after, hsplit, -⟩ := List.lookup_eq_some_iff.1 hlookup
      have hmem : (c.toNat, codes) ∈ caseExpansions := by simp [hsplit]
      have hknown := caseExpansions_cases _ hmem (List.all_eq_true.2 hletters)
      rw [Char.ofNat_toNat] at hknown
      exact .lookalike hknown
    · split at hletters
      · rename_i r hfind
        have hholds := List.find?_some hfind
        simp only [CaseRun.holds, Bool.and_eq_true, decide_eq_true_eq] at hholds
        have hbounds := bounds_of_isLetter_ofNat (hletters _ (.head _))
        rcases caseRuns_cases r (List.mem_of_find?_eq_some hfind) with hfar | ⟨hone, hknown⟩
        · omega
        · have hfirst : r.first = c.toNat := by omega
          rw [hfirst, Char.ofNat_toNat] at hknown
          exact .lookalike hknown
      · -- A character without a capital is its own, and this one is no ASCII character.
        have hbounds := isLetter_iff.1 (hletters c (.head _))
        omega

/-! ### Texts -/

/-- What the characters of a text stand for, side by side. -/
inductive Spelled : List Char → List Char → Prop
  | nil : Spelled [] []
  | cons {c : Char} {cs letters rest : List Char} (hc : StandsFor c letters)
    (h : Spelled cs rest) : Spelled (c :: cs) (letters ++ rest)

theorem spelled_iff {cs letters : List Char} : Spelled cs letters ↔
    cs.flatMap upperChar = letters ∧ ∀ l ∈ letters, isLetter l = true := by
  constructor
  · intro h
    induction h with
    | nil => simp
    | cons hc _ ih =>
      obtain ⟨hupper, hletters⟩ := standsFor_iff.1 hc
      obtain ⟨hrest, hall⟩ := ih
      refine ⟨by rw [List.flatMap_cons, hupper, hrest], fun l hl => ?_⟩
      exact (List.mem_append.1 hl).elim (hletters l) (hall l)
  · rintro ⟨rfl, hletters⟩
    induction cs with
    | nil => exact .nil
    | cons c cs ih =>
      rw [List.flatMap_cons] at hletters ⊢
      exact .cons (standsFor_iff.2 ⟨rfl, fun l hl => hletters l (List.mem_append_left _ hl)⟩)
        (ih fun l hl => hletters l (List.mem_append_right _ hl))

theorem spelling_text_eq (s : String) :
    spelling (.text s) = String.ofList ((trim s).toList.flatMap upperChar) := by
  have hplain : Value.plainOrEmpty (.text s) = s := by
    by_cases hs : s = ""
    · simp [Value.plainOrEmpty, Value.given, hs]
    · simp [Value.plainOrEmpty, Value.given, Value.plain, hs]
  rw [spelling, hplain, upper]

theorem isCode_iff {s : String} :
    isCode s = true ↔ s.toList.length = 3 ∧ ∀ l ∈ s.toList, isLetter l = true := by
  simp only [isCode, Bool.and_eq_true, beq_iff_eq, List.all_eq_true]

/-- A text names the currency of the three letters that its characters stand for. -/
theorem normalize_text_eq_ok {s code : String} : normalize (.text s) = .ok code ↔
    Spelled (trim s).toList code.toList ∧ code.toList.length = 3 := by
  have hnormalize : normalize (.text s) = .ok code ↔
      isCode (spelling (.text s)) = true ∧ spelling (.text s) = code := by
    rw [normalize]
    split <;> simp_all
  rw [hnormalize, spelled_iff, ← String.toList_inj, isCode_iff, spelling_text_eq,
    String.toList_ofList]
  constructor
  · rintro ⟨⟨hlength, hletters⟩, hcode⟩
    rw [hcode] at hlength hletters
    exact ⟨⟨hcode, hletters⟩, hlength⟩
  · rintro ⟨⟨hcode, hletters⟩, hlength⟩
    rw [hcode]
    exact ⟨⟨hlength, hletters⟩, rfl⟩

/-- What names no currency is refused, with the value in the message. -/
theorem normalize_eq_refusal {v : Value} (h : ∀ code, normalize v ≠ .ok code) :
    normalize v = .error (refusal v) := by
  rw [normalize] at h ⊢
  split
  · rename_i hcode
    rw [if_pos hcode] at h
    exact absurd rfl (h _)
  · rfl

/-- Blanks end with the ideographic space. -/
theorem isBlank_eq_false {c : Char} (h : 0x3000 < c.toNat) : isBlank c = false := by
  simp [isBlank, isWhiteSpace, inRanges, whiteSpace]
  omega

/-- What stands in for a surrogate is no blank, and becomes no letter. -/
theorem standsIn_charOf {n : Nat} (h : isSurrogate n = true) :
    isBlank (charOf n) = false ∧ ¬∀ l ∈ upperChar (charOf n), isLetter l = true := by
  have hrange : 0xD800 ≤ n ∧ n < 0xE000 := by simpa [isSurrogate] using h
  have hfar : (charOf n).toNat = n + 0x101800 := (toNat_charOf (by omega)).trans (if_pos h)
  have hlookalikes : ∀ p ∈ lookalikes, p.1.toNat < 0x10000 := by decide +kernel
  refine ⟨isBlank_eq_false (by omega), fun hletters => ?_⟩
  obtain ⟨letters, hstands⟩ : ∃ letters, StandsFor (charOf n) letters :=
    ⟨_, standsFor_iff.2 ⟨rfl, hletters⟩⟩
  cases hstands with
  | letter halpha =>
    rw [isAlpha_iff] at halpha
    omega
  | lookalike hmem =>
    have hnear : (charOf n).toNat < 0x10000 := hlookalikes _ hmem
    omega

/-- A surrogate that stands alone is a letter of no code. -/
theorem normalize_illFormed {codes : List Nat} (h : codes.any isSurrogate = true) :
    normalize (.illFormed codes) = .error (refusal (.illFormed codes)) := by
  refine if_neg fun hcode => ?_
  obtain ⟨n, hn, hsurrogate⟩ := List.any_eq_true.1 h
  obtain ⟨hblank, hnone⟩ := standsIn_charOf hsurrogate
  have hspelled : spelling (.illFormed codes) =
      String.ofList ((trimBy isBlank (codes.map charOf)).flatMap upperChar) := by
    simp [spelling, Value.plainOrEmpty, Value.given, Value.plain, trim, upper]
  rw [isCode_iff, hspelled, String.toList_ofList] at hcode
  have hkept : charOf n ∈ trimBy isBlank (codes.map charOf) :=
    mem_trimBy (List.mem_map_of_mem hn) hblank
  exact hnone fun l hl => hcode.2 l (List.mem_flatMap.2 ⟨_, hkept, hl⟩)

/-! ### Ordinary texts -/

/-- Blanks around it apart, a text without the ten characters that become English letters. -/
def IsOrdinary (s : String) : Prop := ∀ c ∈ (trim s).toList, c ∉ lookalikes.map (·.1)

instance (s : String) : Decidable (IsOrdinary s) :=
  List.decidableBAll _ _

/-- Three English letters. -/
def IsThreeLetters (cs : List Char) : Prop := cs.length = 3 ∧ ∀ c ∈ cs, c.isAlpha = true

instance (cs : List Char) : Decidable (IsThreeLetters cs) :=
  @instDecidableAnd _ _ _ (List.decidableBAll _ _)

theorem spelled_of_not_lookalike {cs letters : List Char}
    (h : ∀ c ∈ cs, c ∉ lookalikes.map (·.1)) :
    Spelled cs letters ↔ (∀ c ∈ cs, c.isAlpha = true) ∧ letters = cs.map Char.toUpper := by
  induction cs generalizing letters with
  | nil =>
    constructor
    · rintro ⟨⟩
      simp
    · rintro ⟨-, rfl⟩
      exact .nil
  | cons c cs ih =>
    have hrest {letters : List Char} := @ih letters fun d hd => h d (.tail _ hd)
    constructor
    · intro hspelled
      cases hspelled with
      | cons hc hcs =>
        obtain ⟨halpha, rfl⟩ := hrest.1 hcs
        cases hc with
        | letter hletter => simpa [hletter] using halpha
        | lookalike hknown => exact absurd (List.mem_map_of_mem hknown) (h c (.head _))
    · rintro ⟨halpha, rfl⟩
      exact .cons (.letter (halpha c (.head _)))
        (hrest.2 ⟨fun d hd => halpha d (.tail _ hd), rfl⟩)

/-- An ordinary text names a currency exactly if it is three English letters, by their capitals. -/
theorem normalize_of_isOrdinary {s code : String} (h : IsOrdinary s) :
    normalize (.text s) = .ok code ↔
      IsThreeLetters (trim s).toList ∧ code.toList = (trim s).toList.map Char.toUpper := by
  rw [normalize_text_eq_ok, spelled_of_not_lookalike h, IsThreeLetters]
  constructor
  · rintro ⟨⟨halpha, hcode⟩, hlength⟩
    rw [hcode, List.length_map] at hlength
    exact ⟨⟨hlength, halpha⟩, hcode⟩
  · rintro ⟨⟨hlength, halpha⟩, hcode⟩
    exact ⟨⟨halpha, hcode⟩, by rw [hcode, List.length_map, hlength]⟩

/-- Two ordinary texts name the same currency if they have the same letters but for their case. -/
theorem normalize_of_same_letters {s t code : String} (hs : IsOrdinary s) (ht : IsOrdinary t)
    (hnamed : normalize (.text s) = .ok code) : normalize (.text t) = .ok code ↔
      (trim t).toList.map Char.toUpper = (trim s).toList.map Char.toUpper := by
  obtain ⟨-, hcode⟩ := (normalize_of_isOrdinary hs).1 hnamed
  obtain ⟨hlength, hletters⟩ := isCode_iff.1 (isCode_of_normalize hnamed)
  rw [normalize_of_isOrdinary ht, ← hcode]
  constructor
  · rintro ⟨-, hsame⟩
    exact hsame.symm
  · intro hsame
    rw [← hsame] at hlength hletters
    refine ⟨⟨by rwa [List.length_map] at hlength, fun c hc => ?_⟩, hsame.symm⟩
    exact (isLetter_toUpper_iff c).1 (hletters _ (List.mem_map_of_mem hc))

/--
A text, blanks around it apart, names a currency exactly if its characters stand for three letters,
and is refused otherwise. Where none of its characters is a lookalike it has to be three English
letters itself, and no other text of that kind names the same currency unless it has the same
letters but for their case.
-/
theorem named_by_three_letters (s : String) :
    (∀ code, normalize (.text s) = .ok code ↔
      Spelled (trim s).toList code.toList ∧ code.toList.length = 3) ∧
    ((∀ code, normalize (.text s) ≠ .ok code) →
      normalize (.text s) = .error (refusal (.text s)) ∧
        (refusal (.text s)).kind = .invalidCurrency) ∧
    (IsOrdinary s →
      (∀ code, normalize (.text s) = .ok code ↔
        IsThreeLetters (trim s).toList ∧ code.toList = (trim s).toList.map Char.toUpper) ∧
      ∀ t code, IsOrdinary t → normalize (.text s) = .ok code →
        (normalize (.text t) = .ok code ↔
          (trim t).toList.map Char.toUpper = (trim s).toList.map Char.toUpper)) ∧
    ∀ codes, codes.any isSurrogate = true →
      normalize (.illFormed codes) = .error (refusal (.illFormed codes)) := by
  refine ⟨?_, ?_, ?_, ?_⟩
  · intro code
    exact normalize_text_eq_ok
  · intro h
    exact ⟨normalize_eq_refusal h, rfl⟩
  · intro hs
    exact ⟨fun _ => normalize_of_isOrdinary hs, fun _ _ ht => normalize_of_same_letters hs ht⟩
  · intro codes
    exact normalize_illFormed

/-- Case and blanks do not matter; a letter too much does, and so does half a character. -/
theorem naira_named_in_two_ways :
    IsOrdinary " ngn " ∧ IsOrdinary "NgN\n" ∧ normalize (.text " ngn ") = .ok "NGN" ∧
      normalize (.text "NgN\n") = .ok "NGN" ∧
      (∀ code, normalize (.text "usß") ≠ .ok code) ∧
      normalize (.text "usß") = .error (refusal (.text "usß")) ∧
      [0x55, 0xD800, 0x53].any isSurrogate = true ∧
      normalize (.illFormed [0x55, 0xD800, 0x53]) =
        .error (refusal (.illFormed [0x55, 0xD800, 0x53])) := by
  obtain ⟨-, -, hordinary, hsurrogates⟩ := named_by_three_letters " ngn "
  have hs : IsOrdinary " ngn " := by decide +kernel
  have ht : IsOrdinary "NgN\n" := by decide +kernel
  obtain ⟨hnames, hsame⟩ := hordinary hs
  have hnamed : normalize (.text " ngn ") = .ok "NGN" :=
    (hnames _).2 ⟨by decide +kernel, by decide +kernel⟩
  have hlong : ∀ code, normalize (.text "usß") ≠ .ok code := by
    intro code hcode
    have hfour : (spelling (.text "usß")).toList.length = 4 := by decide +kernel
    rw [normalize, if_neg (by simp [isCode, hfour])] at hcode
    cases hcode
  exact ⟨hs, ht, hnamed, (hsame _ _ ht hnamed).2 (by decide +kernel), hlong,
    ((named_by_three_letters "usß").2.1 hlong).1, rfl, hsurrogates _ rfl⟩

/-- A single character names a currency, which has another spelling that differs from it not only in
case: three English letters are not all that is accepted. -/
theorem ligature_names_currency :
    (¬ ∀ s code, normalize (.text s) = .ok code ↔
      IsThreeLetters (trim s).toList ∧ code.toList = (trim s).toList.map Char.toUpper) ∧
    ¬ ∀ s t code, normalize (.text s) = .ok code → normalize (.text t) = .ok code →
      (trim s).toList.map Char.toUpper = (trim t).toList.map Char.toUpper := by
  have hnamed {s code : String} (hcode : isCode code = true)
      (hspelled : spelling (.text s) = code) : normalize (.text s) = .ok code := by
    rw [normalize, hspelled, if_pos hcode]
  have hligature : normalize (.text "ﬃ") = .ok "FFI" :=
    hnamed (by decide) (by decide +kernel)
  have hletters : normalize (.text "ffi") = .ok "FFI" :=
    hnamed (by decide) (by decide +kernel)
  constructor
  · intro h
    exact absurd ((h _ _).1 hligature).1 (by decide +kernel)
  · intro h
    exact absurd (h _ _ _ hligature hletters) (by decide +kernel)

end Currency

end CurrencyLedger
