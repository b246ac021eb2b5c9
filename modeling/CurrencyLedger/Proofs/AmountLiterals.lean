import CurrencyLedger.Proofs.IntegerLiterals
import CurrencyLedger.Proofs.Splitting
import CurrencyLedger.Proofs.Timestamps
import CurrencyLedger.Validation.Number

/-!
Literals of amounts.

A text may stand for an amount in more forms than the plain one: behind a plus sign, with zeros in
front, with single underscores between its digits, and with a fraction of nothing but zeros. The
reader takes these away one after the other; each of its steps is told from the grammar by what
stands in front of the rest, which is a digit other than zero.
-/

namespace CurrencyLedger.Validation

open Text

/-! ### The grammar -/

/-- Zeros in front of a number; behind the first one underscores may stand among them. -/
def LeadingZeros : List Char → Prop
  | [] => True
  | c :: cs => c = '0' ∧ ∀ d ∈ cs, d = '0' ∨ d = '_'

/-- A fraction of nothing but zeros, or none. -/
def ZeroFraction : List Char → Prop
  | [] => True
  | c :: cs => c = '.' ∧ cs ≠ [] ∧ ∀ d ∈ cs, d = '0'

/-- A literal of a positive integer. -/
inductive AmountLiteral (s : String) : Int → Prop
  | mk {plus zeros body ds fraction : List Char}
    (hs : trimBy isWhiteSpace s.toList = plus ++ (zeros ++ (body ++ fraction)))
    (hplus : plus = [] ∨ plus = ['+']) (hzeros : LeadingZeros zeros) (hbody : DigitGroups body ds)
    (hfirst : body.head? ≠ some '0') (hfraction : ZeroFraction fraction)
    (hshort : ds.length ≤ maxIntegerText) : AmountLiteral s (digitsValue ds)

/-- A text that begins with a digit other than zero. -/
def Leads (cs : List Char) : Prop := ∃ c tail, cs = c :: tail ∧ c.isDigit = true ∧ c ≠ '0'

theorem leads_cons {c : Char} {tail : List Char} :
    Leads (c :: tail) ↔ c.isDigit = true ∧ c ≠ '0' := by
  constructor
  · rintro ⟨_, _, ⟨⟩, h⟩
    exact h
  · exact fun h => ⟨c, tail, rfl, h⟩

theorem not_leads_of_filler {c : Char} (hc : c = '0' ∨ c = '_') (tail : List Char) :
    ¬Leads (c :: tail) := by
  rw [leads_cons]
  rcases hc with rfl | rfl <;> decide

section

variable {cs rest front body ds plus zeros fraction : List Char}

/-! ### In front of the digits -/

theorem exists_plus (h : dropPlus? cs = some rest) :
    ∃ plus, (plus = [] ∨ plus = ['+']) ∧ cs = plus ++ rest := by
  unfold dropPlus? at h
  split at h
  · cases h
  · exact ⟨['+'], .inr rfl, by cases h; rfl⟩
  · exact ⟨[], .inl rfl, by cases h; rfl⟩

theorem dropPlus?_append (hplus : plus = [] ∨ plus = ['+']) {c : Char} (hc : c.isDigit = true) :
    dropPlus? (plus ++ c :: rest) = some (c :: rest) := by
  have hminus : c ≠ '-' := ne_of_isDigit hc rfl
  have hsign : c ≠ '+' := ne_of_isDigit hc rfl
  rcases hplus with rfl | rfl
  · rw [List.nil_append, dropPlus?]
    · rintro _ ⟨⟩
      exact hsign rfl
    · rintro _ ⟨⟩
      exact hsign rfl
  · rw [List.singleton_append, dropPlus?]
    rintro _ ⟨⟩
    exact hminus rfl

/-- What is dropped behind a zero are zeros and underscores. -/
theorem exists_of_go {last : Char} (hlast : last = '0' ∨ last = '_')
    (h : dropLeadingZeros?.go last cs = some rest) (hrest : Leads rest) :
    ∃ zs, (∀ z ∈ zs, z = '0' ∨ z = '_') ∧ cs = zs ++ rest := by
  induction cs generalizing last with
  | nil =>
    cases h
    exact absurd hrest (not_leads_of_filler hlast _)
  | cons c cs ih =>
    by_cases hpoint : c = '.'
    · subst hpoint
      cases h
      exact absurd hrest (not_leads_of_filler hlast _)
    rw [dropLeadingZeros?.go] at h
    · split_ifs at h with hskip hkeep
      · have hc : c = '0' ∨ c = '_' := by simpa using hskip
        obtain ⟨zs, hzs, rfl⟩ := ih hc h
        exact ⟨c :: zs, List.forall_mem_cons.2 ⟨hc, hzs⟩, rfl⟩
      · cases h
        exact ⟨[], by simp, rfl⟩
    · exact hpoint

theorem go_append {zs : List Char} (hzs : ∀ z ∈ zs, z = '0' ∨ z = '_') (hrest : Leads rest)
    (last : Char) : dropLeadingZeros?.go last (zs ++ rest) = some rest := by
  induction zs generalizing last with
  | nil =>
    obtain ⟨c, tail, rfl, hdigit, hzero⟩ := hrest
    have hpoint : c ≠ '.' := ne_of_isDigit hdigit rfl
    have hunderscore := ne_underscore_of_isDigit hdigit
    rw [List.nil_append, dropLeadingZeros?.go]
    · simp [hzero, hunderscore, hdigit]
    · exact hpoint
  | cons z zs ih =>
    obtain ⟨hz, hzs⟩ := List.forall_mem_cons.1 hzs
    have hpoint : z ≠ '.' := by rcases hz with rfl | rfl <;> decide
    have hskip : (z == '0' || z == '_') = true := by simpa using hz
    rw [List.cons_append, dropLeadingZeros?.go]
    · rw [if_pos hskip]
      exact ih hzs z
    · exact hpoint

theorem exists_zeros (h : dropZeros? cs = some rest) (hrest : Leads rest) :
    ∃ zeros, LeadingZeros zeros ∧ cs = zeros ++ rest := by
  unfold dropZeros? at h
  split at h
  · obtain ⟨_, -, rfl⟩ := Option.map_eq_some_iff.1 h
    obtain ⟨_, _, ⟨⟩, hdigit, -⟩ := hrest
    exact absurd hdigit (by decide)
  · unfold dropLeadingZeros? at h
    split at h
    · obtain ⟨zs, hzs, rfl⟩ := exists_of_go (.inl rfl) h hrest
      exact ⟨'0' :: zs, ⟨rfl, hzs⟩, rfl⟩
    · split_ifs at h
      cases h
      exact ⟨[], trivial, rfl⟩
    · cases h

theorem dropZeros?_append (hzeros : LeadingZeros zeros) (hrest : Leads rest) :
    dropZeros? (zeros ++ rest) = some rest := by
  cases zeros with
  | nil =>
    obtain ⟨c, tail, rfl, hdigit, hzero⟩ := hrest
    have hminus : c ≠ '-' := ne_of_isDigit hdigit rfl
    rw [List.nil_append, dropZeros?]
    · rw [dropLeadingZeros?]
      · exact if_pos hdigit
      · exact hzero
    · rintro _ ⟨⟩
      exact hminus rfl
  | cons z zs =>
    obtain ⟨rfl, hzs⟩ := hzeros
    exact go_append hzs hrest '0'

/-! ### Behind the digits -/

theorem exists_fraction (h : dropZeroFraction? cs = some front) :
    ∃ fraction, ZeroFraction fraction ∧ cs = front ++ fraction := by
  by_cases hpoint : '.' ∈ cs
  · obtain ⟨before, after, rfl, hbefore⟩ := List.eq_append_cons_of_mem hpoint
    rw [dropZeroFraction?, cutList_append hbefore] at h
    dsimp only at h
    split_ifs at h with hzeros
    cases h
    simp only [Bool.and_eq_true, Bool.not_eq_true', List.isEmpty_eq_false_iff, List.all_eq_true,
      beq_iff_eq] at hzeros
    exact ⟨'.' :: after, ⟨rfl, hzeros⟩, rfl⟩
  · rw [dropZeroFraction?, cutList_of_not_mem hpoint] at h
    cases h
    exact ⟨[], trivial, (List.append_nil _).symm⟩

theorem dropZeroFraction?_append (hfraction : ZeroFraction fraction) (hfront : '.' ∉ front) :
    dropZeroFraction? (front ++ fraction) = some front := by
  cases fraction with
  | nil => rw [List.append_nil, dropZeroFraction?, cutList_of_not_mem hfront]
  | cons c zs =>
    obtain ⟨rfl, hne, hzs⟩ := hfraction
    rw [dropZeroFraction?, cutList_append hfront]
    simpa [hne] using hzs

/-! ### The digits -/

theorem getLast?_of_groups (h : DigitGroups body ds) : body.getLast? ≠ some '_' := by
  induction h with
  | single hc => simpa using ne_underscore_of_isDigit hc
  | digit hc h ih =>
    obtain ⟨d, tail, rfl, -⟩ := h.head
    rwa [List.getLast?_cons_cons]
  | underscore hc h ih =>
    obtain ⟨d, tail, rfl, -⟩ := h.head
    rwa [List.getLast?_cons_cons, List.getLast?_cons_cons]

theorem doublesUnderscore_cons {c : Char} : doublesUnderscore (c :: cs) = false ↔
    (c = '_' → cs.head? ≠ some '_') ∧ doublesUnderscore cs = false := by
  by_cases hdouble : c = '_' ∧ cs.head? = some '_'
  · obtain ⟨rfl, hhead⟩ := hdouble
    obtain ⟨tail, rfl⟩ := List.head?_eq_some_iff.1 hhead
    simp [doublesUnderscore]
  · rw [doublesUnderscore]
    · exact ⟨fun h => ⟨fun hc hhead => hdouble ⟨hc, hhead⟩, h⟩, And.right⟩
    · rintro tail rfl rfl
      exact hdouble ⟨rfl, rfl⟩

theorem doublesUnderscore_of_groups (h : DigitGroups body ds) : doublesUnderscore body = false := by
  induction h with
  | single hc => exact doublesUnderscore_cons.2 ⟨fun _ => by simp, rfl⟩
  | digit hc h ih =>
    exact doublesUnderscore_cons.2 ⟨fun h => absurd h (ne_underscore_of_isDigit hc), ih⟩
  | underscore hc h ih =>
    obtain ⟨d, tail, rfl, hd⟩ := h.head
    have hhead : (d :: tail).head? ≠ some '_' := by simpa using ne_underscore_of_isDigit hd
    exact doublesUnderscore_cons.2 ⟨fun h => absurd h (ne_underscore_of_isDigit hc),
      doublesUnderscore_cons.2 ⟨fun _ => hhead, ih⟩⟩

theorem dropInnerUnderscores?_of_groups (h : DigitGroups body ds) :
    dropInnerUnderscores? body = some ds := by
  have hhead : body.head? ≠ some '_' := by
    obtain ⟨d, tail, rfl, hd⟩ := h.head
    simpa using ne_underscore_of_isDigit hd
  rw [dropInnerUnderscores?, h.dropUnderscores_eq, doublesUnderscore_of_groups h]
  simp [hhead, getLast?_of_groups h]

/-- Underscores neither at an end nor side by side stand between digits. -/
theorem underscoresBetweenDigits_of_inner (hgrouped : ∀ c ∈ body, isGrouped c = true)
    (hhead : body.head? ≠ some '_') (hlast : body.getLast? ≠ some '_')
    (hdoubles : doublesUnderscore body = false) : underscoresBetweenDigits body = true := by
  have hdigit {c : Char} (hc : isGrouped c = true) (hne : c ≠ '_') : c.isDigit = true := by
    simp only [isGrouped, Bool.or_eq_true, beq_iff_eq] at hc
    exact hc.resolve_right hne
  induction body using underscoresBetweenDigits.induct with
  | case1 => rfl
  | case2 cs => exact absurd rfl hhead
  | case3 c d cs hc ih =>
    obtain ⟨hcd, hgrouped⟩ := List.forall_mem_cons.1 hgrouped
    have hgrouped := (List.forall_mem_cons.1 hgrouped).2
    obtain ⟨hbehind, hdoubles⟩ := doublesUnderscore_cons.1 (doublesUnderscore_cons.1 hdoubles).2
    rw [List.getLast?_cons_cons, List.getLast?_cons_cons] at hlast
    have hd : d ≠ '_' := by simpa using hbehind rfl
    rw [underscoresBetweenDigits, hdigit hcd hc, hdigit (hgrouped d (.head _)) hd,
      ih hgrouped (by simpa using hd) hlast hdoubles]
    · rfl
    · exact hc
  | case4 c hc => exact absurd rfl hlast
  | case5 c cs hc hgroup hend ih =>
    obtain ⟨hcd, hgrouped⟩ := List.forall_mem_cons.1 hgrouped
    rw [underscoresBetweenDigits]
    · refine ih hgrouped ?_ ?_ (doublesUnderscore_cons.1 hdoubles).2
      · intro hunderscore
        obtain ⟨tail, rfl⟩ := List.head?_eq_some_iff.1 hunderscore
        cases tail with
        | nil => exact hend rfl
        | cons d tail => exact hgroup d tail rfl
      · cases cs with
        | nil => simp
        | cons d tail => rwa [List.getLast?_cons_cons] at hlast
    · exact hc
    · exact hgroup
    · exact hend

theorem groups_of_dropInnerUnderscores? (h : dropInnerUnderscores? body = some ds)
    (hds : AreDigits ds) (hne : ds ≠ []) : DigitGroups body ds := by
  rw [dropInnerUnderscores?] at h
  split_ifs at h with hbad
  cases h
  simp only [Bool.or_eq_true, beq_iff_eq, not_or, Bool.not_eq_true] at hbad
  obtain ⟨⟨hhead, hlast⟩, hdoubles⟩ := hbad
  have hgrouped : ∀ c ∈ body, isGrouped c = true := by
    intro c hc
    by_cases hunderscore : c = '_'
    · simp [isGrouped, hunderscore]
    · have hmem : c ∈ dropUnderscores body := by simp [dropUnderscores, hc, hunderscore]
      simp [isGrouped, hds c hmem]
  refine .of_underscoresBetweenDigits hgrouped ?_
    (underscoresBetweenDigits_of_inner hgrouped hhead hlast hdoubles)
  rintro rfl
  exact hne rfl

theorem digitsValue_pos (h : Leads ds) : 0 < digitsValue ds := by
  obtain ⟨c, tail, rfl, hdigit, hzero⟩ := h
  have hfirst : 48 < c.toNat := by
    have hrange := isDigit_iff.1 hdigit
    have hne : c.toNat ≠ 48 := fun h => hzero (Char.toNat_inj.1 h)
    omega
  rw [digitsValue, ofDigits_eq_ofDigitChars, ofDigitChars_cons_places]
  exact Nat.add_pos_left (Nat.mul_pos (Nat.pow_pos (by decide)) (by omega)) _

/-- Digits of which the first is no zero spell a positive number. -/
theorem readSigned?_eq_some {n : Int} :
    readSigned? ds = some n ∧ 0 < n ↔ Leads ds ∧ AreDigits ds ∧ n = digitsValue ds := by
  constructor
  · rintro ⟨h, hpos⟩
    unfold readSigned? at h
    split at h
    · obtain ⟨m, -, rfl⟩ := Option.map_eq_some_iff.1 h
      omega
    · obtain ⟨m, hm, rfl⟩ := Option.map_eq_some_iff.1 h
      unfold readMagnitude? at hm
      split at hm
      · cases hm
      · cases hm
      · rename_i hne hzeros
        split_ifs at hm with hall
        cases hm
        have hds : AreDigits ds := List.all_eq_true.1 hall
        rw [spanDigits_of_areDigits hds] at hpos ⊢
        refine ⟨?_, hds, rfl⟩
        obtain ⟨c, tail, rfl⟩ := List.exists_cons_of_ne_nil hne
        refine ⟨c, tail, rfl, hds c (.head _), ?_⟩
        rintro rfl
        -- A zero that stands alone is no positive number.
        cases tail with
        | nil => exact absurd hpos (by decide)
        | cons d tail => exact hzeros d tail rfl
  · rintro ⟨hleads, hds, rfl⟩
    have hpos := digitsValue_pos hleads
    refine ⟨?_, by exact_mod_cast hpos⟩
    obtain ⟨c, tail, rfl, hdigit, hzero⟩ := hleads
    have hminus : c ≠ '-' := ne_of_isDigit hdigit rfl
    have hmagnitude : readMagnitude? (c :: tail) = some (digitsValue (c :: tail)) := by
      rw [readMagnitude?, if_pos (List.all_eq_true.2 hds), spanDigits_of_areDigits hds]
      · rfl
      · simp
      · rintro _ _ ⟨⟩
        exact hzero rfl
    rw [readSigned?, hmagnitude]
    · rfl
    · rintro _ ⟨⟩
      exact hminus rfl

/-! ### Whole texts -/

/-- Digits in groups begin as they do alone. -/
theorem leads_groups (h : DigitGroups body ds) : Leads body ↔ Leads ds := by
  cases h <;> simp only [leads_cons]

theorem leads_append (h : Leads body) (fraction : List Char) : Leads (body ++ fraction) := by
  obtain ⟨c, tail, rfl, hc⟩ := h
  exact ⟨c, tail ++ fraction, rfl, hc⟩

/-- A number begins with a digit, whether zeros stand in front of it or not. -/
theorem exists_digit_append (hzeros : LeadingZeros zeros) (hrest : Leads rest) :
    ∃ c tail, zeros ++ rest = c :: tail ∧ c.isDigit = true := by
  cases zeros with
  | nil =>
    obtain ⟨c, tail, rfl, hdigit, -⟩ := hrest
    exact ⟨c, tail, rfl, hdigit⟩
  | cons z zs =>
    obtain ⟨rfl, -⟩ := hzeros
    exact ⟨'0', zs ++ rest, rfl, by decide⟩

/-- What is taken away from a literal is all that stands around its digits and among them. -/
theorem plainInteger?_eq_some (hds : Leads ds) : plainInteger? cs = some ds ∧ AreDigits ds ↔
    ∃ plus zeros body fraction, cs = plus ++ (zeros ++ (body ++ fraction)) ∧
      (plus = [] ∨ plus = ['+']) ∧ LeadingZeros zeros ∧ DigitGroups body ds ∧
        ZeroFraction fraction := by
  constructor
  · rintro ⟨h, hdigits⟩
    simp only [plainInteger?, Option.bind_eq_bind, Option.bind_eq_some_iff] at h
    obtain ⟨unsigned, hunsigned, unpadded, hunpadded, body, hbody, hinner⟩ := h
    have hne : ds ≠ [] := by
      obtain ⟨c, tail, rfl, -⟩ := hds
      exact List.cons_ne_nil c tail
    have hgroups := groups_of_dropInnerUnderscores? hinner hdigits hne
    obtain ⟨fraction, hfraction, rfl⟩ := exists_fraction hbody
    obtain ⟨zeros, hzeros, rfl⟩ :=
      exists_zeros hunpadded (leads_append ((leads_groups hgroups).2 hds) fraction)
    obtain ⟨plus, hplus, rfl⟩ := exists_plus hunsigned
    exact ⟨plus, zeros, body, fraction, rfl, hplus, hzeros, hgroups, hfraction⟩
  · rintro ⟨plus, zeros, body, fraction, rfl, hplus, hzeros, hgroups, hfraction⟩
    refine ⟨?_, hgroups.areDigits⟩
    have hleads := leads_append ((leads_groups hgroups).2 hds) fraction
    have hpoint : '.' ∉ body := fun h => absurd (hgroups.isGrouped _ h) (by decide)
    obtain ⟨c, tail, hcs, hdigit⟩ := exists_digit_append hzeros hleads
    have hunsigned : dropPlus? (plus ++ (zeros ++ (body ++ fraction))) =
        some (zeros ++ (body ++ fraction)) := by
      rw [hcs]
      exact dropPlus?_append hplus hdigit
    simp only [plainInteger?, hunsigned, dropZeros?_append hzeros hleads,
      dropZeroFraction?_append hfraction hpoint, dropInnerUnderscores?_of_groups hgroups,
      Option.bind_eq_bind, Option.bind_some]

/-- A text is read as a positive integer exactly if it is a literal of that. -/
theorem readIntegerText_eq_ok {s : String} {n : Int} :
    readIntegerText s = .ok n ∧ 0 < n ↔ AmountLiteral s n := by
  constructor
  · rintro ⟨h, hpos⟩
    rw [readIntegerText] at h
    split at h
    · rename_i ds hplain
      split at h
      · rename_i m hsigned
        split_ifs at h with hlong
        cases h
        obtain ⟨hleads, hds, rfl⟩ := readSigned?_eq_some.1 ⟨hsigned, hpos⟩
        obtain ⟨plus, zeros, body, fraction, hs, hplus, hzeros, hgroups, hfraction⟩ :=
          (plainInteger?_eq_some hleads).1 ⟨hplain, hds⟩
        refine .mk hs hplus hzeros hgroups ?_ hfraction (Nat.le_of_not_lt hlong)
        obtain ⟨c, tail, rfl, -, hzero⟩ := (leads_groups hgroups).2 hleads
        simpa using hzero
      · cases h
    · cases h
  · intro h
    cases h with
    | @mk plus zeros body ds fraction hs hplus hzeros hgroups hfirst hfraction hshort =>
      have hbody : Leads body := by
        obtain ⟨c, tail, rfl, hc⟩ := hgroups.head
        exact leads_cons.2 ⟨hc, by simpa using hfirst⟩
      have hleads := (leads_groups hgroups).1 hbody
      obtain ⟨hplain, hds⟩ := (plainInteger?_eq_some hleads).2
        ⟨plus, zeros, body, fraction, hs, hplus, hzeros, hgroups, hfraction⟩
      obtain ⟨hsigned, hpos⟩ := readSigned?_eq_some.2 ⟨hleads, hds, rfl⟩
      refine ⟨?_, hpos⟩
      simp only [readIntegerText, hplain, hsigned, if_neg (Nat.not_lt_of_ge hshort)]

end

end CurrencyLedger.Validation
