import CurrencyLedger.Proofs.DecimalText

/-!
Reading back the scientific form.

The scientific form has a point when it has more digits than one, and a power of ten when the digits
alone would not show where the point belongs. Both are read as they were written: the digits behind
the point take away from the power of ten what the point in front of them has added. So a decimal
that is written and read again is the same decimal.
-/

namespace CurrencyLedger.Decimal

open Text

/-- A sign and digits are read as the exponent that they were written for. -/
theorem readExponent?_exponentText (e : Int) : readExponent? (exponentText e) = some e := by
  have hdigits (k : Nat) : spanDigits (Nat.toDigits 10 k ++ []) =
      ((Nat.toDigits 10 k).map fun c => c.toNat - 48, []) :=
    spanDigits_append (isDigit_toDigits k) (by simp)
  have hvalue (k : Nat) := ofDigits_toDigits 0 k
  simp only [List.append_nil, List.replicate_zero, List.nil_append] at hdigits hvalue
  rw [exponentText, readExponent?]
  by_cases he : e < 0
  · obtain ⟨k, rfl⟩ : ∃ k : Nat, e = -k := ⟨e.natAbs, by omega⟩
    rw [if_pos he, splitSign, Int.natAbs_neg, Int.natAbs_natCast]
    simp only [hdigits, hvalue]
    simp
  · obtain ⟨k, rfl⟩ : ∃ k : Nat, e = k := ⟨e.natAbs, by omega⟩
    rw [if_neg he, splitSign, Int.natAbs_natCast]
    simp only [hdigits, hvalue]
    simp

/-- The scientific form is read as its coefficient and its exponent. -/
theorem readNumber?_finiteText (c : Nat) (e : Int) :
    readNumber? (finiteText c e) = some (c, e) := by
  have hdigits := isDigit_toDigits c
  have hne : Nat.toDigits 10 c ≠ [] := Nat.toDigits_ne_nil
  have hvalue := ofDigits_toDigits 0 c
  rw [List.replicate_zero, List.nil_append] at hvalue
  rw [finiteText]
  split
  · rename_i h
    rcases Nat.eq_zero_or_pos (-e).toNat with hplaces | hplaces
    · -- Neither a point nor a power of ten is needed.
      obtain rfl : e = 0 := by omega
      have hread : readNumber? (Nat.toDigits 10 c ++ []) = some (_, 0) :=
        readNumber?_digits hdigits hne (by simp) rfl
      rw [List.append_nil, hvalue] at hread
      simpa [pointed] using hread
    · rw [readNumber?_pointed c hplaces]
      congr 2
      omega
  · have hexponent := readExponent?_exponentText (e + (Nat.toDigits 10 c).length - 1)
    split
    · rename_i d r rest heq
      rw [heq] at hdigits hvalue hexponent ⊢
      have hfront : ∀ x ∈ [d], x.isDigit = true := by
        intro x hx
        exact hdigits x (List.mem_cons.2 (.inl (List.mem_singleton.1 hx)))
      have hback : ∀ x ∈ r :: rest, x.isDigit = true := by
        intro x hx
        exact hdigits x (List.mem_cons_of_mem d hx)
      have hread := readNumber?_point hfront (by simp) hback (by simp [exponentText]) hexponent
      rw [List.singleton_append, List.singleton_append, hvalue] at hread
      refine hread.trans ?_
      simp only [List.length_cons]
      congr 2
      omega
    · rename_i hshort
      have hlength : (Nat.toDigits 10 c).length = 1 := by
        rcases hds : Nat.toDigits 10 c with _ | ⟨d, _ | ⟨r, rest⟩⟩
        · exact absurd hds hne
        · rfl
        · exact (hshort d r rest hds).elim
      have hread := readNumber?_digits hdigits hne (by simp [exponentText]) hexponent
      rw [hvalue, hlength] at hread
      rw [hlength, hread]
      simp

/-- The written form of a number is read as that number, if it can be held. -/
theorem ofText?_text (negative : Bool) (c : Nat) (e : Int) :
    ofText? (text (.finite negative c e)) =
      if representable c e then some (.finite negative c e) else none := by
  obtain ⟨hnumeral, hdigit⟩ := finiteText_chars c e
  rw [text, ofText?_signText negative hnumeral hdigit, readFinite?, readNumber?_finiteText]

/-- What is read from the written form of a number is that number. -/
theorem eq_of_ofText?_text {negative : Bool} {c : Nat} {e : Int} {d : Decimal}
    (h : ofText? (text (.finite negative c e)) = some d) : d = .finite negative c e := by
  rw [ofText?_text] at h
  split at h
  · exact (Option.some.inj h).symm
  · cases h

end CurrencyLedger.Decimal
