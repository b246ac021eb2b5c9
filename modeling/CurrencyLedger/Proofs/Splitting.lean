import CurrencyLedger.Text.Blank
import CurrencyLedger.Text.Split
import Mathlib.Data.List.Basic
import Mathlib.Tactic.SplitIfs

/-!
Splitting, cutting and trimming.

A text is split at every separator and cut at the first one, which the texts between them do not
contain. Trimming takes blanks away one by one, so what does not see a blank at either end does not
see trimming. A list can be split at what came last of its kind, whatever else came behind it.
-/

namespace CurrencyLedger

/-- What comes to a list is itself the last of a kind, or leaves in place what was the last. -/
theorem exists_last_concat {p q : α → Prop} {xs : List α} {x : α} :
    (∃ front y back, xs ++ [x] = front ++ y :: back ∧ p y ∧ ∀ z ∈ back, q z) ↔
      p x ∨ (∃ front y back, xs = front ++ y :: back ∧ p y ∧ ∀ z ∈ back, q z) ∧ q x := by
  constructor
  · rintro ⟨front, y, back, hxs, hy, hback⟩
    rcases List.eq_nil_or_concat' back with rfl | ⟨back, z, rfl⟩
    · obtain ⟨-, rfl⟩ := List.append_singleton_inj.1 hxs
      exact .inl hy
    · rw [← List.cons_append, ← List.append_assoc, List.append_singleton_inj] at hxs
      obtain ⟨rfl, rfl⟩ := hxs
      exact .inr ⟨⟨front, y, back, rfl, hy, fun z hz => hback z (List.mem_append_left _ hz)⟩,
        hback x (List.mem_append_right _ List.mem_cons_self)⟩
  · rintro (hx | ⟨⟨front, y, back, rfl, hy, hback⟩, hx⟩)
    · exact ⟨xs, x, [], rfl, hx, fun z hz => absurd hz List.not_mem_nil⟩
    · refine ⟨front, y, back ++ [x], by rw [List.append_assoc, List.cons_append], hy, ?_⟩
      rintro z hz
      rcases List.mem_append.1 hz with hz | hz
      · exact hback z hz
      · rw [List.mem_singleton.1 hz]
        exact hx

namespace Text

/-! ### Separators -/

section

variable {sep : Char} {cs front rest : List Char}

theorem splitList_of_not_mem (h : sep ∉ cs) : splitList sep cs = [cs] := by
  induction cs with
  | nil => rfl
  | cons c cs ih =>
    obtain ⟨hc, hcs⟩ := not_or.1 (mt List.mem_cons.2 h)
    rw [splitList, if_neg (Ne.symm hc), ih hcs]

theorem splitList_append (h : sep ∉ front) :
    splitList sep (front ++ sep :: rest) = front :: splitList sep rest := by
  induction front with
  | nil => exact if_pos rfl
  | cons c front ih =>
    obtain ⟨hc, hfront⟩ := not_or.1 (mt List.mem_cons.2 h)
    rw [List.cons_append, splitList, if_neg (Ne.symm hc), ih hfront]

/-- Pieces without separators are the pieces of what they are joined to. -/
theorem splitList_intercalate {pieces : List (List Char)} (hne : pieces ≠ [])
    (h : ∀ p ∈ pieces, sep ∉ p) : splitList sep ([sep].intercalate pieces) = pieces := by
  induction pieces with
  | nil => exact absurd rfl hne
  | cons p pieces ih =>
    have hp := h p List.mem_cons_self
    cases pieces with
    | nil => rw [List.intercalate_singleton, splitList_of_not_mem hp]
    | cons q pieces =>
      have hrest := ih (List.cons_ne_nil _ _) fun x hx => h x (List.mem_cons_of_mem _ hx)
      rw [List.intercalate_cons_cons, List.append_assoc, List.singleton_append,
        splitList_append hp, hrest]

/-- A character behind a text belongs to the last piece. -/
theorem splitList_concat {c : Char} (hc : c ≠ sep) (cs : List Char) : ∃ front last,
    splitList sep cs = front ++ [last] ∧ splitList sep (cs ++ [c]) = front ++ [last ++ [c]] := by
  induction cs with
  | nil => exact ⟨[], [], rfl, if_neg hc⟩
  | cons d cs ih =>
    obtain ⟨front, last, hcs, hconcat⟩ := ih
    rw [List.cons_append, splitList, splitList, hcs, hconcat]
    split_ifs
    · exact ⟨[] :: front, last, rfl, rfl⟩
    · cases front with
      | nil => exact ⟨[], d :: last, rfl, rfl⟩
      | cons p front => exact ⟨(d :: p) :: front, last, rfl, rfl⟩

theorem cutList_of_not_mem (h : sep ∉ cs) : cutList sep cs = (cs, none) := by
  induction cs with
  | nil => rfl
  | cons c cs ih =>
    obtain ⟨hc, hcs⟩ := not_or.1 (mt List.mem_cons.2 h)
    rw [cutList, if_neg (Ne.symm hc), ih hcs]

theorem cutList_append (h : sep ∉ front) :
    cutList sep (front ++ sep :: rest) = (front, some rest) := by
  induction front with
  | nil => exact if_pos rfl
  | cons c front ih =>
    obtain ⟨hc, hfront⟩ := not_or.1 (mt List.mem_cons.2 h)
    rw [List.cons_append, cutList, if_neg (Ne.symm hc), ih hfront]

end

/-! ### Blanks -/

section

variable {p : Char → Bool} {c : Char} {cs : List Char}

theorem trimBy_cons (hc : p c = true) (cs : List Char) : trimBy p (c :: cs) = trimBy p cs := by
  rw [trimBy, List.dropWhile_cons_of_pos hc, trimBy]

theorem trimBy_concat (hc : p c = true) (cs : List Char) : trimBy p (cs ++ [c]) = trimBy p cs := by
  rw [trimBy, trimBy, List.dropWhile_append]
  split_ifs with hall
  · rw [List.isEmpty_iff.1 hall, List.dropWhile_cons_of_pos hc, List.dropWhile_nil]
  · rw [List.reverse_append, List.reverse_singleton, List.singleton_append,
      List.dropWhile_cons_of_pos hc]

/-- What sees no blank at the front and none at the end sees no trimming. -/
theorem eq_of_trimBy {f : List Char → α} (hcons : ∀ c cs, p c = true → f (c :: cs) = f cs)
    (hconcat : ∀ cs c, p c = true → f (cs ++ [c]) = f cs) (cs : List Char) :
    f (trimBy p cs) = f cs := by
  have hfront (cs : List Char) : f (cs.dropWhile p) = f cs := by
    induction cs with
    | nil => rfl
    | cons c cs ih =>
      rw [List.dropWhile_cons]
      split_ifs with hc
      · rw [ih, hcons c cs hc]
      · rfl
  have hback (cs : List Char) : f (cs.dropWhile p).reverse = f cs.reverse := by
    induction cs with
    | nil => rfl
    | cons c cs ih =>
      rw [List.dropWhile_cons]
      split_ifs with hc
      · rw [ih, List.reverse_cons, hconcat _ c hc]
      · rfl
  rw [trimBy, hback, List.reverse_reverse, hfront]

/-- A text between two characters that are no blanks is trimmed already. -/
theorem trimBy_between {d : Char} (hc : p c = false) (hd : p d = false) (cs : List Char) :
    trimBy p (c :: (cs ++ [d])) = c :: (cs ++ [d]) := by
  rw [trimBy, List.dropWhile_cons_of_neg (by simp [hc]), ← List.cons_append, List.reverse_append,
    List.reverse_singleton, List.singleton_append, List.dropWhile_cons_of_neg (by simp [hd]),
    List.reverse_cons, List.reverse_reverse]

/-- Trimming at the end keeps a front that is not trimmed. -/
theorem head?_trimBy (p : Char → Bool) (cs : List Char) :
    (trimBy p cs).head? = (cs.dropWhile p).head? := by
  rw [trimBy]
  cases hfront : cs.dropWhile p with
  | nil => rfl
  | cons c rest =>
    have hc : p c = false := by
      have := List.head_dropWhile_not p (l := cs) (by simp [hfront])
      simpa [hfront] using this
    rw [List.reverse_cons, List.dropWhile_append]
    split_ifs
    · rw [List.dropWhile_cons_of_neg (by simp [hc])]
      rfl
    · rw [List.reverse_append]
      rfl

theorem beginsWith_iff_head? {beginning s : String} (h : beginning.toList = [c]) :
    beginsWith beginning s = true ↔ s.toList.head? = some c := by
  rw [beginsWith, List.isPrefixOf_iff_prefix, h]
  cases s.toList with
  | nil => simp
  | cons d cs => simp [eq_comm]

end

end Text

end CurrencyLedger
