import CurrencyLedger.Http.Listings
import CurrencyLedger.Proofs.Rows

/-!
What a listing shows of one user's rows.

The orders of listings leave no ties among the rows of one user: wallets differ in their currency,
transactions in their reference, activities in their identifier. So what is selected among a user's
rows and put in order does not tell where these stood in the table, nor what stood between them.
-/

namespace CurrencyLedger

/-! ### Rows without ties -/

/-- An order in which any two rows can be compared. -/
structure Sorts (le : α → α → Bool) : Prop where
  trans : ∀ a b c, le a b = true → le b c = true → le a c = true
  total : ∀ a b, (le a b || le b a) = true

/-- Rows that do not tie are sorted in one way, wherever they stood before. -/
theorem Sorts.mergeSort_eq {le : α → α → Bool} (h : Sorts le) {l l' : List α} (hperm : l.Perm l')
    (hties : ∀ a ∈ l, ∀ b ∈ l, le a b = true → le b a = true → a = b) :
    l.mergeSort le = l'.mergeSort le := by
  refine List.Perm.eq_of_pairwise (fun a b ha hb => ?_) (List.pairwise_mergeSort h.trans h.total l)
    (List.pairwise_mergeSort h.trans h.total l') ?_
  · exact hties a (List.mem_mergeSort.1 ha) b (hperm.mem_iff.2 (List.mem_mergeSort.1 hb))
  · exact (List.mergeSort_perm l le).trans (hperm.trans (List.mergeSort_perm l' le).symm)

/-- The one row of its kind is found wherever it stands. -/
theorem find?_eq_of_perm {p : α → Bool} {l l' : List α} (hperm : l.Perm l')
    (hone : ∀ a ∈ l, ∀ b ∈ l, p a = true → p b = true → a = b) : l.find? p = l'.find? p := by
  cases h : l.find? p with
  | none =>
    refine (List.find?_eq_none.2 fun a ha => ?_).symm
    exact List.find?_eq_none.1 h a (hperm.mem_iff.2 ha)
  | some a =>
    have hmem := List.mem_of_find?_eq_some h
    cases h' : l'.find? p with
    | none => exact absurd (List.find?_some h) (List.find?_eq_none.1 h' a (hperm.mem_iff.1 hmem))
    | some b =>
      rw [hone a hmem b (hperm.mem_iff.2 (List.mem_of_find?_eq_some h')) (List.find?_some h)
        (List.find?_some h')]

/-- What is selected among rows that are the same but for their order is the same so. -/
theorem perm_filter_of_own {own p : α → Bool} {l l' : List α}
    (hperm : (l.filter own).Perm (l'.filter own)) (hown : ∀ a, p a = true → own a = true) :
    (l.filter p).Perm (l'.filter p) := by
  have hsplit (l : List α) : l.filter p = (l.filter own).filter p := by
    rw [List.filter_filter]
    refine List.filter_congr fun a _ => ?_
    cases hp : p a with
    | false => rfl
    | true => rw [hown a hp, Bool.and_self]
  rw [hsplit l, hsplit l']
  exact hperm.filter p

/-- Orders by a text, the last one first, and then in another way. -/
theorem Sorts.byText {le : α → α → Bool} (h : Sorts le) (d : α → String) :
    Sorts fun a b => d b < d a || (d a == d b && le a b) := by
  refine ⟨fun a b c hab hbc => ?_, fun a b => ?_⟩
  · have htrans := h.trans a b c
    simp only [Bool.or_eq_true, decide_eq_true_eq, Bool.and_eq_true, beq_iff_eq] at hab hbc ⊢
    rcases hab with hab | ⟨hab, hle⟩
    · rcases hbc with hbc | ⟨hbc, -⟩
      · exact .inl (String.lt_trans hbc hab)
      · exact .inl (hbc ▸ hab)
    · rw [hab]
      exact hbc.imp_right fun hbc => ⟨hbc.1, htrans hle hbc.2⟩
  · have htotal := h.total a b
    simp only [Bool.or_eq_true, decide_eq_true_eq, Bool.and_eq_true, beq_iff_eq] at htotal ⊢
    by_cases hlt : d b < d a
    · exact .inl (.inl hlt)
    · by_cases hgt : d a < d b
      · exact .inr (.inl hgt)
      · have heq : d a = d b := String.le_antisymm (String.not_lt.1 hlt) (String.not_lt.1 hgt)
        exact htotal.imp (fun hle => .inr ⟨heq, hle⟩) fun hle => .inr ⟨heq.symm, hle⟩

/-- Rows that tie in such an order tie in the other way. -/
theorem ties_of_byText (d : α → String) (le : α → α → Bool) (a b : α)
    (hab : (decide (d b < d a) || (d a == d b && le a b)) = true)
    (hba : (decide (d a < d b) || (d b == d a && le b a)) = true) :
    le a b = true ∧ le b a = true := by
  simp only [Bool.or_eq_true, decide_eq_true_eq, Bool.and_eq_true, beq_iff_eq] at hab hba
  rcases hab with hlt | ⟨heq, hle⟩
  · rcases hba with hgt | ⟨heq, -⟩
    · exact absurd (String.lt_trans hlt hgt) (String.lt_irrefl _)
    · exact absurd (heq ▸ hlt) (String.lt_irrefl _)
  · rcases hba with hgt | ⟨-, hle'⟩
    · exact absurd (heq ▸ hgt) (String.lt_irrefl _)
    · exact ⟨hle, hle'⟩

theorem sorts_byCurrency : Sorts fun v w : Wallet => decide (v.currency ≤ w.currency) := by
  refine ⟨fun u v w huv hvw => ?_, fun v w => ?_⟩
  · exact decide_eq_true (String.le_trans (of_decide_eq_true huv) (of_decide_eq_true hvw))
  · simpa using String.le_total v.currency w.currency

theorem sorts_newestFirst : Sorts History.newestFirst := by
  have h : Sorts fun x y : Transaction => decide (y.reference ≤ x.reference) := by
    refine ⟨fun x y z hxy hyz => ?_, fun x y => ?_⟩
    · exact decide_eq_true (String.le_trans (of_decide_eq_true hyz) (of_decide_eq_true hxy))
    · simpa using String.le_total y.reference x.reference
  exact h.byText fun x => x.createdAt.text

/-- Transactions that tie have one reference. -/
theorem reference_eq_of_ties {x y : Transaction} (hxy : History.newestFirst x y = true)
    (hyx : History.newestFirst y x = true) : x.reference = y.reference := by
  obtain ⟨hle, hge⟩ := ties_of_byText (fun x : Transaction => x.createdAt.text)
    (fun x y => decide (y.reference ≤ x.reference)) x y hxy hyx
  simp only [decide_eq_true_eq] at hle hge
  exact String.le_antisymm hge hle

theorem sorts_newestActivityFirst : Sorts Http.newestActivityFirst := by
  have h : Sorts fun a b : Activity => decide (b.id ≤ a.id) := by
    refine ⟨fun a b c hab hbc => ?_, fun a b => ?_⟩
    · exact decide_eq_true (Nat.le_trans (of_decide_eq_true hbc) (of_decide_eq_true hab))
    · simpa using Nat.le_total b.id a.id
  exact h.byText fun a => a.date.text

/-- Activities that tie have one identifier. -/
theorem id_eq_of_ties {a b : Activity} (hab : Http.newestActivityFirst a b = true)
    (hba : Http.newestActivityFirst b a = true) : a.id = b.id := by
  obtain ⟨hle, hge⟩ := ties_of_byText (fun a : Activity => a.date.text)
    (fun a b => decide (b.id ≤ a.id)) a b hab hba
  simp only [decide_eq_true_eq] at hle hge
  exact Nat.le_antisymm hge hle

/-! ### A user's rows -/

namespace Tables

/-- Rows are known by their keys. -/
structure Keyed (t : Tables) : Prop where
  owners : (t.wallets.map fun w => (w.userId, w.currency)).Nodup
  transactionIds : (t.transactions.map (·.id)).Nodup
  references : (t.transactions.map (·.reference)).Nodup
  activityIds : (t.activities.map (·.id)).Nodup

/-- A user has the same rows in two stores, whatever rows others have and in whatever order. -/
structure Alike (userId : Int) (a b : Tables) : Prop where
  user : a.user? userId = b.user? userId
  wallets : (a.wallets.filter (·.userId == userId)).Perm (b.wallets.filter (·.userId == userId))
  transactions : (a.transactions.filter (·.userId == userId)).Perm
    (b.transactions.filter (·.userId == userId))
  activities : (a.activities.filter (·.userId == some userId)).Perm
    (b.activities.filter (·.userId == some userId))

/-- The store with the rows of one user alone. -/
def alone (t : Tables) (userId : Int) : Tables where
  users := t.users.filter (·.id == userId)
  wallets := t.wallets.filter (·.userId == userId)
  transactions := t.transactions.filter (·.userId == userId)
  activities := t.activities.filter (·.userId == some userId)

section

variable {userId : Int} {a b t : Tables}

theorem alike_alone (t : Tables) (userId : Int) : t.Alike userId (t.alone userId) := by
  refine ⟨?_, ?_, ?_, ?_⟩
  · rw [user?, user?, alone, List.find?_filter]
    congr 1
    funext u
    cases u.id == userId <;> rfl
  all_goals simp [alone, List.filter_filter]

/-- The wallet of the user in a currency. -/
theorem Alike.walletOf?_eq (h : a.Alike userId b) (ha : a.Keyed) (code : String) :
    a.walletOf? userId code = b.walletOf? userId code := by
  have hfirst (t : Tables) : t.walletOf? userId code =
      (t.wallets.filter (·.userId == userId)).find? (·.currency == code) := by
    rw [walletOf?, List.find?_filter]
    simp only [Bool.decide_and, Bool.decide_eq_true]
  rw [hfirst a, hfirst b]
  refine find?_eq_of_perm h.wallets fun v hv w hw hcv hcw => ?_
  obtain ⟨hv, huv⟩ := List.mem_filter.1 hv
  obtain ⟨hw, huw⟩ := List.mem_filter.1 hw
  refine List.inj_on_of_nodup_map ha.owners hv hw (Prod.ext ?_ ?_)
  · exact (eq_of_beq huv).trans (eq_of_beq huw).symm
  · exact (eq_of_beq hcv).trans (eq_of_beq hcw).symm

/-- Wallets that are selected among those of the user. -/
theorem Alike.byCurrency_eq (h : a.Alike userId b) (ha : a.Keyed) {p : Wallet → Bool}
    (hown : ∀ w, p w = true → (w.userId == userId) = true) :
    Wallets.byCurrency (a.wallets.filter p) = Wallets.byCurrency (b.wallets.filter p) := by
  refine sorts_byCurrency.mergeSort_eq (perm_filter_of_own h.wallets hown)
    fun v hv w hw hvw hwv => ?_
  obtain ⟨hv, hpv⟩ := List.mem_filter.1 hv
  obtain ⟨hw, hpw⟩ := List.mem_filter.1 hw
  have hcurrency := String.le_antisymm (of_decide_eq_true hvw) (of_decide_eq_true hwv)
  have huser : v.userId = w.userId := by rw [eq_of_beq (hown v hpv), eq_of_beq (hown w hpw)]
  exact List.inj_on_of_nodup_map ha.owners hv hw (Prod.ext huser hcurrency)

/-- The activities of the user. -/
theorem Alike.selectActivities_eq (h : a.Alike userId b) (ha : a.Keyed) (limit : Int) :
    Http.selectActivities userId limit a = Http.selectActivities userId limit b := by
  have hsorted := sorts_newestActivityFirst.mergeSort_eq h.activities fun x hx y hy hxy hyx =>
    List.inj_on_of_nodup_map ha.activityIds (List.mem_filter.1 hx).1 (List.mem_filter.1 hy).1
      (id_eq_of_ties hxy hyx)
  rw [Http.selectActivities, Http.selectActivities, hsorted]

/-- A transaction of the user, by its identifier. -/
theorem Alike.find?_eq (h : a.Alike userId b) (ha : a.Keyed) (id : String) :
    (a.transactions.find? fun x => x.id == id && x.userId == userId) =
      b.transactions.find? fun x => x.id == id && x.userId == userId := by
  have hfirst (t : Tables) : (t.transactions.find? fun x => x.id == id && x.userId == userId) =
      (t.transactions.filter (·.userId == userId)).find? (·.id == id) := by
    rw [List.find?_filter]
    simp only [Bool.decide_and, Bool.decide_eq_true, Bool.and_comm]
  rw [hfirst a, hfirst b]
  refine find?_eq_of_perm h.transactions fun x hx y hy hix hiy => ?_
  exact List.inj_on_of_nodup_map ha.transactionIds (List.mem_filter.1 hx).1
    (List.mem_filter.1 hy).1 ((eq_of_beq hix).trans (eq_of_beq hiy).symm)

/-- Transactions that pass a filter which lets only the user's pass. -/
theorem Alike.select_eq (h : a.Alike userId b) (ha : a.Keyed) {f : History.Filter}
    (hown : ∀ x, f.admits x = true → (x.userId == userId) = true) :
    History.select f a = History.select f b := by
  refine sorts_newestFirst.mergeSort_eq (perm_filter_of_own h.transactions hown)
    fun x hx y hy hxy hyx => ?_
  exact List.inj_on_of_nodup_map ha.references (List.mem_filter.1 hx).1 (List.mem_filter.1 hy).1
    (reference_eq_of_ties hxy hyx)

/-- How many there are. -/
theorem Alike.count_eq (h : a.Alike userId b) {f : History.Filter}
    (hown : ∀ x, f.admits x = true → (x.userId == userId) = true) :
    (a.transactions.filter f.admits).length = (b.transactions.filter f.admits).length :=
  (perm_filter_of_own h.transactions hown).length_eq

end

end Tables

end CurrencyLedger
