import CurrencyLedger.Proofs.Listings
import CurrencyLedger.Proofs.Statements
import Mathlib.Algebra.Order.Floor.Div
import Mathlib.Tactic.Tauto

/-!
Pages.

A listing counts the rows that pass its filter, and shows a slice of them in their order. Slices of
one length that follow each other are the rows from the front; and since no two rows tie when their
references differ, the order is one of the rows themselves, so every page is cut from the same list.
-/

namespace CurrencyLedger

/-! ### Slices -/

/-- A slice of a list, among slices of one length. -/
def slice (l : List α) (size k : Nat) : List α := (l.drop (k * size)).take size

section

variable {l : List α} {size k n : Nat}

/-- The first slices are the front of the list. -/
theorem flatMap_slice (l : List α) (size n : Nat) :
    (List.range n).flatMap (slice l size) = l.take (n * size) := by
  induction n with
  | zero => simp
  | succ n ih => rw [List.range_succ, List.flatMap_append, ih, List.flatMap_singleton, slice,
      Nat.succ_mul, List.take_add]

/-- A slice stands before the last one if more than it and the ones before it are left. -/
theorem length_slice (h : (k + 1) * size ≤ l.length) : (slice l size k).length = size := by
  rw [Nat.succ_mul] at h
  rw [slice, List.length_take, List.length_drop]
  omega

theorem slice_eq_nil (h : l.length ≤ k * size) : slice l size k = [] := by
  rw [slice, List.drop_eq_nil_of_le h, List.take_nil]

end

namespace History

/-! ### What a filter asks for -/

/-- A text that is asked for; an empty one asks for nothing. -/
def Asked (asked : Option String) (s : String) : Prop := asked = some s ∧ s ≠ ""

/-- Every filter that is given is met by a transaction. -/
structure Filter.Selects (f : Filter) (x : Transaction) : Prop where
  possible : f.isHopeless = false
  user : ∀ id, f.userId = some id → x.userId = id
  wallet : ∀ id, Asked f.walletId id → x.walletId = id
  reference : ∀ s, Asked f.reference s → x.reference = Text.trim s
  sessionId : ∀ s, Asked f.sessionId s → x.sessionId = Text.trim s
  currency : ∀ s, Asked f.currency s → x.currency = Text.upper (Text.trim s)
  kind : ∀ k, f.kind = some k → x.kind = k
  flow : ∀ d, f.flow = some d → x.flow = d
  status : ∀ t, f.status = some t → x.status = t
  start : ∀ b, f.start = some b → b.text ≤ x.createdAt.text
  finish : ∀ b, f.finish = some b → x.createdAt.text ≤ b.text

theorem matchesText_iff (asked : Option String) (spell : String → String) (s : String) :
    matchesText asked spell s = true ↔ ∀ a, Asked asked a → s = spell a := by
  cases asked with
  | none => simp [matchesText, Asked]
  | some a =>
    simp only [matchesText, Asked, Bool.or_eq_true, beq_iff_eq, Option.some.injEq, and_imp,
      forall_eq']
    tauto

/-- A transaction passes a filter if it meets all that is given. -/
theorem Filter.admits_iff {f : Filter} {x : Transaction} : f.admits x = true ↔ f.Selects x := by
  have hstart (b : Bound) : b.admitsFrom x.createdAt = true ↔ b.text ≤ x.createdAt.text :=
    decide_eq_true_iff
  have hfinish (b : Bound) : b.admitsTo x.createdAt = true ↔ x.createdAt.text ≤ b.text :=
    decide_eq_true_iff
  simp only [admits, Bool.and_eq_true, Bool.not_eq_true', Option.all_eq_true, matchesText_iff,
    beq_iff_eq, decide_eq_true_eq, hstart, hfinish, spellCurrency, id, and_assoc]
  constructor
  · rintro ⟨possible, user, wallet, reference, sessionId, currency, kind, flow, status, start,
      finish⟩
    exact ⟨possible, user, wallet, reference, sessionId, currency, kind, flow, status, start,
      finish⟩
  · rintro ⟨possible, user, wallet, reference, sessionId, currency, kind, flow, status, start,
      finish⟩
    exact ⟨possible, user, wallet, reference, sessionId, currency, kind, flow, status, start,
      finish⟩

instance (f : Filter) (x : Transaction) : Decidable (f.Selects x) :=
  decidable_of_iff _ Filter.admits_iff

/-- The rows of the store that meet a filter. -/
def selected (f : Filter) (t : Tables) : List Transaction :=
  t.transactions.filter fun x => decide (f.Selects x)

theorem filter_admits (f : Filter) (t : Tables) :
    t.transactions.filter f.admits = selected f t := by
  refine List.filter_congr fun x _ => ?_
  rw [Bool.eq_iff_iff, decide_eq_true_iff, Filter.admits_iff]

/-! ### The order of a list -/

/-- A transaction stands before another: it is newer, or as new with a later reference. -/
def Newer (x y : Transaction) : Prop :=
  y.createdAt.text < x.createdAt.text ∨
    y.createdAt.text = x.createdAt.text ∧ y.reference < x.reference

theorem newer_of_newestFirst {x y : Transaction} (h : newestFirst x y = true)
    (hne : x.reference ≠ y.reference) : Newer x y := by
  simp only [newestFirst, Bool.or_eq_true, decide_eq_true_eq, Bool.and_eq_true, beq_iff_eq] at h
  refine h.imp id fun ⟨htext, hle⟩ => ⟨htext.symm, ?_⟩
  exact String.not_le.1 fun hge => hne (String.le_antisymm hge hle)

section

variable {t : Tables}

theorem select_perm (f : Filter) (t : Tables) : (select f t).Perm (selected f t) := by
  rw [select, filter_admits]
  exact List.mergeSort_perm _ _

/-- Rows of distinct references are listed in one strict order. -/
theorem pairwise_select (h : (t.transactions.map (·.reference)).Nodup) (f : Filter) :
    (select f t).Pairwise Newer := by
  have hsorted : (select f t).Pairwise fun x y => newestFirst x y = true :=
    List.pairwise_mergeSort sorts_newestFirst.trans sorts_newestFirst.total _
  -- No two rows tie, since the order ends with the reference.
  have hdistinct : (select f t).Pairwise fun x y => x.reference ≠ y.reference := by
    have hrows : (selected f t).Pairwise fun x y => x.reference ≠ y.reference :=
      (List.pairwise_map.1 h).sublist List.filter_sublist
    exact (select_perm f t).symm.pairwise hrows fun hne => hne.symm
  exact (hsorted.and hdistinct).imp fun ⟨hle, hne⟩ => newer_of_newestFirst hle hne

end

/-! ### Pages -/

/-- The integer that an argument stands for: a usual one if none is given. -/
inductive StandsFor (usual : Int) (v : Value) : Int → Prop where
  | usual : v.given = false → StandsFor usual v usual
  | asked {n : Int} : v.given = true → v.toInteger = .ok n → StandsFor usual v n

theorem StandsFor.wholeNumberOr_eq {usual n : Int} {v : Value} (h : StandsFor usual v n) :
    wholeNumberOr usual v = .ok n := by
  cases h with
  | usual hgiven => simp [wholeNumberOr, hgiven]
  | asked hgiven hread => simp [wholeNumberOr, hgiven, hread]

/-- The rows of a page for a number of rows that is asked for. -/
def pageSize (n : Int) : Nat := (min 100 (max 1 n)).toNat

/-- The rows before a page. -/
def offset (n size : Int) : Int := (max 1 n - 1) * size

/-- The integers of the statements that list a page are integers of the store. -/
def InReach (f : Filter) (page : Int) (size : Nat) : Prop :=
  Column.fits (offset page size) = true ∧ ∀ id, f.userId = some id → Column.fits id = true

/-- A session that answers statements on its rows. -/
structure Lists (s : Session) : Prop where
  ready : s.aborted = false
  listed : s.faults .listRows = none

/-- Pages of a size that rows are listed on. -/
structure Pages (rows : List Transaction) (size : Nat) (page : Int → List Transaction) :
    Prop where
  /-- Up to the last page every row is shown once. -/
  once : ((List.range (rows.length ⌈/⌉ size)).flatMap fun k : Nat => page (k + 1)).Perm rows
  /-- From page to page the rows are listed in their order. -/
  ordered : ((List.range (rows.length ⌈/⌉ size)).flatMap fun k : Nat => page (k + 1)).Pairwise Newer
  full : ∀ n : Nat, 1 ≤ n → n < rows.length ⌈/⌉ size → (page n).length = size
  beyond : ∀ n : Nat, rows.length ⌈/⌉ size < n → page n = []
  before : ∀ n ≤ 0, page n = page 1

/-- A page of a list. -/
def pageOf (l : List Transaction) (size : Nat) (n : Int) : List Transaction :=
  slice l size (max 1 n - 1).toNat

section

variable {l rows : List Transaction} {size : Nat}

theorem pageOf_natCast_succ (k : Nat) : pageOf l size (k + 1) = slice l size k := by
  rw [pageOf]
  congr 1
  omega

/-- An ordered list is shown on its pages. -/
theorem pages_pageOf (hperm : l.Perm rows) (hordered : l.Pairwise Newer) (hsize : 0 < size) :
    Pages rows size (pageOf l size) := by
  have hlength := hperm.length_eq
  have hwhole : ((List.range (rows.length ⌈/⌉ size)).flatMap fun k : Nat => pageOf l size (k + 1)) =
      l := by
    have hcovers : rows.length ≤ size * (rows.length ⌈/⌉ size) := le_smul_ceilDiv hsize
    simp only [pageOf_natCast_succ]
    rw [flatMap_slice, List.take_of_length_le]
    rw [hlength, Nat.mul_comm]
    exact hcovers
  -- A page is behind the last one exactly when the pages before it hold all rows.
  have hpast (n : Nat) : rows.length ⌈/⌉ size ≤ n ↔ rows.length ≤ size * n :=
    ceilDiv_le_iff_le_mul hsize
  refine ⟨?_, ?_, ?_, ?_, ?_⟩
  · rw [hwhole]
    exact hperm
  · rw [hwhole]
    exact hordered
  · intro n hpos hlast
    obtain ⟨k, rfl⟩ : ∃ k, n = k + 1 := ⟨n - 1, by omega⟩
    rw [Nat.cast_succ, pageOf_natCast_succ]
    refine length_slice ?_
    rw [← Nat.not_le, hpast, Nat.not_le, ← hlength, Nat.mul_comm] at hlast
    exact hlast.le
  · intro n hlast
    obtain ⟨k, rfl⟩ : ∃ k, n = k + 1 := ⟨n - 1, by omega⟩
    rw [Nat.cast_succ, pageOf_natCast_succ]
    refine slice_eq_nil ?_
    rw [hlength, Nat.mul_comm, ← hpast]
    exact Nat.le_of_lt_succ hlast
  · intro n hn
    rw [pageOf, pageOf, max_eq_left (by omega), max_self]

end

section

variable {s : Session} {f : Filter} {page limit : Value} {n m : Int}

theorem offset_toNat (n : Int) (size : Nat) :
    (offset n size).toNat = (max 1 n - 1).toNat * size := by
  have hnonneg : 0 ≤ max 1 n - 1 := by omega
  rw [offset, Int.toNat_mul hnonneg (Int.natCast_nonneg size), Int.toNat_natCast]

/-- What is left of a listing when its page and the number of rows have been read. -/
theorem list_eq (hpage : StandsFor 1 page n) (hlimit : StandsFor 20 limit m) :
    list page limit (.ok f) = do
      let total ← Session.query .listRows f.userId.toList fun t => (selected f t).length
      let rows ← Session.query .listRows (offset n (pageSize m) :: f.userId.toList) fun t =>
        pageOf (select f t) (pageSize m) n
      return (rows, total) := by
  have hsize : clampLimit m = pageSize m := by
    rw [clampLimit, maxLimit, pageSize]
    omega
  have hslice (t : Tables) : ((select f t).drop ((clampPage n - 1) * clampLimit m).toNat).take
      (clampLimit m).toNat = pageOf (select f t) (pageSize m) n := by
    rw [hsize, Int.toNat_natCast, pageOf, slice, ← offset_toNat]
    rfl
  refine Action.ext fun s => ?_
  rw [list, standingLimit, hpage.wholeNumberOr_eq, hlimit.wholeNumberOr_eq]
  simp only [Functor.map, Except.map, Action.on_bind, Action.on_lift, filter_admits, hslice]
  rw [hsize]
  rfl

theorem inReach_iff {size : Nat} : InReach f n size ↔
    f.userId.toList.all Column.fits = true ∧
      (offset n size :: f.userId.toList).all Column.fits = true := by
  rw [InReach, List.all_cons, Bool.and_eq_true]
  cases f.userId <;> simp

/-- A listing answers with a page of what it selects, and with how much that is. -/
theorem on_list (hs : Lists s) (hpage : StandsFor 1 page n) (hlimit : StandsFor 20 limit m)
    (hreach : InReach f n (pageSize m)) : (list page limit (.ok f)).on s =
      (.ok (pageOf (select f s.working) (pageSize m) n, (selected f s.working).length), s) := by
  obtain ⟨huser, hbound⟩ := inReach_iff.1 hreach
  rw [list_eq hpage hlimit]
  simp only [Action.on_bind_eq_ok, Session.on_query_eq_ok, Action.on_pure]
  exact ⟨_, s, ⟨hs.listed, hs.ready, huser, rfl, rfl⟩, _, s,
    ⟨hs.listed, hs.ready, hbound, rfl, rfl⟩, rfl⟩

theorem Lists.on_query_overflow (hs : Lists s) {bound : List Int}
    (hbound : bound.all Column.fits = false) (f : Tables → α) :
    (Session.query .listRows bound f).on s = (.error .integerOverflow, s) := by
  rw [Session.query, Action.on_of, hs.listed, hs.ready, hbound]
  rfl

/-- It is refused where a statement would bind an integer that the store does not have. -/
theorem on_list_overflow (hs : Lists s) (hpage : StandsFor 1 page n)
    (hlimit : StandsFor 20 limit m) (hreach : ¬InReach f n (pageSize m)) :
    (list page limit (.ok f)).on s = (.error .integerOverflow, s) := by
  rw [inReach_iff, not_and] at hreach
  rw [list_eq hpage hlimit]
  cases huser : f.userId.toList.all Column.fits with
  | false => exact Action.on_bind_of_error _ (hs.on_query_overflow huser _)
  | true =>
    have hcount : (Session.query .listRows f.userId.toList fun t => (selected f t).length).on s =
        (.ok (selected f s.working).length, s) :=
      Session.on_query_eq_ok.2 ⟨hs.listed, hs.ready, huser, rfl, rfl⟩
    rw [Action.on_bind_of_ok _ hcount]
    exact Action.on_bind_of_error _
      (hs.on_query_overflow (Bool.eq_false_iff.2 (hreach huser)) _)

/--
Pages partition the result. Whatever is asked for, every page tells how many rows meet all filters,
and the pages from the first to the last show each of these rows once in a strict order; all of them
but the last are full, those behind it are empty, and those before the first are the first. Only a
page that cannot be named to the store is refused.
-/
theorem pages_partition (hs : Lists s) (hrefs : (s.working.transactions.map (·.reference)).Nodup)
    (f : Filter) (hlimit : StandsFor 20 limit m) :
    ∃ rowsOf, Pages (selected f s.working) (pageSize m) rowsOf ∧
      ∀ page n, StandsFor 1 page n →
        (InReach f n (pageSize m) → (list page limit (.ok f)).on s =
          (.ok (rowsOf n, (selected f s.working).length), s)) ∧
        (¬InReach f n (pageSize m) → (list page limit (.ok f)).on s =
          (.error .integerOverflow, s)) := by
  have hsize : 0 < pageSize m := by
    rw [pageSize]
    omega
  refine ⟨pageOf (select f s.working) (pageSize m), ?_, fun page n hpage => ⟨?_, ?_⟩⟩
  · exact pages_pageOf (select_perm f s.working) (pairwise_select hrefs f) hsize
  · exact on_list hs hpage hlimit
  · exact on_list_overflow hs hpage hlimit

end

/-- A cent received at a moment. -/
def cent (name : String) (m : Moment) : Transaction where
  id := name
  reference := "FND_" ++ name
  sessionId := "FND_" ++ name
  userId := 1
  walletId := "w"
  currency := "USD"
  amount := 1
  flow := .credit
  kind := .funding
  status := .completed
  exchangeRate := "1.00000000"
  description := "Wallet funding - USD"
  remarks := .null
  createdAt := m
  updatedAt := m

/-- A store with three cents, the last two of one second. -/
def threeCents : Session :=
  .ofTables
    { transactions :=
        [cent "A" ⟨⟨2024, 1, 15⟩, 12, 0, 1⟩, cent "C" ⟨⟨2024, 1, 15⟩, 12, 0, 2⟩,
          cent "B" ⟨⟨2024, 1, 15⟩, 12, 0, 2⟩] }
    ⟨⟨2024, 1, 15⟩, 12, 1, 0⟩

theorem three_cents_on_two_pages :
    ∃ rowsOf, Pages (selected {} threeCents.working) 2 rowsOf ∧
      (list (.int 2) (.int 2) (.ok {})).on threeCents = (.ok (rowsOf 2, 3), threeCents) := by
  have hrefs : (threeCents.working.transactions.map (·.reference)).Nodup := by decide +kernel
  have hlimit : StandsFor 20 (.int 2) 2 := .asked rfl rfl
  have hpage : StandsFor 1 (.int 2) 2 := .asked rfl rfl
  have htotal : (selected {} threeCents.working).length = 3 := by decide +kernel
  obtain ⟨rowsOf, hpages, hanswers⟩ := pages_partition ⟨rfl, rfl⟩ hrefs {} hlimit
  refine ⟨rowsOf, hpages, ?_⟩
  rw [← htotal]
  exact (hanswers (.int 2) 2 hpage).1 ⟨rfl, by simp⟩

end History

end CurrencyLedger
