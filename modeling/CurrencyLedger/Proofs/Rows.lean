import CurrencyLedger.Store.Tables
import Mathlib.Data.List.Nodup
import Mathlib.Tactic.SplitIfs

/-!
Looking rows up, and changing them.

What each change of the tables does to the rows: an insertion adds one row behind the others if its
keys are new, and setting a balance leaves every key alone. Rows of distinct identifiers can be told
apart by them.
-/

namespace CurrencyLedger.Tables

variable {t t' : Tables}

theorem wallet?_eq_some {id : String} {w : Wallet} (h : t.wallet? id = some w) :
    w ∈ t.wallets ∧ w.id = id :=
  ⟨List.mem_of_find?_eq_some h, by simpa using List.find?_some h⟩

theorem wallet?_eq_none {id : String} :
    t.wallet? id = none ↔ ∀ w ∈ t.wallets, w.id ≠ id := by
  simp [wallet?]

theorem walletOf?_eq_some {userId : Int} {currency : String} {w : Wallet}
    (h : t.walletOf? userId currency = some w) :
    w ∈ t.wallets ∧ w.userId = userId ∧ w.currency = currency :=
  ⟨List.mem_of_find?_eq_some h, by simpa using List.find?_some h⟩

theorem walletOf?_eq_none {userId : Int} {currency : String} :
    t.walletOf? userId currency = none ↔
      ∀ w ∈ t.wallets, w.userId = userId → w.currency ≠ currency := by
  simp [walletOf?]

/-- A wallet is inserted if its identifier is new, and its user and currency together. -/
theorem insertWallet?_eq_some {w : Wallet} : t.insertWallet? w = some t' ↔
    t.wallet? w.id = none ∧ t.walletOf? w.userId w.currency = none ∧
      { t with wallets := t.wallets ++ [w] } = t' := by
  rw [insertWallet?]
  cases t.wallet? w.id <;> cases t.walletOf? w.userId w.currency <;> simp

/-- An inserted wallet is found by its user and currency; nothing else is found in another place. -/
theorem walletOf?_of_insertWallet? {w : Wallet} (h : t.insertWallet? w = some t') (userId : Int)
    (currency : String) : t'.walletOf? userId currency =
      if w.userId = userId ∧ w.currency = currency then some w
      else t.walletOf? userId currency := by
  obtain ⟨-, hnew, rfl⟩ := insertWallet?_eq_some.1 h
  simp only [walletOf?, List.find?_append] at hnew ⊢
  split_ifs with hw
  · obtain ⟨rfl, rfl⟩ := hw
    simp [hnew]
  · have : (w.userId == userId && w.currency == currency) = false := by simpa using hw
    simp [this]

/-- A transaction is inserted if its identifier is new, and its reference. -/
theorem insertTransaction?_eq_some {x : Transaction} : t.insertTransaction? x = some t' ↔
    (∀ y ∈ t.transactions, y.id ≠ x.id ∧ y.reference ≠ x.reference) ∧
      { t with transactions := t.transactions ++ [x] } = t' := by
  rw [insertTransaction?]
  split
  · rename_i h
    simp only [List.any_eq_true, Bool.or_eq_true, beq_iff_eq] at h
    obtain ⟨y, hy, hkey⟩ := h
    simp only [reduceCtorEq, false_iff, not_and]
    intro hnew
    rcases hkey with hid | href
    · exact absurd hid (hnew y hy).1
    · exact absurd href (hnew y hy).2
  · rename_i h
    simp only [List.any_eq_true, Bool.or_eq_true, beq_iff_eq, not_exists, not_and, not_or] at h
    simp only [Option.some.injEq, iff_and_self]
    intro _ y hy
    exact h y hy

/-- The row that stands where another stood, once a balance has been set. -/
theorem mem_setBalance {id : String} {balance : Nat} {now : Moment} {w : Wallet} :
    w ∈ (t.setBalance id balance now).wallets ↔
      (w ∈ t.wallets ∧ w.id ≠ id) ∨
        ∃ v ∈ t.wallets, v.id = id ∧ { v with balance, updatedAt := now } = w := by
  simp only [setBalance, List.mem_map]
  constructor
  · rintro ⟨v, hv, rfl⟩
    by_cases hid : v.id = id
    · exact .inr ⟨v, hv, hid, by simp [hid]⟩
    · exact .inl ⟨by simpa [hid] using hv, by simp [hid]⟩
  · rintro (⟨hw, hid⟩ | ⟨v, hv, hid, rfl⟩)
    · exact ⟨w, hw, by simp [hid]⟩
    · exact ⟨v, hv, by simp [hid]⟩

/-- Setting a balance leaves whatever does not depend on it as it is. -/
theorem map_setBalance {key : Wallet → κ}
    (hkey : ∀ (w : Wallet) (n : Nat) (m : Moment),
      key { w with balance := n, updatedAt := m } = key w)
    (id : String) (balance : Nat) (now : Moment) :
    (t.setBalance id balance now).wallets.map key = t.wallets.map key := by
  simp only [setBalance, List.map_map]
  refine List.map_congr_left fun w _ => ?_
  simp only [Function.comp]
  split
  · exact hkey w balance now
  · rfl

/-- Setting a balance changes nothing else in the wallet that is found. -/
theorem walletOf?_setBalance (t : Tables) (id : String) (balance : Nat) (now : Moment)
    (userId : Int) (currency : String) :
    (t.setBalance id balance now).walletOf? userId currency =
      (t.walletOf? userId currency).map fun w =>
        if w.id == id then { w with balance, updatedAt := now } else w := by
  rw [walletOf?, walletOf?, setBalance, List.find?_map]
  congr 2
  funext w
  simp only [Function.comp]
  split <;> rfl

/-- A key that no row has can be added behind. -/
theorem nodup_snoc {xs : List α} {y : α} {key : α → κ} (h : (xs.map key).Nodup)
    (hnew : ∀ x ∈ xs, key x ≠ key y) : ((xs ++ [y]).map key).Nodup := by
  rw [List.map_append, List.nodup_append]
  refine ⟨h, List.nodup_singleton _, ?_⟩
  simpa using hnew

/-- With distinct identifiers, a wallet is known by its own. -/
theorem eq_of_id_eq (h : (t.wallets.map (·.id)).Nodup) {v w : Wallet} (hv : v ∈ t.wallets)
    (hw : w ∈ t.wallets) (hid : v.id = w.id) : v = w :=
  List.inj_on_of_nodup_map h hv hw hid

/-- A wallet that is there is found by its identifier. -/
theorem wallet?_of_mem (h : (t.wallets.map (·.id)).Nodup) {w : Wallet} (hw : w ∈ t.wallets) :
    t.wallet? w.id = some w := by
  cases hf : t.wallet? w.id with
  | none => exact absurd rfl (wallet?_eq_none.1 hf w hw)
  | some v =>
    obtain ⟨hv, hid⟩ := wallet?_eq_some hf
    rw [eq_of_id_eq h hv hw hid]

/-- A wallet that is there is found by its user and currency. -/
theorem walletOf?_of_mem (h : (t.wallets.map fun w => (w.userId, w.currency)).Nodup) {w : Wallet}
    (hw : w ∈ t.wallets) : t.walletOf? w.userId w.currency = some w := by
  cases hf : t.walletOf? w.userId w.currency with
  | none => exact absurd rfl (walletOf?_eq_none.1 hf w hw rfl)
  | some v =>
    obtain ⟨hv, huser, hcurrency⟩ := walletOf?_eq_some hf
    rw [List.inj_on_of_nodup_map h hv hw (by rw [huser, hcurrency])]

end CurrencyLedger.Tables
