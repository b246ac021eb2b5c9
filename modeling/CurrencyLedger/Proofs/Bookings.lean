import CurrencyLedger.Proofs.Outcomes
import CurrencyLedger.Proofs.Turns
import Mathlib.Algebra.Ring.Int.Defs

/-!
Rows that account for what changed.

The rows that an order appends say everything that has happened to balances: each balance is the one
before it and what the rows of its wallet add, a wallet that no row names is as it was, and a wallet
that is new is named by a row. `Booked` says so of the tables before and after. A movement that was
recorded is booked by its row, also when its wallet was opened for it, and what follows on rows that
are booked is booked by all of them.
-/

namespace CurrencyLedger

open Wallets

/-- What all rows of a wallet, taken together, add to its balance. -/
def netChange (rows : List Transaction) (id : String) : Int :=
  ((rows.filter fun x => x.walletId == id).map Transaction.change).sum

theorem netChange_append (rows rows' : List Transaction) (id : String) :
    netChange (rows ++ rows') id = netChange rows id + netChange rows' id := by
  simp [netChange]

theorem netChange_singleton (x : Transaction) (id : String) :
    netChange [x] id = if x.walletId = id then x.change else 0 := by
  by_cases h : x.walletId = id <;> simp [netChange, h]

namespace Tables

/-- The balance of a wallet, nothing if there is no such wallet. -/
def balanceOf (t : Tables) (id : String) : Int :=
  match t.wallet? id with
  | some w => w.balance
  | none => 0

/-- Setting a balance changes nothing else in the wallet of an identifier. -/
theorem wallet?_setBalance (t : Tables) (id : String) (balance : Nat) (now : Moment)
    (name : String) : (t.setBalance id balance now).wallet? name =
      (t.wallet? name).map fun w =>
        if w.id == id then { w with balance, updatedAt := now } else w := by
  rw [wallet?, wallet?, setBalance, List.find?_map]
  congr 2
  funext w
  simp only [Function.comp]
  split <;> rfl

/-- The rows say all that has become of the tables. -/
structure Booked (rows : List Transaction) (a b : Tables) : Prop where
  transactions : b.transactions = a.transactions ++ rows
  balances : ∀ id, b.balanceOf id = a.balanceOf id + netChange rows id
  /-- No wallet is gone, and none has changed hands. -/
  grown : a.Grown b
  untouched : ∀ w ∈ a.wallets, (∀ x ∈ rows, x.walletId ≠ w.id) → w ∈ b.wallets
  named : ∀ x ∈ rows, ∃ w ∈ b.wallets,
    w.id = x.walletId ∧ w.userId = x.userId ∧ w.currency = x.currency
  opened : ∀ w ∈ b.wallets, a.wallet? w.id = none → ∃ x ∈ rows, x.walletId = w.id

namespace Booked

variable {rows rows' : List Transaction} {a b c : Tables} {now : Moment} {w : Wallet}
  {x : Transaction}

theorem refl (a : Tables) : Booked [] a a :=
  ⟨(List.append_nil _).symm, fun _ => (Int.add_zero _).symm, .refl a, fun _ hw _ => hw,
    fun _ hx => absurd hx List.not_mem_nil,
    fun _ hw hnew => absurd rfl (wallet?_eq_none.1 hnew _ hw)⟩

/-- Of the tables only wallets and transactions matter. -/
theorem congr (h : Booked rows a b) (hw : c.wallets = b.wallets)
    (hx : c.transactions = b.transactions) : Booked rows a c := by
  obtain ⟨htransactions, hbalances, ⟨hrows, hwallets⟩, huntouched, hnamed, hopened⟩ := h
  refine ⟨hx.trans htransactions, fun id => ?_, ⟨by rwa [hx], by rwa [hw]⟩, by rwa [hw],
    by rwa [hw], by rwa [hw]⟩
  rw [← hbalances id, balanceOf, balanceOf, wallet?, wallet?, hw]

/-- A recorded movement is booked by its row. -/
theorem of_moved (h : Moved now w x a b) : Booked [x] a b := by
  have hwallet (id : String) : b.wallet? id =
      (a.setBalance w.id (balanceAfter x.flow w.balance x.amount) now).wallet? id := by
    rw [wallet?, h.wallets, ← wallet?]
  refine ⟨h.transactions, fun id => ?_, .of_moved h, fun v hv hother => ?_, ?_, fun v hv hnew => ?_⟩
  · rw [netChange_singleton, h.walletId]
    split_ifs with hid
    · subst hid
      simp only [balanceOf, hwallet, wallet?_setBalance, h.found, Option.map_some, beq_self_eq_true,
        if_true, h.balance]
    · simp only [balanceOf, hwallet, wallet?_setBalance, Int.add_zero]
      cases hv : a.wallet? id with
      | none => rfl
      | some v =>
        have hne : v.id ≠ w.id := fun heq => hid (heq.symm.trans (wallet?_eq_some hv).2)
        simp [hne]
  · have hne : w.id ≠ v.id := h.walletId ▸ hother x (List.mem_singleton_self x)
    rw [h.wallets]
    exact mem_setBalance.2 (.inl ⟨hv, Ne.symm hne⟩)
  · intro y hy
    obtain rfl := List.mem_singleton.1 hy
    obtain ⟨v, hv, hsame⟩ :=
      (Grown.of_moved h).kept.exists_wallet (wallet?_eq_some h.found).1
    simp only [Wallet.identity, Prod.mk.injEq] at hsame
    exact ⟨v, hv, hsame.1.trans h.walletId.symm, hsame.2.1.trans h.userId.symm,
      hsame.2.2.trans h.currency.symm⟩
  · -- A movement opens no wallet.
    rw [wallet?_eq_none] at hnew
    rw [h.wallets, mem_setBalance] at hv
    rcases hv with ⟨hv, -⟩ | ⟨u, hu, -, rfl⟩
    · exact absurd rfl (hnew v hv)
    · exact absurd rfl (hnew u hu)

/-- So is one of a wallet that was provided for it. -/
theorem of_provided {userId : Int} {code : String} (hprovided : Provided now userId code w a b)
    (h : Moved now w x b c) : Booked [x] a c := by
  have hmoved := of_moved h
  cases hprovided with
  | found => exact hmoved
  | created habsent hw hinsert =>
    have hzero : w.balance = 0 := by rw [hw]; rfl
    have hopened : Deed (fun _ => True) now a b := .opening w trivial hinsert
    obtain ⟨hfresh, -, rfl⟩ := insertWallet?_eq_some.1 hinsert
    have hwallet (id : String) (hid : id ≠ w.id) :
        Tables.wallet? { a with wallets := a.wallets ++ [w] } id = a.wallet? id := by
      simp [wallet?, List.find?_append, Ne.symm hid]
    refine ⟨hmoved.transactions, fun id => ?_, (Grown.of_deed hopened).trans hmoved.grown,
      fun v hv hother => ?_, hmoved.named, fun v hv hnew => ?_⟩
    · rw [hmoved.balances]
      by_cases hid : id = w.id
      · subst hid
        simp [balanceOf, h.found, hfresh, hzero]
      · simp only [balanceOf, hwallet id hid]
    · exact hmoved.untouched v (List.mem_append_left _ hv) hother
    · by_cases hid : v.id = w.id
      · exact ⟨x, List.mem_singleton_self x, h.walletId.trans hid.symm⟩
      · exact hmoved.opened v hv (by rw [hwallet v.id hid]; exact hnew)

/-- What follows on rows that are booked is booked by all of them. -/
theorem trans (hab : Booked rows a b) (hbc : Booked rows' b c) : Booked (rows ++ rows') a c := by
  refine ⟨?_, fun id => ?_, hab.grown.trans hbc.grown, fun w hw hother => ?_, fun x hx => ?_,
    fun w hw hnew => ?_⟩
  · rw [hbc.transactions, hab.transactions, List.append_assoc]
  · rw [hbc.balances, hab.balances, netChange_append, Int.add_assoc]
  · have hkept := hab.untouched w hw fun x hx => hother x (List.mem_append_left _ hx)
    exact hbc.untouched w hkept fun x hx => hother x (List.mem_append_right _ hx)
  · rcases List.mem_append.1 hx with hx | hx
    · obtain ⟨v, hv, hid, huser, hcurrency⟩ := hab.named x hx
      obtain ⟨w, hw, hsame⟩ := hbc.grown.kept.exists_wallet hv
      simp only [Wallet.identity, Prod.mk.injEq] at hsame
      exact ⟨w, hw, hsame.1.trans hid, hsame.2.1.trans huser, hsame.2.2.trans hcurrency⟩
    · exact hbc.named x hx
  · cases hb : b.wallet? w.id with
    | none =>
      obtain ⟨x, hx, hid⟩ := hbc.opened w hw hb
      exact ⟨x, List.mem_append_right _ hx, hid⟩
    | some v =>
      obtain ⟨hv, hid⟩ := wallet?_eq_some hb
      obtain ⟨x, hx, hxv⟩ := hab.opened v hv (hid ▸ hnew)
      exact ⟨x, List.mem_append_left _ hx, hxv.trans hid⟩

end Booked

end Tables

namespace Operation

variable {now : Moment} {userId : Int} {sessionId : String} {a b : Tables} {order : Order}
  {rows : List Transaction}

/-- What an order has done is booked by its rows. -/
theorem Order.Performed.booked (h : order.Performed now userId sessionId a b rows) :
    a.Booked rows b := by
  cases h with
  | funding provided leg new => exact .of_provided provided leg.moved
  | exchange hplan debit provided credit newDebit newCredit =>
    exact (Tables.Booked.of_moved debit.moved).trans (.of_provided provided credit.moved)

/-- All rows of an order are of the user whose order it is. -/
theorem Order.Performed.userId_of_mem (h : order.Performed now userId sessionId a b rows) :
    ∀ x ∈ rows, x.userId = userId := by
  cases h with
  | funding provided leg new =>
    intro x hx
    obtain rfl := List.mem_singleton.1 hx
    exact leg.moved.userId.trans leg.userId
  | exchange hplan debit provided credit newDebit newCredit =>
    intro x hx
    rcases List.mem_pair.1 hx with rfl | rfl
    · exact debit.moved.userId.trans debit.userId
    · exact credit.moved.userId.trans credit.userId

theorem Order.Performed.lawful (ha : a.Lawful)
    (h : order.Performed now userId sessionId a b rows) : b.Lawful := by
  cases h with
  | funding provided leg new => exact (provided.lawful ha).moved leg.moved
  | exchange hplan debit provided credit newDebit newCredit =>
    exact (provided.lawful (ha.moved debit.moved)).moved credit.moved

end Operation

end CurrencyLedger
