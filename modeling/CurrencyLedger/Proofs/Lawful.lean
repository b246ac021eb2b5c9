import CurrencyLedger.Proofs.Movements

/-!
Lawful tables.

The constraints of the tables, which are checked row by row, hold of the tables as a whole: no two
wallets share an identifier or a user and currency, no two transactions share an identifier or a
reference, and every balance has at most 64 bits. Whatever operations do to the tables keeps them
lawful, if the wallets that come in from elsewhere have lawful balances.
-/

namespace CurrencyLedger

open Wallets

/-- Tables whose keys are unique and whose balances fit their column. -/
structure Tables.Lawful (t : Tables) : Prop where
  walletIds : (t.wallets.map (·.id)).Nodup
  owners : (t.wallets.map fun w => (w.userId, w.currency)).Nodup
  balances : ∀ w ∈ t.wallets, Column.fits w.balance = true
  transactionIds : (t.transactions.map (·.id)).Nodup
  references : (t.transactions.map (·.reference)).Nodup

/-- One change of the tables: a wallet is opened, or a balance is moved and the movement noted. -/
inductive Deed (origin : Wallet → Prop) (now : Moment) (a b : Tables) : Prop
  | opening (w : Wallet) (horigin : origin w) (h : a.insertWallet? w = some b)
  | movement (w : Wallet) (x : Transaction) (h : Moved now w x a b)

namespace Tables.Lawful

variable {a b : Tables} {w : Wallet} {x : Transaction} {now : Moment}

/-- Tables without wallets and transactions are lawful. -/
theorem empty (hw : a.wallets = []) (hx : a.transactions = []) : a.Lawful := by
  constructor <;> simp [hw, hx]

theorem insertWallet? (ha : a.Lawful) (hfits : Column.fits w.balance = true)
    (h : a.insertWallet? w = some b) : b.Lawful := by
  obtain ⟨hid, howner, rfl⟩ := insertWallet?_eq_some.1 h
  refine ⟨nodup_snoc ha.walletIds (wallet?_eq_none.1 hid), nodup_snoc ha.owners ?_, ?_,
    ha.transactionIds, ha.references⟩
  · intro v hv heq
    obtain ⟨huser, hcurrency⟩ := Prod.mk.inj heq
    exact walletOf?_eq_none.1 howner v hv huser hcurrency
  · intro v hv
    rcases List.mem_append.1 hv with hv | hv
    · exact ha.balances v hv
    · rw [List.mem_singleton.1 hv]
      exact hfits

theorem moved (ha : a.Lawful) (h : Moved now w x a b) : b.Lawful := by
  refine ⟨?_, ?_, ?_, ?_, ?_⟩
  · rw [h.wallets, map_setBalance fun _ _ _ => rfl]
    exact ha.walletIds
  · rw [h.wallets, map_setBalance fun _ _ _ => rfl]
    exact ha.owners
  · intro v hv
    rw [h.wallets, mem_setBalance] at hv
    rcases hv with ⟨hv, -⟩ | ⟨v, hv, -, rfl⟩
    · exact ha.balances v hv
    · exact h.fits
  · rw [h.transactions]
    exact nodup_snoc ha.transactionIds fun y hy => (h.new y hy).1
  · rw [h.transactions]
    exact nodup_snoc ha.references fun y hy => (h.new y hy).2

theorem deed {origin : Wallet → Prop} (horigin : ∀ w, origin w → Column.fits w.balance = true)
    (ha : a.Lawful) (h : Deed origin now a b) : b.Lawful := by
  cases h with
  | opening w hw h => exact ha.insertWallet? (horigin w hw) h
  | movement w x h => exact ha.moved h

end Tables.Lawful

end CurrencyLedger
