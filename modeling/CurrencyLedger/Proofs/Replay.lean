import CurrencyLedger.Proofs.Runs

/-!
Replaying the transactions of a wallet.

A balance is nothing but what the transactions say. A wallet opens empty, unless a rival created it,
and with the balance that the rival gave it otherwise; every transaction since then adds its credit
or takes its debit. Replayed in the order of insertion they lead to the balance that is stored, and
on the way there no balance is negative or too large for 64 bits.

`Books` says so of the tables, given the opening balance of every wallet. Opening a wallet keeps it,
because no transaction can point at a wallet that is not there; moving a balance keeps it, because
the movement is recorded behind all others.
-/

namespace CurrencyLedger

open Wallets

/-- What a transaction adds to the balance of its wallet. -/
def Transaction.change (x : Transaction) : Int :=
  match x.flow with
  | .credit => x.amount
  | .debit => -x.amount

/-- The balance that transactions lead to, one after the other, from an opening balance. -/
def replay (opening : Int) (rows : List Transaction) : Int :=
  rows.foldl (fun balance x => balance + x.change) opening

/-- The transactions of a wallet, in the order of their insertion. -/
def Tables.rowsOf (t : Tables) (id : String) : List Transaction :=
  t.transactions.filter fun x => x.walletId == id

/-- From the opening balance the rows lead to the balance, within the bounds of 64 bits. -/
structure Replays (opening : Int) (rows : List Transaction) (balance : Int) : Prop where
  bounded : ∀ k, 0 ≤ replay opening (rows.take k) ∧ replay opening (rows.take k) ≤ Column.maxInteger
  ends : replay opening rows = balance

theorem le_of_fits {n : Int} (h : Column.fits n = true) : n ≤ Column.maxInteger := by
  simp only [Column.fits, Bool.and_eq_true, decide_eq_true_eq] at h
  exact h.2

theorem replay_concat (opening : Int) (rows : List Transaction) (x : Transaction) :
    replay opening (rows ++ [x]) = replay opening rows + x.change := by
  simp [replay]

namespace Replays

theorem nil {opening : Nat} (h : Column.fits opening = true) : Replays opening [] opening := by
  refine ⟨fun k => ?_, rfl⟩
  rw [List.take_nil]
  exact ⟨Int.natCast_nonneg opening, le_of_fits h⟩

theorem concat {opening balance : Int} {rows : List Transaction} (h : Replays opening rows balance)
    {x : Transaction} {after : Nat} (hafter : balance + x.change = after)
    (hfits : Column.fits after = true) : Replays opening (rows ++ [x]) after := by
  have hends : replay opening (rows ++ [x]) = after := by
    rw [replay_concat, h.ends, hafter]
  refine ⟨fun k => ?_, hends⟩
  by_cases hk : k ≤ rows.length
  · rw [List.take_append_of_le_length hk]
    exact h.bounded k
  · rw [List.take_of_length_le (by simp; omega), hends]
    exact ⟨Int.natCast_nonneg after, le_of_fits hfits⟩

end Replays

/-- The balance after a recorded movement is the balance before it and what the row adds. -/
theorem Wallets.Moved.balance {now : Moment} {w : Wallet} {x : Transaction} {a b : Tables}
    (h : Moved now w x a b) :
    (w.balance : Int) + x.change = balanceAfter x.flow w.balance x.amount := by
  have hcovered := h.covered
  cases hflow : x.flow with
  | credit => simp [Transaction.change, balanceAfter, hflow]
  | debit =>
    have := hcovered hflow
    simp only [Transaction.change, balanceAfter, hflow]
    omega

/-- A credit is part of the balance after it, a debit of the balance before it. -/
theorem Wallets.Moved.amount_le {now : Moment} {w : Wallet} {x : Transaction} {a b : Tables}
    (h : Moved now w x a b) (hbalance : Column.fits w.balance = true) :
    (x.amount : Int) ≤ Column.maxInteger := by
  have hbefore := le_of_fits hbalance
  have hafter := le_of_fits h.fits
  cases hflow : x.flow with
  | credit =>
    simp only [balanceAfter, hflow] at hafter
    omega
  | debit =>
    have := h.covered hflow
    omega

/-- The row of a movement stands behind the others of its wallet. -/
theorem Wallets.Moved.rowsOf {now : Moment} {w : Wallet} {x : Transaction} {a b : Tables}
    (h : Moved now w x a b) (id : String) :
    b.rowsOf id = a.rowsOf id ++ if w.id = id then [x] else [] := by
  rw [Tables.rowsOf, h.transactions, List.filter_append, ← Tables.rowsOf, List.filter_singleton,
    h.walletId]
  simp

/-- The transactions account for every balance. -/
structure Books (opening : String → Nat) (t : Tables) : Prop where
  lawful : t.Lawful
  amounts : ∀ x ∈ t.transactions, 1 ≤ x.amount ∧ (x.amount : Int) ≤ Column.maxInteger
  wallets : ∀ x ∈ t.transactions, ∃ w ∈ t.wallets,
    w.id = x.walletId ∧ w.userId = x.userId ∧ w.currency = x.currency
  replays : ∀ w ∈ t.wallets, Replays (opening w.id) (t.rowsOf w.id) w.balance

namespace Books

variable {opening : String → Nat} {a b : Tables} {w : Wallet} {x : Transaction} {now : Moment}

theorem opened (h : Books opening a) (hfits : Column.fits w.balance = true)
    (hopening : opening w.id = w.balance) (hinsert : a.insertWallet? w = some b) :
    Books opening b := by
  have hlawful := h.lawful.insertWallet? hfits hinsert
  obtain ⟨hid, -, rfl⟩ := Tables.insertWallet?_eq_some.1 hinsert
  refine ⟨hlawful, h.amounts, ?_, ?_⟩
  · intro x hx
    obtain ⟨v, hv, hkeys⟩ := h.wallets x hx
    exact ⟨v, List.mem_append_left _ hv, hkeys⟩
  · intro v hv
    rcases List.mem_append.1 hv with hv | hv
    · exact h.replays v hv
    · obtain rfl := List.mem_singleton.1 hv
      -- A row of the new wallet would point at a wallet that was there before.
      have hrows : a.rowsOf v.id = [] := by
        rw [Tables.rowsOf, List.filter_eq_nil_iff]
        intro x hx hxv
        obtain ⟨u, hu, huid, -⟩ := h.wallets x hx
        exact Tables.wallet?_eq_none.1 hid u hu (by simpa [huid] using hxv)
      show Replays (opening v.id) (a.rowsOf v.id) v.balance
      rw [hrows, hopening]
      exact .nil hfits

theorem moved (h : Books opening a) (hmoved : Moved now w x a b) : Books opening b := by
  have hmem := (Tables.wallet?_eq_some hmoved.found).1
  refine ⟨h.lawful.moved hmoved, ?_, ?_, ?_⟩
  · intro y hy
    rw [hmoved.transactions, List.mem_append, List.mem_singleton] at hy
    rcases hy with hy | rfl
    · exact h.amounts y hy
    · exact ⟨hmoved.positive, hmoved.amount_le (h.lawful.balances w hmem)⟩
  · intro y hy
    rw [hmoved.transactions, List.mem_append, List.mem_singleton] at hy
    obtain ⟨v, hv, hid, huser, hcurrency⟩ : ∃ v ∈ a.wallets,
        v.id = y.walletId ∧ v.userId = y.userId ∧ v.currency = y.currency := by
      rcases hy with hy | rfl
      · exact h.wallets y hy
      · exact ⟨w, hmem, hmoved.walletId.symm, hmoved.userId.symm, hmoved.currency.symm⟩
    rw [hmoved.wallets]
    by_cases hvw : v.id = w.id
    · exact ⟨_, Tables.mem_setBalance.2 (.inr ⟨v, hv, hvw, rfl⟩), hid, huser, hcurrency⟩
    · exact ⟨v, Tables.mem_setBalance.2 (.inl ⟨hv, hvw⟩), hid, huser, hcurrency⟩
  · intro v hv
    rw [hmoved.wallets, Tables.mem_setBalance] at hv
    rcases hv with ⟨hv, hne⟩ | ⟨u, hu, huid, rfl⟩
    · rw [hmoved.rowsOf, if_neg (Ne.symm hne), List.append_nil]
      exact h.replays v hv
    · obtain rfl := Tables.eq_of_id_eq h.lawful.walletIds hu hmem huid
      rw [hmoved.rowsOf, if_pos rfl]
      exact (h.replays u hu).concat hmoved.balance hmoved.fits

/-- Every deed keeps the books, if wallets come in with their opening balance. -/
theorem deed {origin : Wallet → Prop}
    (horigin : ∀ w, origin w → Column.fits w.balance = true ∧ opening w.id = w.balance)
    (h : Books opening a) (hdeed : Deed origin now a b) : Books opening b := by
  cases hdeed with
  | opening w hw hinsert => exact h.opened (horigin w hw).1 (horigin w hw).2 hinsert
  | movement w x hmoved => exact h.moved hmoved

/-- Only the opening balances of the wallets that are there matter. -/
theorem congr {opening' : String → Nat} (h : Books opening a)
    (heq : ∀ w ∈ a.wallets, opening' w.id = opening w.id) : Books opening' a := by
  refine ⟨h.lawful, h.amounts, h.wallets, fun w hw => ?_⟩
  rw [heq w hw]
  exact h.replays w hw

end Books

namespace Operation

/-! ### Opening balances -/

/-- What a wallet opened with: the balance that the rival gave it who created it, or nothing. -/
def openingBalance (arrivals : List Wallet) (id : String) : Nat :=
  match arrivals.find? fun w => w.id == id with
  | some w => w.balance
  | none => 0

/-- The identifier of a rival's wallet, by how many rivals have come before. -/
def rivalName (n : Nat) : String := "rival" ++ Text.natText (n + 1)

theorem rivalName_injective : Function.Injective rivalName := by
  intro m n h
  have hdigits : Nat.toDigits 10 (m + 1) = Nat.toDigits 10 (n + 1) := by
    simpa [rivalName, Text.natText, String.ext_iff] using h
  have := congrArg (Nat.ofDigitChars 10 · 0) hdigits
  simpa using this

/-- A wallet of the ledger's own is never named like a rival's. -/
theorem own_ne_rivalName (name : String) (n : Nat) : "w" ++ name ≠ rivalName n := by
  intro h
  have := congrArg String.toList h
  simp [rivalName] at this

/-- An identifier of a wallet of the ledger's own, or of one that a rival has created. -/
def Known (arrivals : List Wallet) (id : String) : Prop :=
  (∃ name, id = "w" ++ name) ∨ ∃ v ∈ arrivals, v.id = id

/-- The rivals' wallets are numbered in the order in which they came. -/
def Numbered (arrivals : List Wallet) (n : Nat) : Prop :=
  arrivals.map (·.id) = (List.range n).map rivalName

theorem Numbered.name {arrivals : List Wallet} {n : Nat} (h : Numbered arrivals n) {v : Wallet}
    (hv : v ∈ arrivals) : ∃ k < n, v.id = rivalName k := by
  have hid : v.id ∈ (List.range n).map rivalName := h ▸ List.mem_map_of_mem hv
  obtain ⟨k, hk, heq⟩ := List.mem_map.1 hid
  exact ⟨k, List.mem_range.1 hk, heq.symm⟩

theorem Numbered.concat {arrivals : List Wallet} {n : Nat} (h : Numbered arrivals n) {v : Wallet}
    (hv : v.id = rivalName n) : Numbered (arrivals ++ [v]) (n + 1) := by
  rw [Numbered, List.map_append, h, List.range_succ, List.map_append]
  simp [hv]

theorem openingBalance_own {arrivals : List Wallet} {n : Nat} (h : Numbered arrivals n)
    (name : String) : openingBalance arrivals ("w" ++ name) = 0 := by
  have hnone : arrivals.find? (fun v => v.id == "w" ++ name) = none := by
    rw [List.find?_eq_none]
    intro v hv heq
    obtain ⟨k, -, hk⟩ := h.name hv
    exact own_ne_rivalName name k (by rw [← hk]; exact (beq_iff_eq.1 heq).symm)
  rw [openingBalance, hnone]

theorem openingBalance_concat {arrivals : List Wallet} {n : Nat} (h : Numbered arrivals n)
    {v : Wallet} (hv : v.id = rivalName n) : openingBalance (arrivals ++ [v]) v.id = v.balance := by
  have hnone : arrivals.find? (fun u => u.id == v.id) = none := by
    rw [List.find?_eq_none]
    intro u hu heq
    obtain ⟨k, hlt, hk⟩ := h.name hu
    have : k = n := rivalName_injective (by rw [← hk, ← hv]; exact beq_iff_eq.1 heq)
    omega
  rw [openingBalance, List.find?_append, hnone]
  simp

/-- A rival who comes later does not change what a wallet opened with. -/
theorem openingBalance_known {arrivals later : List Wallet} {n : Nat}
    (h : Numbered (arrivals ++ later) n) {id : String} (hid : Known arrivals id) :
    openingBalance (arrivals ++ later) id = openingBalance arrivals id := by
  rcases hid with ⟨name, rfl⟩ | ⟨v, hv, rfl⟩
  · rw [openingBalance_own h]
    cases hf : arrivals.find? (fun v => v.id == "w" ++ name) with
    | none => simp [openingBalance, hf]
    | some v =>
      obtain ⟨k, -, hk⟩ := h.name (List.mem_append_left _ (List.mem_of_find?_eq_some hf))
      have heq : v.id = "w" ++ name := by simpa using List.find?_some hf
      exact absurd (heq.symm.trans hk) (own_ne_rivalName name k)
  · have hsome : (arrivals.find? fun u => u.id == v.id).isSome = true := by
      rw [List.find?_isSome]
      exact ⟨v, hv, by simp⟩
    obtain ⟨u, hu⟩ := Option.isSome_iff_exists.1 hsome
    simp [openingBalance, List.find?_append, hu]

/-! ### Runs -/

/-- The books of a run, kept with the opening balances that rivals have given. -/
structure Run.Accounted (r : Run) : Prop where
  settled : Settled r.session
  numbered : Numbered r.arrivals r.session.rivals
  known : ∀ w ∈ r.session.committed.wallets, Known r.arrivals w.id
  books : Books (openingBalance r.arrivals) r.session.committed

namespace Run

theorem accounted_start (users : List User) (activities : List Activity) (clock : Moment) :
    (start users activities clock).Accounted := by
  refine ⟨(sound_start users activities clock).settled, rfl, ?_, ⟨.empty rfl rfl, ?_, ?_, ?_⟩⟩
  all_goals exact fun _ h => absurd h List.not_mem_nil

/-- The arrivals of a call go on with the numbers. -/
theorem numbered_step {r : Run} {x : Step} (hr : Numbered r.arrivals r.session.rivals)
    (h : Effect x.call (under r.session x.conditions) (r.next x)) :
    Numbered (r.step x).arrivals (r.next x).rivals := by
  rcases h.rivals with hn | ⟨v, hv, hn⟩
  · rw [step, arrival?, if_pos hn, hn, Option.toList_none, List.append_nil]
    exact hr
  · rw [step, arrival?, if_neg (by omega), hv, hn]
    exact hr.concat rfl

/-- What a call brings in has a lawful balance, and opens with it. -/
theorem opening_of_origin {r : Run} {x : Step} (hr : Numbered r.arrivals r.session.rivals)
    (h : Effect x.call (under r.session x.conditions) (r.next x)) {w : Wallet}
    (hw : Origin (under r.session x.conditions) (r.next x) w) :
    Column.fits w.balance = true ∧ openingBalance (r.step x).arrivals w.id = w.balance ∧
      Known (r.step x).arrivals w.id := by
  have hfits : RivalFits (under r.session x.conditions) := x.conditions.rival_fits
  refine ⟨fits_of_origin hfits hw, ?_⟩
  rcases hw with ⟨name, userId, code, now, -, rfl⟩ | ⟨hn, v, hv, rfl⟩
  · exact ⟨openingBalance_own (numbered_step hr h) name, .inl ⟨name, rfl⟩⟩
  · have harrived : (r.step x).arrivals =
        r.arrivals ++ [(under r.session x.conditions).rivalWallet v] := by
      rw [step, arrival?, if_neg (by omega), hv]
      rfl
    rw [harrived]
    exact ⟨openingBalance_concat hr rfl, .inr ⟨_, List.mem_append_right _ (.head _), rfl⟩⟩

/-- Whatever a call does to the tables, its wallets are known after it. -/
theorem known_of_deed {r : Run} {x : Step} (hr : Numbered r.arrivals r.session.rivals)
    (h : Effect x.call (under r.session x.conditions) (r.next x)) {now : Moment} {a b : Tables}
    (ha : ∀ w ∈ a.wallets, Known (r.step x).arrivals w.id)
    (hdeed : Deed (Origin (under r.session x.conditions) (r.next x)) now a b) :
    ∀ w ∈ b.wallets, Known (r.step x).arrivals w.id := by
  intro v hv
  cases hdeed with
  | opening w hw hinsert =>
    obtain ⟨-, -, rfl⟩ := Tables.insertWallet?_eq_some.1 hinsert
    rcases List.mem_append.1 hv with hv | hv
    · exact ha v hv
    · rw [List.mem_singleton.1 hv]
      exact (opening_of_origin hr h hw).2.2
  | movement w y hmoved =>
    rw [hmoved.wallets, Tables.mem_setBalance] at hv
    rcases hv with ⟨hv, -⟩ | ⟨u, hu, -, rfl⟩
    · exact ha v hv
    · exact ha u hu

theorem Accounted.step {r : Run} (hr : r.Accounted) (x : Step) : (r.step x).Accounted := by
  have h := (Sound.mk hr.settled hr.books.lawful).effect x
  have hnumbered := numbered_step hr.numbered h
  -- The books of the committed tables, with the opening balances as they are after the call.
  have hbefore : ∀ w ∈ r.session.committed.wallets, Known (r.step x).arrivals w.id := by
    intro w hw
    rcases hr.known w hw with hown | ⟨v, hv, hid⟩
    · exact .inl hown
    · exact .inr ⟨v, List.mem_append_left _ hv, hid⟩
  have hbooks : Books (openingBalance (r.step x).arrivals) r.session.committed :=
    hr.books.congr fun w hw => openingBalance_known hnumbered (hr.known w hw)
  refine ⟨h.settled, hnumbered, ?_, ?_⟩
  · exact kept_of_deeds (P := fun t => ∀ w ∈ t.wallets, Known (r.step x).arrivals w.id)
      (known_of_deed hr.numbered h) h.deeds hbefore
  · refine kept_of_deeds (Books.deed fun w hw => ?_) h.deeds hbooks
    obtain ⟨hfits, hopening, -⟩ := opening_of_origin hr.numbered h hw
    exact ⟨hfits, hopening⟩

/--
After any calls on a store without money, however each of them ended, the transactions of every
wallet replay from its opening balance to its balance without ever leaving the bounds of a balance,
and every transaction is a positive movement of a wallet that is there.
-/
theorem transactions_replay (users : List User) (activities : List Activity) (clock : Moment)
    (xs : List Step) :
    let r := (start users activities clock).steps xs
    (∀ w ∈ r.session.committed.wallets,
      Replays (openingBalance r.arrivals w.id) (r.session.committed.rowsOf w.id) w.balance) ∧
    ∀ x ∈ r.session.committed.transactions, 1 ≤ x.amount ∧ (x.amount : Int) ≤ Column.maxInteger ∧
      ∃ w ∈ r.session.committed.wallets,
        w.id = x.walletId ∧ w.userId = x.userId ∧ w.currency = x.currency := by
  intro r
  have h : r.Accounted :=
    kept_of_steps (fun _ x hr => hr.step x) (accounted_start users activities clock) xs
  refine ⟨h.books.replays, fun x hx => ?_⟩
  obtain ⟨hpositive, hle⟩ := h.books.amounts x hx
  exact ⟨hpositive, hle, h.books.wallets x hx⟩

end Run

end Operation

end CurrencyLedger
