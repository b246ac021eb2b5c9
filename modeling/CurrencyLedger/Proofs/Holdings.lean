import CurrencyLedger.Proofs.Calls
import CurrencyLedger.Proofs.Lawful
import CurrencyLedger.Proofs.Sizing

/-!
What users hold.

All that wallets say of money is a partial map from users and currencies to balances. On such a map
the operations are a few lines each: check what is asked, in order, then take and give. The tables
give such a map, and what is done to a wallet is done to its entry.
-/

namespace CurrencyLedger

open Operation

/-- What users hold in each currency, in smallest units. -/
abbrev Holdings := Int → String → Option Nat

namespace Holdings

/-- One entry changed, or made. -/
def set (h : Holdings) (userId : Int) (currency : String) (balance : Nat) : Holdings :=
  fun u c => if u = userId ∧ c = currency then some balance else h u c

/-- Takes from an entry, which has to be there and to cover it. -/
def take (h : Holdings) (userId : Int) (currency : String) (amount : Nat) :
    Except Failure Holdings :=
  match h userId currency with
  | none => .error (.ledger (noSource currency))
  | some balance =>
    if balance < amount then .error (.refusal .insufficientBalance)
    else .ok (h.set userId currency (balance - amount))

/-- Gives to an entry, which counts as nothing if it is not there. -/
def give (h : Holdings) (userId : Int) (currency : String) (amount : Nat) :
    Except Failure Holdings :=
  let balance := (h userId currency).getD 0 + amount
  if balance ≤ Column.maxInteger then .ok (h.set userId currency balance)
  else .error .integerOverflow

/-- Users are known by integers of 64 bits. -/
def requireUser (userId : Int) : Except Failure Unit :=
  if Column.fits userId then .ok () else .error .integerOverflow

/-- Exchanges money between two currencies; `spend` says what to give up at a rate. -/
def exchange (h : Holdings) (rates : Exchange.RateSource) (userId : Int) (source target : String)
    (spend : Decimal → Except Failure Int) : Except Failure Holdings := do
  let rate ← ofLedger (Rate.normalize (← rates source target))
  let debit ← spend rate
  let credit ← Amount.convert debit rate
  if credit < 1 then
    .error (.ledger (.saying .invalidAmount ("Amount is too small to convert into " ++ target)))
  else
    let _ ← ofSignal (Rate.format (.decimal rate))
    requireUser userId
    let h ← h.take userId source debit.toNat
    h.give userId target credit.toNat

end Holdings

/-- A call on what users hold. -/
def Operation.Call.onHoldings (h : Holdings) : Call → Except Failure Holdings
  | .fund userId amount currency => do
    let amount ← ofLedger (Amount.ofValue amount)
    let currency ← ofLedger (Currency.normalize currency)
    Holdings.requireUser userId
    h.give userId currency amount
  | .convert rates userId source target amount => do
    let amount ← ofLedger (Amount.ofValue amount)
    let source ← ofLedger (Currency.normalize source)
    let target ← ofLedger (Currency.normalize target)
    if source = target then .error (.refusal .sameCurrency)
    else h.exchange rates userId source target fun _ => .ok amount
  | .trade rates userId base quote amount action => do
    let amount ← ofLedger (Amount.ofValue amount)
    let base ← ofLedger (Currency.normalize base)
    let quote ← ofLedger (Currency.normalize quote)
    let action ← TradeAction.ofValue action
    if base = quote then .error (.refusal .sameCurrency)
    else match action with
      | .buy => h.exchange rates userId quote base (Amount.cover amount)
      | .sell => h.exchange rates userId base quote fun _ => .ok amount

/-- An order on what users hold. -/
def Operation.Order.onHoldings (userId : Int) (h : Holdings) : Order → Except Failure Holdings
  | .funding amount currency => do
    Holdings.requireUser userId
    h.give userId currency amount
  | .conversion c => onPlan c.plan
  | .trade t => onPlan t.plan
where
  /-- An exchange that has been sized. -/
  onPlan (plan : Exchange.Plan) : Except Failure Holdings := do
    Holdings.requireUser userId
    let h ← h.take userId plan.source plan.debit.toNat
    h.give userId plan.target plan.credit.toNat

/-- An exchange is sized first. -/
theorem Holdings.exchange_eq (h : Holdings) (rates : Exchange.RateSource) (userId : Int)
    (source target : String) (spend : Decimal → Except Failure Int) :
    h.exchange rates userId source target spend =
      Exchange.plan rates source target spend >>= Order.onHoldings.onPlan userId h := by
  simp only [exchange, Exchange.plan, bind_assoc, pure_bind]
  refine bind_congr fun v => bind_congr fun rate => bind_congr fun debit =>
    bind_congr fun credit => ?_
  rw [Exchange.requireConverted]
  split_ifs
  · omega
  · rfl
  · rfl
  · omega

/-- A call is checked and sized first. -/
theorem Operation.Call.onHoldings_eq (c : Call) (h : Holdings) :
    c.onHoldings h = c.order >>= Order.onHoldings c.userId h := by
  cases c with
  | fund userId amount currency =>
    simp only [onHoldings, order, bind_assoc, pure_bind]
    rfl
  | convert rates userId source target amount =>
    simp only [onHoldings, order, Exchange.planConversion, Holdings.exchange_eq, bind_map_left,
      bind_assoc, pure_bind]
    refine bind_congr fun n => bind_congr fun a => bind_congr fun b => ?_
    rw [Exchange.requireDistinct]
    split_ifs <;> rfl
  | trade rates userId base quote amount action =>
    simp only [onHoldings, order, Exchange.planTrade, Holdings.exchange_eq, bind_map_left,
      bind_assoc]
    refine bind_congr fun n => bind_congr fun a => bind_congr fun b => bind_congr fun side => ?_
    rw [Exchange.requireDistinct]
    split_ifs
    · rfl
    · cases side <;> simp only [bind_assoc, pure_bind] <;> rfl

/-! ### What tables hold -/

/-- What the wallets of the tables say. -/
def Tables.holdings (t : Tables) : Holdings :=
  fun userId currency => (t.walletOf? userId currency).map (·.balance)

namespace Holdings

variable {h : Holdings} {userId : Int} {currency : String}

theorem set_set (h : Holdings) (userId : Int) (currency : String) (m n : Nat) :
    (h.set userId currency m).set userId currency n = h.set userId currency n := by
  funext u c
  simp only [set]
  split_ifs <;> rfl

/-- An entry set to what it is stays what it is. -/
theorem set_eq_self {n : Nat} (hn : h userId currency = some n) : h.set userId currency n = h := by
  funext u c
  simp only [set]
  split_ifs with heq
  · rw [heq.1, heq.2, hn]
  · rfl

end Holdings

namespace Tables

variable {t t' : Tables} {w : Wallet}

theorem holdings_congr (h : t'.wallets = t.wallets) : t'.holdings = t.holdings := by
  funext u c
  rw [holdings, holdings, walletOf?, walletOf?, h]

theorem holdings_insertWallet? (h : t.insertWallet? w = some t') :
    t'.holdings = t.holdings.set w.userId w.currency w.balance := by
  funext u c
  rw [holdings, walletOf?_of_insertWallet? h, Holdings.set]
  by_cases hw : w.userId = u ∧ w.currency = c
  · rw [if_pos hw, if_pos ⟨hw.1.symm, hw.2.symm⟩]
    rfl
  · rw [if_neg hw, if_neg fun heq => hw ⟨heq.1.symm, heq.2.symm⟩]
    rfl

theorem holdings_setBalance (ht : t.Lawful) (hw : w ∈ t.wallets) (n : Nat) (now : Moment) :
    (t.setBalance w.id n now).holdings = t.holdings.set w.userId w.currency n := by
  funext u c
  rw [holdings, walletOf?_setBalance, Option.map_map, Holdings.set]
  cases hv : t.walletOf? u c with
  | none =>
    rw [if_neg]
    · simp [holdings, hv]
    · rintro ⟨rfl, rfl⟩
      rw [walletOf?_of_mem ht.owners hw] at hv
      cases hv
  | some v =>
    obtain ⟨hmem, rfl, rfl⟩ := walletOf?_eq_some hv
    by_cases hid : v.id = w.id
    · obtain rfl := eq_of_id_eq ht.walletIds hmem hw hid
      simp
    · have hne : ¬(v.userId = w.userId ∧ v.currency = w.currency) := by
        rintro ⟨huser, hcurrency⟩
        rw [huser, hcurrency, walletOf?_of_mem ht.owners hw] at hv
        exact hid (congrArg Wallet.id (Option.some.inj hv).symm)
      rw [if_neg hne]
      simp [holdings, hv, hid]

end Tables

end CurrencyLedger
