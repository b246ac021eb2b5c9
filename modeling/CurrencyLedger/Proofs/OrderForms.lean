import CurrencyLedger.Proofs.Codes
import CurrencyLedger.Validation.Order
import Mathlib.Tactic.SplitIfs

/-!
Forms of orders.

A body is read by one of four forms. It is an order of that form exactly when each of its parts can
be read and the parts do not contradict one another, so an order tells what was read of which field.
-/

namespace CurrencyLedger.Validation

/-! ### Parts -/

theorem Checked.and_eq_ok {a : Checked α} {b : Checked β} {x : α} {y : β} :
    a.and b = .ok (x, y) ↔ a = .ok x ∧ b = .ok y := by
  cases a <;> cases b <;> simp [Checked.and]

theorem field_eq_ok {name : String} {read : Value → Reading α} {fields : List (String × Value)}
    {x : α} : field name read fields = .ok x ↔
      ∃ v, fields.lookup name = some v ∧ read v = .ok x := by
  rw [field]
  cases fields.lookup name with
  | none => simp [Checked.part]
  | some v => cases hread : read v <;> simp [Checked.part, hread]

theorem readAmount_eq_ok {v : Value} {n : Int} :
    readAmount v = .ok n ↔ readInteger v = .ok n ∧ 0 < n := by
  simp only [readAmount, bind_eq_ok, above]
  constructor
  · rintro ⟨m, hm, h⟩
    split_ifs at h with hpos
    cases h
    exact ⟨hm, hpos⟩
  · rintro ⟨hn, hpos⟩
    exact ⟨n, hn, if_pos hpos⟩

theorem readCurrency_eq_ok {v : Value} {code : String} :
    readCurrency v = .ok code ↔ v.isText = true ∧ Currency.normalize v = .ok code := by
  rw [readCurrency]
  split_ifs with htext
  · cases Currency.normalize v <;> simp [htext]
  · simp [htext]

theorem readAction_eq_ok {v : Value} {a : TradeAction} :
    readAction v = .ok a ↔ TradeAction.ofValue v = .ok a := by
  rw [TradeAction.ofValue, Value.choose_eq_ok_iff]
  cases v with
  | text s => cases h : TradeAction.ofText? s <;> simp [readAction, h]
  | _ => simp [readAction]

/-! ### Wholes -/

section

variable {fields : List (String × Value)}

theorem FundOrder.read_eq_ok {order : FundOrder} : FundOrder.read fields = .ok order ↔
    field "amount" readAmount fields = .ok order.amount ∧
      field "currency" readCurrency fields = .ok order.currency := by
  obtain ⟨amount, currency⟩ := order
  simp only [FundOrder.read, bind_eq_ok, Prod.exists, Checked.and_eq_ok]
  constructor
  · rintro ⟨_, _, h, ⟨⟩⟩
    exact h
  · exact fun h => ⟨amount, currency, h, rfl⟩

theorem FundUserOrder.read_eq_ok {order : FundUserOrder} : FundUserOrder.read fields = .ok order ↔
    field "user_id" readInteger fields = .ok order.userId ∧
      field "amount" readAmount fields = .ok order.amount ∧
      field "currency" readCurrency fields = .ok order.currency := by
  obtain ⟨userId, amount, currency⟩ := order
  simp only [FundUserOrder.read, bind_eq_ok, Prod.exists, Checked.and_eq_ok]
  constructor
  · rintro ⟨_, _, _, h, ⟨⟩⟩
    exact h
  · exact fun h => ⟨userId, amount, currency, h, rfl⟩

theorem ConvertOrder.read_eq_ok {order : ConvertOrder} : ConvertOrder.read fields = .ok order ↔
    (field "from_currency" readCurrency fields = .ok order.source ∧
      field "to_currency" readCurrency fields = .ok order.target ∧
      field "amount" readAmount fields = .ok order.amount) ∧ order.source ≠ order.target := by
  obtain ⟨source, target, amount⟩ := order
  simp only [ConvertOrder.read, bind_eq_ok, Prod.exists, Checked.and_eq_ok]
  constructor
  · rintro ⟨_, _, _, h, hwhole⟩
    split_ifs at hwhole with hsame
    · cases hwhole
    · cases hwhole
      exact ⟨h, hsame⟩
  · rintro ⟨h, hdistinct⟩
    exact ⟨source, target, amount, h, if_neg hdistinct⟩

theorem TradeOrder.read_eq_ok {order : TradeOrder} : TradeOrder.read fields = .ok order ↔
    (field "base_currency" readCurrency fields = .ok order.base ∧
      field "quote_currency" readCurrency fields = .ok order.quote ∧
      field "amount" readAmount fields = .ok order.amount ∧
      field "action" readAction fields = .ok order.action) ∧ order.base ≠ order.quote := by
  obtain ⟨base, quote, amount, action⟩ := order
  simp only [TradeOrder.read, bind_eq_ok, Prod.exists, Checked.and_eq_ok]
  constructor
  · rintro ⟨_, _, _, _, h, hwhole⟩
    split_ifs at hwhole with hsame
    · cases hwhole
    · cases hwhole
      exact ⟨h, hsame⟩
  · rintro ⟨h, hdistinct⟩
    exact ⟨base, quote, amount, action, h, if_neg hdistinct⟩

end

/-! ### Forms -/

/-- The forms of orders. -/
inductive OrderForm where
  | fund
  | fundUser
  | convert
  | trade
  deriving DecidableEq, Repr

/-- An order of any form. -/
inductive AnyOrder where
  | fund (order : FundOrder)
  | fundUser (order : FundUserOrder)
  | convert (order : ConvertOrder)
  | trade (order : TradeOrder)
  deriving DecidableEq, Repr

/-- The order in the fields of a body. -/
def OrderForm.read (fields : List (String × Value)) : OrderForm → Checked AnyOrder
  | .fund => .fund <$> FundOrder.read fields
  | .fundUser => .fundUser <$> FundUserOrder.read fields
  | .convert => .convert <$> ConvertOrder.read fields
  | .trade => .trade <$> TradeOrder.read fields

/-- The amount of an order. -/
def AnyOrder.amount : AnyOrder → Int
  | .fund order => order.amount
  | .fundUser order => order.amount
  | .convert order => order.amount
  | .trade order => order.amount

/-- Whatever the form, the amount is read from the one field in the one way. -/
theorem amount_of_read {form : OrderForm} {fields : List (String × Value)} {order : AnyOrder}
    (h : form.read fields = .ok order) :
    ∃ v, fields.lookup "amount" = some v ∧ readAmount v = .ok order.amount := by
  cases form with
  | fund =>
    obtain ⟨order, hread, rfl⟩ := map_eq_ok.1 h
    exact field_eq_ok.1 (FundOrder.read_eq_ok.1 hread).1
  | fundUser =>
    obtain ⟨order, hread, rfl⟩ := map_eq_ok.1 h
    exact field_eq_ok.1 (FundUserOrder.read_eq_ok.1 hread).2.1
  | convert =>
    obtain ⟨order, hread, rfl⟩ := map_eq_ok.1 h
    exact field_eq_ok.1 (ConvertOrder.read_eq_ok.1 hread).1.2.2
  | trade =>
    obtain ⟨order, hread, rfl⟩ := map_eq_ok.1 h
    exact field_eq_ok.1 (TradeOrder.read_eq_ok.1 hread).1.2.2.1

end CurrencyLedger.Validation
