import CurrencyLedger.Proofs.AmountLiterals
import CurrencyLedger.Proofs.Authorization
import CurrencyLedger.Proofs.OrderForms
import Mathlib.Algebra.Order.Field.Rat

/-!
What stands for an amount.

The ledger takes positive integers and nothing else. A body may also say `true` for one, write the
amount as a whole double, or spell it as a literal; it is then read as the integer that was meant.
Nothing besides stands for an amount, and a request without one is refused before it is counted.
-/

namespace CurrencyLedger

theorem Text.signed_mul (s : Bool) (d k : Nat) : signed s (d * k) = signed s k * d := by
  cases s <;> simp [signed, Int.mul_comm]

theorem Text.natCast_dvd_signed {s : Bool} {d a : Nat} : (d : Int) ∣ signed s a ↔ d ∣ a := by
  cases s
  · exact Int.natCast_dvd_natCast
  · exact Int.dvd_neg.trans Int.natCast_dvd_natCast

/-- A double is an integer if it is whole, and then the one that is left of it without fraction. -/
theorem Binary64.toRat?_eq_intCast {s : Bool} {m : Nat} {e n : Int} :
    (finite s m e).toRat? = some (n : ℚ) ↔
      (finite s m e).isWhole = true ∧ truncate s m e = n := by
  simp only [toRat?, isWhole, truncate, Option.some.injEq]
  generalize hratio : ratio m e = r
  obtain ⟨a, d⟩ := r
  have hd : 0 < d := by
    cases hratio
    exact twoTo_pos _
  have hd' : (d : ℚ) ≠ 0 := by exact_mod_cast hd.ne'
  have hquotient : mkRat (Text.signed s a) d = n ↔ Text.signed s a = n * d := by
    rw [Rat.mkRat_eq_div, div_eq_iff hd']
    norm_cast
  have hcancel (k : Nat) : d * k / d = k := Nat.mul_div_cancel_left k hd
  dsimp only
  rw [← Text.signed, hquotient, beq_iff_eq]
  constructor
  · intro h
    obtain ⟨k, rfl⟩ : d ∣ a := Text.natCast_dvd_signed.1 ⟨n, h.trans (Int.mul_comm ..)⟩
    rw [Text.signed_mul] at h
    rw [hcancel]
    exact ⟨Nat.mul_mod_right d k, Int.eq_of_mul_eq_mul_right (by omega) h⟩
  · rintro ⟨hwhole, rfl⟩
    obtain ⟨k, rfl⟩ := Nat.dvd_of_mod_eq_zero hwhole
    rw [hcancel, Text.signed_mul]

namespace Validation

/-- What stands for an amount in a body: the integer itself, or something that is read as one. -/
inductive Stands : Value → Int → Prop
  | written {n : Int} (hpos : 0 < n) : Stands (.int n) n
  | truth : Stands (.bool true) 1
  | whole {x : Binary64} {n : Int} (hvalue : x.toRat? = some (n : ℚ)) (hpos : 0 < n)
    (hspan : n < wholeSpan) : Stands (.float x) n
  | spelled {s : String} {n : Int} (hliteral : AmountLiteral s n) : Stands (.text s) n

theorem readInteger_float_eq_ok {x : Binary64} {n : Int} :
    readInteger (.float x) = .ok n ↔ x.toRat? = some (n : ℚ) ∧ n.natAbs < wholeSpan := by
  cases x with
  | finite s m e =>
    rw [Binary64.toRat?_eq_intCast, readInteger]
    dsimp only
    split_ifs with hwhole hspan
    · simp only [Except.ok.injEq, hwhole, true_and]
      exact ⟨fun h => ⟨h, h ▸ hspan⟩, fun h => h.1⟩
    · simp only [false_iff]
      rintro ⟨⟨-, rfl⟩, h⟩
      exact hspan h
    · simp [hwhole]
  | infinite s => simp [readInteger, Binary64.toRat?]
  | nan => simp [readInteger, Binary64.toRat?]

/-- An amount is read from what stands for it, and from nothing else. -/
theorem readAmount_eq_ok_iff_stands {v : Value} {n : Int} :
    readAmount v = .ok n ↔ Stands v n := by
  rw [readAmount_eq_ok]
  constructor
  · rintro ⟨hread, hpos⟩
    cases v with
    | int m =>
      cases hread
      exact .written hpos
    | bool b =>
      cases b
      · cases hread
        cases hpos
      · cases hread
        exact .truth
    | float x =>
      obtain ⟨hvalue, hspan⟩ := readInteger_float_eq_ok.1 hread
      exact .whole hvalue hpos (by omega)
    | text s => exact .spelled (readIntegerText_eq_ok.1 ⟨hread, hpos⟩)
    | null => cases hread
    | decimal d => cases hread
    | illFormed codes => cases hread
    | list items => cases hread
    | object fields => cases hread
  · intro h
    cases h with
    | written hpos => exact ⟨rfl, hpos⟩
    | truth => exact ⟨rfl, one_pos⟩
    | whole hvalue hpos hspan =>
      exact ⟨readInteger_float_eq_ok.2 ⟨hvalue, by omega⟩, hpos⟩
    | spelled hliteral => exact readIntegerText_eq_ok.2 hliteral

/-- Of what stands for an amount the ledger takes the integer alone. -/
theorem Stands.ofValue_eq_ok {v : Value} {n : Int} (h : Stands v n) :
    Amount.ofValue v = .ok n.toNat ↔ v = .int n := by
  cases h with
  | written hpos => simp [Amount.ofValue, hpos]
  | truth => simp [Amount.ofValue]
  | whole => simp [Amount.ofValue]
  | spelled => simp [Amount.ofValue]

end Validation

namespace Http

open Validation

/-! ### Requests -/

/-- The endpoint that takes orders of a form. -/
def orderEndpoint : OrderForm → Endpoint
  | .fund => .fund
  | .fundUser => .fundUser
  | .convert => .convert
  | .trade => .trade

/-- A step that has changed nothing when it hands over, and refuses if it does not. -/
def Passive (h : Handler α) (s : Service) : Prop := (∃ x, h.on s = (.ok x, s)) ∨ Refuses h s

theorem Passive.refuses_bind {h : Handler α} {s : Service} (hh : Passive h s)
    {f : α → Handler β} (hf : ∀ x, Refuses (f x) s) : Refuses (h >>= f) s := by
  rcases hh with ⟨x, hx⟩ | hrefuses
  · obtain ⟨a, hon, ha⟩ := hf x
    exact ⟨a, by rw [Handler.on_bind, hx]; exact hon, ha⟩
  · exact hrefuses.bind f

theorem passive_authenticate (r : Request) (s : Service) : Passive (authenticate r) s :=
  (authenticate_cases r s).imp_left fun ⟨u, hu, _⟩ => ⟨u, hu⟩

theorem passive_authenticateAdmin (r : Request) (s : Service) :
    Passive (authenticateAdmin r) s := by
  rcases passive_authenticate r s with ⟨u, hu⟩ | hrefuses
  · rw [Passive, authenticateAdmin, Refuses, Handler.on_bind, hu]
    dsimp only
    split_ifs
    · exact .inl ⟨u, rfl⟩
    · exact .inr ⟨adminRequired, rfl, rfl⟩
  · exact .inr (hrefuses.bind _)

theorem passive_rateProvider (c : Configuration) (s : Service) : Passive (rateProvider c) s := by
  rw [rateProvider]
  split
  · exact .inl ⟨_, rfl⟩
  · exact .inr (.stop (isSuccess_ofFailure _))

theorem refuses_takeOrder {read : List (String × Value) → Checked α} {body : Option Value}
    (h : ∀ order, readOrder read body ≠ .ok order) (s : Service) :
    Refuses (takeOrder read body) s := by
  rw [takeOrder]
  split
  · rename_i order horder
    exact absurd horder (h order)
  · refine .stop ?_
    rw [issuesAnswer]
    split_ifs <;> rfl

theorem readOrder_eq_ok {read : List (String × Value) → Checked α} {body : Option Value}
    {order : α} (h : readOrder read body = .ok order) :
    ∃ fields, body = some (.object fields) ∧ read fields = .ok order := by
  cases body with
  | none => cases h
  | some v =>
    cases v with
    | object fields =>
      refine ⟨fields, rfl, ?_⟩
      cases hread : read fields with
      | ok x => simpa [readOrder, readBody, hread, Checked.within] using h
      | error is => simp [readOrder, readBody, hread, Checked.within] at h
    | _ => cases h

/-- The fields that a request brings make an order of a form. -/
def Orders (r : Request) (form : OrderForm) : Prop :=
  ∃ fields order, readDocument r = .ok (some (.object fields)) ∧ form.read fields = .ok order

/-- A body that makes no order is refused, after the sender at most. -/
theorem refuses_orderEndpoint (c : Configuration) {r : Request} {form : OrderForm}
    (h : ¬Orders r form) (s : Service) : Refuses (answerAt c r (orderEndpoint form)) s := by
  have hnone {α : Type} {read : List (String × Value) → Checked α} {f : α → AnyOrder}
      (hform : ∀ fields, form.read fields = f <$> read fields) {body : Option Value}
      (hbody : readDocument r = .ok body) (order : α) : readOrder read body ≠ .ok order := by
    intro horder
    obtain ⟨fields, rfl, hread⟩ := readOrder_eq_ok horder
    exact h ⟨fields, f order, hbody, by rw [hform, hread]; rfl⟩
  have hdocument {f : Option Value → Handler Answer}
      (hf : ∀ body, readDocument r = .ok body → Refuses (f body) s) :
      Refuses (withBody r f) s := by
    rw [withBody]
    cases hbody : readDocument r with
    | ok body => exact hf body hbody
    | error a => exact .stop (refused_of_readDocument hbody)
  cases form with
  | fund =>
    exact hdocument fun body hbody => (passive_authenticate r s).refuses_bind fun _ =>
      (refuses_takeOrder (hnone (fun _ => rfl) hbody) s).bind _
  | fundUser =>
    exact hdocument fun body hbody => (passive_authenticateAdmin r s).refuses_bind fun _ =>
      (refuses_takeOrder (hnone (fun _ => rfl) hbody) s).bind _
  | convert =>
    exact hdocument fun body hbody => (passive_authenticate r s).refuses_bind fun _ =>
      (passive_rateProvider c s).refuses_bind fun _ =>
        (refuses_takeOrder (hnone (fun _ => rfl) hbody) s).bind _
  | trade =>
    exact hdocument fun body hbody => (passive_authenticate r s).refuses_bind fun _ =>
      (passive_rateProvider c s).refuses_bind fun _ =>
        (refuses_takeOrder (hnone (fun _ => rfl) hbody) s).bind _

theorem handle_orderEndpoint (c : Configuration) {r : Request} {form : OrderForm}
    (hroute : route r.method r.target.path = .endpoint (orderEndpoint form)) :
    handle c r = answerAt c r (orderEndpoint form) :=
  handle_of_flows c hroute (by cases form <;> rfl)

/-- Success comes of orders alone, and so does any change. -/
theorem orders_of_serve (c : Configuration) {r : Request} {s : Service} {form : OrderForm}
    (hroute : route r.method r.target.path = .endpoint (orderEndpoint form))
    (h : (serve c r s).1.isSuccess = true ∨ (serve c r s).2 ≠ s) : Orders r form := by
  by_contra hnone
  obtain ⟨a, hon, ha⟩ := refuses_orderEndpoint c hnone s
  rw [serve_eq_trimBody, handle_orderEndpoint c hroute, hon] at h
  rcases h with hsuccess | hchanged
  · rw [isSuccess_trimBody, ha] at hsuccess
    cases hsuccess
  · exact hchanged rfl

/--
An order of any form takes its amount from a value that stands for it, and every value that stands
for an amount is read so; the ledger itself would take it only if it is the integer. Where such an
order is asked for, a request that brings none is not answered with success and changes nothing.
-/
theorem orders_take_what_stands (form : OrderForm) :
    (∀ fields order, form.read fields = .ok order →
      ∃ v, fields.lookup "amount" = some v ∧ Stands v order.amount) ∧
    (∀ v n, Stands v n → readAmount v = .ok n ∧ (Amount.ofValue v = .ok n.toNat ↔ v = .int n)) ∧
    ∀ (c : Configuration) (r : Request) (s : Service),
      route r.method r.target.path = .endpoint (orderEndpoint form) →
      (serve c r s).1.isSuccess = true ∨ (serve c r s).2 ≠ s → Orders r form := by
  refine ⟨fun fields order hread => ?_, fun v n h => ?_, fun c r s => orders_of_serve c⟩
  · obtain ⟨v, hv, hamount⟩ := amount_of_read hread
    exact ⟨v, hv, readAmount_eq_ok_iff_stands.1 hamount⟩
  · exact ⟨readAmount_eq_ok_iff_stands.2 h, h.ofValue_eq_ok⟩

/-- A user asks for an amount of dollars. -/
def fundRequest (amount : String) : Request where
  method := "POST"
  target := ⟨"/api/v1/wallets/fund", []⟩
  body := "\x7b\"amount\": " ++ amount ++ ", \"currency\": \"USD\"\x7d"
  credentials := .token ⟨[("sub", .text "1"), ("type", .text "access")], true⟩

/-- The fields of such a request. -/
def fundFields (amount : Value) : List (String × Value) :=
  [("amount", amount), ("currency", .text "USD")]

theorem three_dollars_stand :
    OrderForm.fund.read (fundFields (.int 300)) = .ok (.fund ⟨300, "USD"⟩) ∧
      Stands (.int 300) 300 ∧
      (∃ v, (fundFields (.int 300)).lookup "amount" = some v ∧ Stands v 300) ∧
      Amount.ofValue (.int 300) = .ok 300 ∧
      route (fundRequest "300").method (fundRequest "300").target.path = .endpoint .fund ∧
      (serve twoForOne (fundRequest "300") counter).1.isSuccess = true ∧
      Orders (fundRequest "300") .fund := by
  have hread : OrderForm.fund.read (fundFields (.int 300)) = .ok (.fund ⟨300, "USD"⟩) := by
    decide +kernel
  have hstands : Stands (.int 300) 300 := .written (by decide)
  have hroute : route (fundRequest "300").method (fundRequest "300").target.path =
      .endpoint .fund := by decide +kernel
  have hsuccess : (serve twoForOne (fundRequest "300") counter).1.isSuccess = true := by
    decide +kernel
  obtain ⟨htaken, hledger, hserved⟩ := orders_take_what_stands .fund
  exact ⟨hread, hstands, htaken _ _ hread, (hledger _ _ hstands).2.2 rfl, hroute, hsuccess,
    hserved _ _ _ hroute (.inl hsuccess)⟩

/-- What a request gives as its amount. -/
def givenAmount? (r : Request) : Option Value := do
  (← (readDocument r).toOption.join).field? "amount"

/-- Whether it is `true`. -/
def givesTruth (r : Request) : Bool :=
  match givenAmount? r with
  | some (.bool b) => b
  | _ => false

theorem givesTruth_iff {r : Request} :
    givesTruth r = true ↔ givenAmount? r = some (.bool true) := by
  rw [givesTruth]
  split
  · rename_i b hb
    simp [hb]
  · rename_i hother
    simpa using hother true

/-- An amount that the ledger would refuse can bring success: `true` passes for a cent. -/
theorem truth_passes_for_amount :
    ¬∀ (c : Configuration) (r : Request) (s : Service) (v : Value),
      route r.method r.target.path = .endpoint .fund → givenAmount? r = some v →
      (serve c r s).1.isSuccess = true → ∃ n, Amount.ofValue v = .ok n := by
  intro h
  have htruth : givesTruth (fundRequest "true") = true := by decide +kernel
  obtain ⟨n, hn⟩ := h twoForOne (fundRequest "true") counter (.bool true) (by decide +kernel)
    (givesTruth_iff.1 htruth) (by decide +kernel)
  cases hn

end Http

end CurrencyLedger
