import CurrencyLedger.Http.Document
import CurrencyLedger.Proofs.Timestamps

/-!
What documents show.

The document of a transaction has each field of the row under a name of its own: numbers as numbers,
what is chosen from a list by its word, and times in their extended form. Words and written times
can be read back, so a document shows one row and no other.
-/

namespace CurrencyLedger

/-! ### Written times -/

namespace Text

/-- A number can be told from what follows it after a mark that is no digit. -/
theorem paddedNat_append_inj {width m n : Nat} {mark : Char} {us vs : List Char}
    (h : (paddedNat width m).toList ++ mark :: us = (paddedNat width n).toList ++ mark :: vs)
    (hmark : mark.isDigit = false) : m = n ∧ us = vs := by
  have hspan (k : Nat) (ws : List Char) : spanDigits ((paddedNat width k).toList ++ mark :: ws) =
      ((paddedNat width k).toList.map fun c => c.toNat - 48, mark :: ws) :=
    spanDigits_append isDigit_paddedNat (by simpa using hmark)
  have hboth := (hspan m us).symm.trans ((congrArg spanDigits h).trans (hspan n vs))
  rw [Prod.mk.injEq] at hboth
  refine ⟨?_, (List.cons.inj hboth.2).2⟩
  simpa only [ofDigits_eq_ofDigitChars, ofDigitChars_paddedNat] using congrArg ofDigits hboth.1

end Text

open Text

theorem Moment.isoText_injective : Function.Injective Moment.isoText := by
  intro a b h
  have hdash : "-".toList = ['-'] := rfl
  have hletter : "T".toList = ['T'] := rfl
  have hcolon : ":".toList = [':'] := rfl
  have hchars := congrArg String.toList h
  simp only [isoText, clockText, Date.text, String.toList_append, List.append_assoc, hdash,
    hletter, hcolon, List.cons_append, List.nil_append] at hchars
  obtain ⟨hyear, hchars⟩ := paddedNat_append_inj hchars rfl
  obtain ⟨hmonth, hchars⟩ := paddedNat_append_inj hchars rfl
  obtain ⟨hday, hchars⟩ := paddedNat_append_inj hchars rfl
  obtain ⟨hhour, hchars⟩ := paddedNat_append_inj hchars rfl
  obtain ⟨hminute, hchars⟩ := paddedNat_append_inj hchars rfl
  have hsecond := congrArg (Nat.ofDigitChars 10 · 0) hchars
  simp only [ofDigitChars_paddedNat] at hsecond
  obtain ⟨⟨ya, ma, da⟩, ha, na, sa⟩ := a
  obtain ⟨⟨yb, mb, db⟩, hb, nb, sb⟩ := b
  simp only at hyear hmonth hday hhour hminute hsecond
  subst hyear hmonth hday hhour hminute hsecond
  rfl

namespace Transaction

/-! ### Words -/

theorem Flow.ofText?_text (f : Flow) : Flow.ofText? f.text = some f := by
  cases f <;> decide

theorem Kind.ofText?_text (k : Kind) : Kind.ofText? k.text = some k := by
  cases k <;> decide

theorem Status.ofText?_text (s : Status) : Status.ofText? s.text = some s := by
  cases s <;> decide

/-! ### Rows -/

/-- A document that shows a transaction: each field of the row under its name. -/
structure Shown (x : Transaction) (v : Value) : Prop where
  id : v.field? "id" = some (.text x.id)
  reference : v.field? "reference" = some (.text x.reference)
  sessionId : v.field? "session_id" = some (.text x.sessionId)
  userId : v.field? "user_id" = some (.int x.userId)
  walletId : v.field? "wallet_id" = some (.text x.walletId)
  currency : v.field? "currency" = some (.text x.currency)
  amount : v.field? "amount" = some (.int x.amount)
  flow : v.field? "flow" = some (.text x.flow.text)
  kind : v.field? "tx_type" = some (.text x.kind.text)
  status : v.field? "status" = some (.text x.status.text)
  exchangeRate : v.field? "exchange_rate" = some (.text x.exchangeRate)
  description : v.field? "description" = some (.text x.description)
  remarks : v.field? "meta" = some x.remarks
  disputed : v.field? "is_disputed" = some (.bool x.disputed)
  createdAt : v.field? "created_at" = some (.text x.createdAt.isoText)
  updatedAt : v.field? "updated_at" = some (.text x.updatedAt.isoText)

/-- The document of a row gives back every field of it. -/
theorem shown_document (x : Transaction) : x.Shown x.document := by
  constructor <;> rfl

/-- What two rows are shown as is the same only if they are. -/
theorem Shown.unique {x y : Transaction} {v : Value} (hx : x.Shown v) (hy : y.Shown v) :
    x = y := by
  have htext {name s t : String} (hs : v.field? name = some (.text s))
      (ht : v.field? name = some (.text t)) : s = t := by
    simpa using hs.symm.trans ht
  have hint {name : String} {m n : Int} (hm : v.field? name = some (.int m))
      (hn : v.field? name = some (.int n)) : m = n := by
    simpa using hm.symm.trans hn
  have hflow : x.flow = y.flow := by
    simpa only [htext hx.flow hy.flow, Flow.ofText?_text, Option.some.injEq, eq_comm] using
      Flow.ofText?_text x.flow
  have hkind : x.kind = y.kind := by
    simpa only [htext hx.kind hy.kind, Kind.ofText?_text, Option.some.injEq, eq_comm] using
      Kind.ofText?_text x.kind
  have hstatus : x.status = y.status := by
    simpa only [htext hx.status hy.status, Status.ofText?_text, Option.some.injEq, eq_comm] using
      Status.ofText?_text x.status
  have hdisputed : x.disputed = y.disputed := by
    simpa using hx.disputed.symm.trans hy.disputed
  have hremarks : x.remarks = y.remarks := by
    simpa using hx.remarks.symm.trans hy.remarks
  cases x
  cases y
  simp only [Transaction.mk.injEq]
  exact ⟨htext hx.id hy.id, htext hx.reference hy.reference, htext hx.sessionId hy.sessionId,
    hint hx.userId hy.userId, htext hx.walletId hy.walletId, htext hx.currency hy.currency,
    Int.ofNat_inj.1 (hint hx.amount hy.amount), hflow, hkind, hstatus,
    htext hx.exchangeRate hy.exchangeRate, htext hx.description hy.description, hremarks,
    hdisputed, Moment.isoText_injective (htext hx.createdAt hy.createdAt),
    Moment.isoText_injective (htext hx.updatedAt hy.updatedAt)⟩

end Transaction

end CurrencyLedger
