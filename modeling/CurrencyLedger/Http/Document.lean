import CurrencyLedger.Operation

/-!
Rows as documents.

Answers show rows as objects. Amounts are integers in smallest units, moments are in their extended
form without a zone.
-/

namespace CurrencyLedger

/-- A transaction as a document. -/
def Transaction.document (x : Transaction) : Value := .object
  [("id", .text x.id), ("reference", .text x.reference), ("session_id", .text x.sessionId),
    ("user_id", .int x.userId), ("wallet_id", .text x.walletId), ("currency", .text x.currency),
    ("amount", .int x.amount), ("flow", .text x.flow.text), ("tx_type", .text x.kind.text),
    ("status", .text x.status.text), ("exchange_rate", .text x.exchangeRate),
    ("description", .text x.description), ("meta", x.remarks), ("is_disputed", .bool x.disputed),
    ("created_at", .text x.createdAt.isoText), ("updated_at", .text x.updatedAt.isoText)]

/--
A transaction as a document for whoever recorded it: a session and a description that are given are
shown as they were given, whatever a row keeps of them.
-/
def Transaction.documentFor (p : History.Particulars) (x : Transaction) : Value :=
  match x.document with
  | .object fields =>
    let fields := if p.sessionId.given then Fields.set "session_id" p.sessionId fields else fields
    .object (if p.description.given then Fields.set "description" p.description fields else fields)
  | v => v

/-- A wallet as a document. -/
def Wallet.document (w : Wallet) : Value := .object
  [("id", .text w.id), ("user_id", .int w.userId), ("currency", .text w.currency),
    ("balance", .int w.balance), ("created_at", .text w.createdAt.isoText),
    ("updated_at", .text w.updatedAt.isoText)]

/-- An activity as a document. -/
def Activity.document (a : Activity) : Value := .object
  [("id", .int a.id), ("entity", .text a.entity), ("resource", .text a.resource),
    ("event", .text a.event), ("activity", .text a.text), ("request_meta", a.requestMeta),
    ("event_date", .text a.date.isoText)]

/-- The fields of an exchange as a document. -/
def Operation.Exchanged.fields (e : Operation.Exchanged) : List (String × Value) :=
  [("debit_transaction", e.legs.debit.document), ("credit_transaction", e.legs.credit.document),
    ("rate", .text e.rate), ("converted_amount", .int e.converted)]

/-- A conversion as a document. -/
def Operation.Exchanged.document (e : Operation.Exchanged) : Value := .object e.fields

/-- A trade as a document. -/
def Operation.tradeDocument (action : TradeAction) (e : Operation.Exchanged) : Value :=
  .object (e.fields ++ [("action", .text action.text)])

end CurrencyLedger
