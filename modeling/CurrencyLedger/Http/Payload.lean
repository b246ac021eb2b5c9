import CurrencyLedger.Http.Handler
import CurrencyLedger.Validation.Order

/-!
Bodies of requests.

A body is a document if its content type says so or says nothing; what is no document stays a text,
and an empty body or an empty document is none at all.
-/

namespace CurrencyLedger.Http

open CurrencyLedger.Validation

/-- Whether a content type is that of a document, or left open. -/
def isDocumentType (headers : List (String × String)) : Bool :=
  match header? headers "content-type" with
  | none => true
  | some s =>
    let kind := Text.asciiLower (Text.trim (Text.cut ';' s).1)
    s == "" || match Text.split '/' kind with
      | [main, sub] => main == "application" && (sub == "json" || sub.endsWith "+json")
      | _ => false

/-- The document in a body: none in an empty one; what is no document stays a text. -/
def readDocument (r : Request) : Except Answer (Option Value) :=
  if r.body = "" then .ok none
  else if !isDocumentType r.headers then .ok (some (.text r.body))
  else match Json.readBytes r.body with
    | .ok .null => .ok none
    | .ok v => .ok (some v)
    | .error .malformed => .error (.unprocessable [⟨["body"], .malformedDocument⟩])
    | .error _ => .error (.detail 400 "There was an error parsing the body")

/-- The order in a document. -/
def readOrder (read : List (String × Value) → Checked α) (v : Option Value) : Checked α :=
  Checked.within "body" <| match v with
    | none => .error [⟨[], .missing⟩]
    | some v => readBody .notAnObject read v

/-- What an issue is about: the part that it names, or the whole if the part is not there. -/
def subject (body : Value) (i : Issue) : Value :=
  match i.path with
  | [_, name] => (body.field? name).getD body
  | _ => body

/--
The answer to a body with issues. It shows what they are about, which has to be text and numbers
that can be written.
-/
def issuesAnswer (body : Value) (is : List Issue) : Answer :=
  if is.all fun i => (subject body i).isWritable then .unprocessable is else .unforeseen

/-- The order in a document, or an answer that says what is wrong with it. -/
def takeOrder (read : List (String × Value) → Checked α) (body : Option Value) : Handler α :=
  match readOrder read body with
  | .ok a => pure a
  | .error is => Handler.stop (issuesAnswer (body.getD .null) is)

/-- Reads the body before anything else of an endpoint that takes one. -/
def withBody (r : Request) (endpoint : Option Value → Handler Answer) : Handler Answer :=
  match readDocument r with
  | .ok v => endpoint v
  | .error a => Handler.stop a

end CurrencyLedger.Http
