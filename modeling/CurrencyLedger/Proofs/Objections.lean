import CurrencyLedger.Proofs.Outcomes
import CurrencyLedger.Proofs.Providers
import CurrencyLedger.Proofs.Refusals

/-!
Objections to what is asked.

The operations object to an argument in four ways: the amount is no positive integer, a text names
no currency, the two currencies are the same, or the action is none. They do so while a call is
checked, before anything is priced, and the arguments alone decide it. Nothing that comes later
raises an objection of its own: if a call that has passed the checks ends with one, then the source
of rates answered with it, or a statement was bound to fail with it.
-/

namespace CurrencyLedger

/-! ### Failures -/

/--
Whether a failure may be an objection. The message about a value that is no choice begins with the
quoted value, and no other message begins with a quote.
-/
def Failure.isObjection : Failure → Bool
  | .ledger e => match e.kind with
    | .invalidAmount => e.detail.isNone
    | .invalidCurrency => true
    | .sameCurrency => true
    | _ => false
  | .badValue message => message.toList.head? == some '\''
  | _ => false

/-- A message that begins with something else than a quote. -/
def Unquoted (message : String) : Prop := ∃ c, message.toList.head? = some c ∧ c ≠ '\''

theorem Unquoted.append {message : String} (h : Unquoted message) (more : String) :
    Unquoted (message ++ more) := by
  obtain ⟨c, hc, hquote⟩ := h
  refine ⟨c, ?_, hquote⟩
  rw [String.toList_append, List.head?_append, hc]
  rfl

theorem Unquoted.isObjection_badValue {message : String} (h : Unquoted message) :
    (Failure.badValue message).isObjection = false := by
  obtain ⟨c, hc, hquote⟩ := h
  simp [Failure.isObjection, hc, hquote]

/-- A computation that raises no objection. -/
def Consents (r : Except Failure α) : Prop := ∀ f, r = .error f → f.isObjection = false

namespace Consents

variable {α β : Type}

theorem ok (x : α) : Consents (.ok x) := fun _ h => by cases h

theorem error {f : Failure} (h : f.isObjection = false) :
    Consents (.error f : Except Failure α) := by
  rintro _ ⟨⟩
  exact h

theorem bind {r : Except Failure α} {g : α → Except Failure β} (hr : Consents r)
    (hg : ∀ x, Consents (g x)) : Consents (r >>= g) := by
  intro f hf
  rcases bind_eq_error.1 hf with h | ⟨x, -, h⟩
  · exact hr f h
  · exact hg x f h

theorem ofSignal (r : Except Decimal.Signal α) : Consents (ofSignal r) := by
  intro f hf
  obtain ⟨s, -, rfl⟩ := ofSignal_eq_error.1 hf
  rfl

/-- A refusal of the ledger for another reason. -/
theorem ofLedger {r : Except LedgerError α}
    (h : ∀ e, r = .error e → (Failure.ledger e).isObjection = false) : Consents (ofLedger r) := by
  intro f hf
  obtain ⟨e, he, rfl⟩ := ofLedger_eq_error.1 hf
  exact h e he

theorem foldlM {f : β → α → Except Failure β} (hf : ∀ b a, Consents (f b a)) (l : List α) (b : β) :
    Consents (l.foldlM f b) := by
  induction l generalizing b with
  | nil => exact .ok b
  | cons a l ih =>
    rw [List.foldlM_cons]
    exact (hf b a).bind ih

end Consents

theorem Amount.consents_wholePart (d : Decimal) : Consents (wholePart d) := by
  cases d with
  | finite s c e => exact .ok _
  | infinite s => exact .error rfl
  | nan => exact .error (by decide)

theorem Amount.consents_convert (n : Int) (rate : Decimal) : Consents (convert n rate) := by
  refine .bind (.ofSignal _) fun major => .bind (.ofSignal _) fun product => ?_
  exact .bind (.ofSignal _) fun _ => .bind (.ofSignal _) fun _ => consents_wholePart _

theorem Amount.consents_cover (n : Int) (rate : Decimal) : Consents (cover n rate) :=
  .bind (.ofSignal _) fun _ => .bind (.ofSignal _) fun _ => consents_wholePart _

theorem Rate.consents_normalize (v : Value) : Consents (ofLedger (normalize v)) := by
  refine .ofLedger fun e he => ?_
  simp only [Failure.isObjection, kind_of_normalize he]

theorem Value.consents_toInteger (v : Value) : Consents v.toInteger := by
  have hnone (w : Value) : (noInteger w).isObjection = false :=
    (Unquoted.append ⟨'i', by decide, by decide⟩ _).isObjection_badValue
  have hlong (digits : Nat) : (Failure.badValue (Text.tooManyDigits digits)).isObjection = false :=
    (((Unquoted.append ⟨'E', by decide, by decide⟩ _).append _).append _).append _
      |>.isObjection_badValue
  unfold toInteger
  split
  · exact .ok _
  · exact .ok _
  · exact .ok _
  · exact .error rfl
  · exact .error (by decide)
  · exact .ok _
  · exact .error rfl
  · exact .error (by decide)
  · split
    · exact .ok _
    · exact .error (hnone _)
    · exact .error (hlong _)
  · exact .error (hnone _)
  · exact .error rfl

theorem Value.consents_toObject (v : Value) : Consents v.toObject := by
  have hitems (v : Value) : Consents v.pairItems := by
    cases v <;> first | exact .ok _ | exact .error rfl
  have hname (v : Value) : Consents v.fieldName := by
    unfold fieldName
    split <;> first | exact .ok _ | exact .error rfl
  unfold toObject
  split
  · exact .ok _
  · refine (hitems _).bind fun pairs => .bind (.foldlM (fun fields pair => ?_) _ _) fun _ => .ok _
    refine (hitems _).bind fun items => ?_
    split
    · exact (hname _).bind fun _ => .ok _
    · refine .error ?_
      rw [noPair]
      refine Unquoted.isObjection_badValue ((((Unquoted.append ?_ _).append _).append _).append _)
      exact ⟨'d', by decide, by decide⟩

theorem Column.consents_givenTextOr (standing : String) (v : Value) :
    Consents (givenTextOr standing v) := by
  have hrefusal {f : Failure} (h : refusal? v = some f) : f.isObjection = false := by
    unfold refusal? at h
    split at h
    · split_ifs at h
      cases h
      rfl
    all_goals cases h <;> rfl
  rw [givenTextOr]
  split_ifs
  · exact .ok _
  · split
    · rename_i f _ hf
      exact .error (hrefusal hf)
    · exact .ok _
    · exact .error rfl

/-! ### Limits of time -/

namespace TimeLimit

theorem consents_milliseconds (l : TimeLimit) : Consents l.milliseconds := by
  refine .bind ?_ fun n => ?_
  · cases l with
    | whole n => exact .ok _
    | real x => exact Value.consents_toInteger _
    | exact d => exact .bind (.ofSignal _) fun _ => Value.consents_toInteger _
    | text s =>
      rw [wholeMilliseconds]
      exact Value.consents_toInteger _
    | other => exact .error rfl
  · split_ifs
    · exact .ok _
    · refine .error ?_
      rw [tooLongToWrite]
      refine Unquoted.isObjection_badValue (((Unquoted.append ?_ _).append _).append _)
      exact ⟨'E', by decide, by decide⟩

theorem isObjection_failure (l : TimeLimit) : l.failure.isObjection = false := by
  cases l with
  | whole n =>
    rw [failure, written, wholeText]
    cases Binary64.ofInt? n <;> rfl
  | real x => rfl
  | exact d => rfl
  | text s => exact Unquoted.isObjection_badValue ⟨'U', by decide, by decide⟩
  | other => rfl

theorem consents_isPassed (elapsed : Binary64) (l : TimeLimit) : Consents (l.isPassed elapsed) := by
  unfold isPassed
  split
  · exact .ok _
  · exact .ok _
  · split
    · exact .error rfl
    · exact .error rfl
    · exact .ok _
    · exact .ok _
    · exact .ok _
  · exact .error rfl

end TimeLimit

theorem UnitOfWork.isObjection_of_overrun? {limit : Option TimeLimit} {elapsed : Binary64}
    {f : Failure} (h : overrun? limit elapsed = some f) : f.isObjection = false := by
  rw [overrun?] at h
  split at h
  · rename_i l _
    split at h
    · split_ifs at h
      cases h
      exact l.isObjection_failure
    · rename_i g hg
      cases h
      exact l.consents_isPassed elapsed _ hg
  · cases h

/-- What a unit of work reports as an objection is what has ended it. -/
theorem UnitOfWork.eq_of_reported {limit : Option TimeLimit} {elapsed : Binary64} {f g : Failure}
    (h : reported limit elapsed f = g) (hobjects : g.isObjection = true) : f = g := by
  rw [reported] at h
  by_cases hdatabase : f.isDatabase = true
  · exfalso
    rw [if_pos hdatabase] at h
    split at h
    · rename_i l _
      split_ifs at h
      · rw [← h, l.isObjection_failure] at hobjects
        cases hobjects
      · cases hover : overrun? limit elapsed with
        | none =>
          rw [← h, hover] at hobjects
          cases hobjects
        | some f' =>
          rw [← h, hover, Option.getD_some, isObjection_of_overrun? hover] at hobjects
          cases hobjects
    · rw [← h] at hobjects
      cases hobjects
  · rwa [if_neg hdatabase] at h

/-- An action is named by its own text alone. -/
theorem TradeAction.ofValue_eq_ok {v : Value} {a : TradeAction} :
    ofValue v = .ok a ↔ v = .text a.text := by
  rw [ofValue, Value.choose_eq_ok_iff]
  constructor
  · rintro ⟨s, rfl, hs⟩
    have htext : a.text = s := by simpa using List.find?_some hs
    rw [htext]
  · rintro rfl
    refine ⟨a.text, rfl, ?_⟩
    cases a <;> rfl

/-! ### Actions -/

/--
An action that raises no objection but one that the state holds ready, and leaves nothing else
ready there.
-/
def Action.Consents (ready : σ → Failure → Prop) (a : Action σ α) : Prop := ∀ s,
  (∀ f, ready (a.on s).2 f → ready s f) ∧
    ∀ f, (a.on s).1 = .error f → f.isObjection = true → ready s f

namespace Action.Consents

variable {σ α β : Type} {ready : σ → Failure → Prop}

theorem lift {r : Except Failure α} (h : CurrencyLedger.Consents r) :
    (Action.lift r).Consents ready := by
  refine fun s => ⟨fun _ => id, fun f hf hobjects => ?_⟩
  rw [h f hf] at hobjects
  cases hobjects

theorem pure (x : α) : (Pure.pure x : Action σ α).Consents ready :=
  fun _ => ⟨fun _ => id, fun _ h => by cases h⟩

theorem read (f : σ → α) : (Action.read f).Consents ready :=
  fun _ => ⟨fun _ => id, fun _ h => by cases h⟩

theorem bind {a : Action σ α} {g : α → Action σ β} (ha : a.Consents ready)
    (hg : ∀ x, (g x).Consents ready) : (a >>= g).Consents ready := by
  intro s
  obtain ⟨hready, hown⟩ := ha s
  rw [on_bind]
  rcases hon : a.on s with ⟨f | x, t⟩
  all_goals rw [hon] at hready hown
  · exact ⟨hready, fun e he => hown e (by cases he; rfl)⟩
  · obtain ⟨hready', hown'⟩ := hg x t
    exact ⟨fun f h => hready f (hready' f h), fun f hf hobjects => hready f (hown' f hf hobjects)⟩

theorem map (f : α → β) {a : Action σ α} (ha : a.Consents ready) : (f <$> a).Consents ready := by
  rw [map_eq_pure_bind]
  exact ha.bind fun _ => pure _

/-- An action whose failure is handed on, or answered in some other way. -/
theorem rescue {a : Action σ α} {g : Except Failure α → Action σ β} (ha : a.Consents ready)
    (hok : ∀ x, (g (.ok x)).Consents ready)
    (herror : ∀ f, g (.error f) = .fail f ∨ (g (.error f)).Consents ready) :
    (a.outcome >>= g).Consents ready := by
  intro s
  obtain ⟨hready, hown⟩ := ha s
  have hthen {b : Action σ β} (hb : b.Consents ready) :
      (∀ f, ready (b.on (a.on s).2).2 f → ready s f) ∧
        ∀ f, (b.on (a.on s).2).1 = .error f → f.isObjection = true → ready s f :=
    ⟨fun f h => hready f ((hb _).1 f h), fun f hf hobjects => hready f ((hb _).2 f hf hobjects)⟩
  rw [on_bind, on_outcome]
  dsimp only
  cases hr : (a.on s).1 with
  | ok x => exact hthen (hok x)
  | error f =>
    rcases herror f with hfail | hanswer
    · rw [hfail]
      exact ⟨hready, by rintro _ ⟨⟩ hobjects; exact hown f hr hobjects⟩
    · exact hthen hanswer

end Action.Consents

namespace Session

/-- A statement is bound to fail in some way. -/
def Faulty (s : Session) (f : Failure) : Prop := ∃ st, s.faults st = some f

theorem consents_query (st : Statement) (bound : List Int) (f : Tables → α) :
    (query st bound f).Consents Faulty := by
  intro s
  rw [on_query_snd]
  refine ⟨fun _ => id, fun e he hobjects => ?_⟩
  rw [query, Action.on_of] at he
  split at he
  · rename_i g hg
    cases he
    exact ⟨st, hg⟩
  · split_ifs at he <;> cases he <;> cases hobjects

theorem consents_write (st : Statement) {change : Tables → Except Failure Tables}
    (h : ∀ t, Consents (change t)) : (write st change).Consents Faulty := by
  intro s
  rw [write, Action.on_of]
  split_ifs
  · exact ⟨fun _ => id, by rintro _ ⟨⟩ ⟨⟩⟩
  · split
    · rename_i g hg
      refine ⟨fun _ => id, ?_⟩
      rintro _ ⟨⟩ -
      exact ⟨st, hg⟩
    · split
      · exact ⟨fun _ => id, by rintro _ ⟨⟩⟩
      · rename_i g hg
        refine ⟨fun _ => id, ?_⟩
        rintro _ ⟨⟩ hobjects
        rw [h _ _ hg] at hobjects
        cases hobjects

theorem consents_draw (f : Names → String × Names) : (draw f).Consents Faulty :=
  fun _ => ⟨fun _ => id, fun _ h => by cases h⟩

theorem consents_admitRival : admitRival.Consents Faulty := by
  intro s
  refine ⟨fun f => ?_, fun _ h => by cases h⟩
  rcases on_admitRival s with h | ⟨r, -, h⟩ <;> rw [h] <;> exact id

theorem consents_commit : commit.Consents Faulty := by
  intro s
  rw [commit, Action.on_of]
  split
  · rename_i g hg
    refine ⟨fun _ => id, ?_⟩
    rintro _ ⟨⟩ -
    exact ⟨.commit, hg⟩
  · split_ifs
    · exact ⟨fun _ => id, by rintro _ ⟨⟩ ⟨⟩⟩
    · exact ⟨fun _ => id, by rintro _ ⟨⟩⟩

theorem consents_nested {a : Action Session α} (h : a.Consents Faulty) :
    (nested a).Consents Faulty := by
  intro s
  have hbracketed : (bracketed a).Consents Faulty :=
    .bind (consents_query _ _ _) fun _ => h.bind fun _ =>
      .bind (consents_query _ _ _) fun _ => .pure _
  obtain ⟨hready, hown⟩ := hbracketed s
  rw [nested, Action.on_of]
  rcases hon : (bracketed a).on s with ⟨f | x, t⟩
  all_goals rw [hon] at hready hown
  · exact ⟨hready, hown⟩
  · exact ⟨hready, hown⟩

/-- A unit of work reports what its body ends with. -/
theorem consents_unitOfWork (limit : Option TimeLimit) {body : Action Session α}
    (h : body.Consents Faulty) : (unitOfWork limit body).Consents Faulty := by
  intro s
  have hsetUp : (UnitOfWork.setUp s.connection limit).Consents Faulty := by
    rw [UnitOfWork.setUp]
    split
    · exact .bind (.lift (TimeLimit.consents_milliseconds _)) fun _ => consents_query _ _ _
    · exact .pure _
  have hattempt : (UnitOfWork.attempt s.connection limit s.elapsed body).Consents Faulty := by
    refine hsetUp.bind fun _ => h.bind fun x => ?_
    split
    · rename_i f hover
      exact .lift (.error (UnitOfWork.isObjection_of_overrun? hover))
    · exact consents_commit.bind fun _ => .pure _
  obtain ⟨hready, hown⟩ := hattempt s
  rw [unitOfWork, Action.on_of, UnitOfWork.run, Action.on_of]
  rcases hon : (UnitOfWork.attempt s.connection limit s.elapsed body).on s with ⟨f | x, t⟩
  all_goals rw [hon] at hready hown
  · refine ⟨hready, fun g hg hobjects => ?_⟩
    obtain rfl := UnitOfWork.eq_of_reported (Except.error.inj hg) hobjects
    exact hown f rfl hobjects
  · exact ⟨hready, hown⟩

end Session

/-! ### Providers -/

namespace Rate

/-- Nothing is held ready in the surroundings of a provider. -/
def Nothing : Market ℚ → Failure → Prop := fun _ _ => False

theorem Reply.consents_document (reply : Reply) (address : Network.RequestAddress) :
    Consents (reply.document address) := by
  cases reply with
  | unreachable => exact .error rfl
  | answered status body =>
    rw [document]
    split_ifs
    · split
      · exact .ok _
      · exact .error rfl
      · exact .error rfl
    · exact .error rfl

namespace Table

theorem consents_ofReply (payload : Value) : Consents (ofReply payload) := by
  have hfields (v : Value) : Consents (givenFields v) := by
    unfold givenFields
    split_ifs
    · split
      · exact .ok _
      · exact .error rfl
    · exact .ok _
  have hread : Consents (ofPayload payload) :=
    (hfields _).bind fun _ => (hfields _).bind fun _ => .ok _
  refine hread.bind fun table => ?_
  cases table with
  | nil => exact .error rfl
  | cons e es => exact .ok _

theorem consents_quote (table : Table) (base target : String) :
    Consents (table.quote base target) := by
  have hrefused : Consents (.error (.ledger (noRate base target)) : Except Failure Decimal) :=
    .error rfl
  unfold quote
  split
  · split_ifs
    · exact hrefused
    · refine (Consents.ofSignal _).bind fun b => ?_
      split_ifs
      · exact hrefused
      · refine (Consents.ofSignal _).bind fun t => ?_
        split_ifs
        · exact hrefused
        · exact .ofSignal _
  · exact hrefused

end Table

namespace Online

variable (service : Online)

theorem consents_request : Consents service.request := by
  have haddress : Consents (Network.RequestAddress.read service.url) := by
    rw [Network.RequestAddress.read]
    cases Network.RequestAddress.read? service.url with
    | none => exact .error rfl
    | some address => exact .ok address
  have hkey : Consents service.keyHeader := by
    rw [keyHeader]
    split_ifs
    · exact .ok _
    · split
      · split_ifs
        · exact .ok _
        · exact .error rfl
      · exact .error rfl
      · exact .error rfl
  exact haddress.bind fun _ => hkey.bind fun _ => .ok _

theorem consents_lifetime :
    Consents (TimeScale.lifetime service.cacheSeconds : Except Failure ℚ) := by
  unfold TimeScale.lifetime
  split
  · exact .ok _
  · split_ifs <;> exact .ok _
  · split_ifs
    · exact .ok _
    · simp only [TimeScale.ofBinary64]
      split
      · exact .ok _
      · exact .error rfl
  · refine (Consents.ofSignal _).bind fun isOver => ?_
    split_ifs
    · exact .ok _
    · exact .error rfl
  · exact .error rfl

theorem consents_fetch : (service.fetch : Action (Market ℚ) Value).Consents Nothing := by
  have hnote (c : Contact) : (Market.note c : Action (Market ℚ) Unit).Consents Nothing :=
    fun _ => ⟨fun _ => id, fun _ h => by cases h⟩
  have hreply : (Market.nextReply : Action (Market ℚ) Reply).Consents Nothing := by
    intro m
    rw [Market.nextReply, Action.on_of]
    cases m.replies with
    | nil => exact ⟨fun _ => id, by rintro _ ⟨⟩ ⟨⟩⟩
    | cons reply rest => exact ⟨fun _ => id, by rintro _ ⟨⟩⟩
  have hask : (service.ask : Action (Market ℚ) Value).Consents Nothing := by
    refine .bind (.lift service.consents_request) fun p => (hnote _).bind fun _ => ?_
    exact hreply.bind fun reply => .lift (reply.consents_document _)
  rw [fetch_eq]
  cases service.opensConnection with
  | true => exact (hnote _).bind fun _ => hask
  | false => exact hask

theorem consents_table : (service.table : Action (Market ℚ) Table).Consents Nothing := by
  have hcached : (Market.cachedTable : Action (Market ℚ) (Option Table)).Consents Nothing :=
    fun _ => ⟨fun _ => id, fun _ h => by cases h⟩
  have hstore (table : Table) : (service.store table : Action (Market ℚ) Unit).Consents Nothing :=
    .bind (.lift service.consents_lifetime) fun _ _ => ⟨fun _ => id, fun _ h => by cases h⟩
  have hrenewed : (service.renewed : Action (Market ℚ) Table).Consents Nothing := by
    rw [renewed]
    split_ifs
    · exact .lift (.error rfl)
    · refine service.consents_fetch.bind fun payload => ?_
      refine .bind (.lift (Table.consents_ofReply payload)) fun table => ?_
      exact (hstore table).bind fun _ => .pure _
  rw [table_eq]
  refine hcached.bind fun found => ?_
  split
  · exact .pure _
  · exact hrenewed

end Online

/-- A provider raises no objection, whatever it is asked for. -/
theorem Provider.consents_rate (p : Provider) (base target : Value) :
    (p.rate base target : Action (Market ℚ) Decimal).Consents Nothing := by
  have htable : (p.table : Action (Market ℚ) Table).Consents Nothing := by
    cases p with
    | fixed table => exact .pure table
    | online service => exact service.consents_table
    | undefined => exact .lift (.error rfl)
  rw [rate]
  split_ifs
  · exact .pure _
  · exact htable.bind fun table => .lift (table.consents_quote _ _)

end Rate

theorem Exchange.consents_providerRates (p : Rate.Provider) (m : Rate.Market ℚ)
    (base target : String) : Consents (providerRates p m base target) := by
  intro f hf
  by_contra hobjects
  exact (p.consents_rate _ _ m).2 f (map_eq_error.1 hf) (Bool.eq_true_of_not_eq_false hobjects)

open Session

/-! ### Wallets and rows -/

theorem History.consents_row (id reference rate : String) (remarks : Value) (now : Moment)
    (w : Wallet) (amount : Nat) (flow : Transaction.Flow) (p : Particulars) :
    Consents (row id reference rate remarks now w amount flow p) :=
  (Column.consents_givenTextOr _ _).bind fun _ => (Column.consents_givenTextOr _ _).bind fun _ =>
    .ok _

theorem History.consents_record (w : Wallet) (amount : Nat) (flow : Transaction.Flow)
    (p : Particulars) : (record w amount flow p).Consents Faulty := by
  have hremarks : Consents (keptRemarks p.remarks) := by
    rw [keptRemarks]
    split_ifs
    · exact Value.consents_toObject _
    · exact .ok _
  refine (consents_draw _).bind fun reference => .bind (.lift (.ofSignal _)) fun rate => ?_
  refine .bind (.lift hremarks) fun remarks => (consents_draw _).bind fun id => ?_
  refine .bind (.read _) fun now => ?_
  have hrow := consents_row id reference rate remarks now w amount flow p
  refine .bind (consents_write _ fun t => hrow.bind fun x => ?_) fun _ => .lift hrow
  cases t.insertTransaction? x with
  | some t => exact .ok t
  | none => exact .error rfl

namespace Wallets

theorem consents_load (flow : Transaction.Flow) (id : String) : (load flow id).Consents Faulty := by
  refine .bind (consents_query _ _ _) fun found => ?_
  cases found with
  | some w => exact .pure w
  | none => exact .lift (.error rfl)

theorem consents_store (flow : Transaction.Flow) (w : Wallet) (balance : Nat) :
    (store flow w balance).Consents Faulty := by
  refine .bind (.read _) fun _ => consents_write _ fun t => ?_
  split_ifs
  · exact .ok _
  · exact .error rfl

section

variable {n : Int} (hn : 0 < n)
include hn

theorem consents_ofValue : Consents (ofLedger (Amount.ofValue (.int n))) := by
  rw [Amount.ofValue, if_pos hn]
  exact .ok _

theorem consents_credit (id : String) (p : History.Particulars) :
    (credit id (.int n) p).Consents Faulty :=
  .bind (.lift (consents_ofValue hn)) fun _ => .bind (consents_load _ _) fun _ =>
    .bind (consents_store _ _ _) fun _ => History.consents_record _ _ _ _

theorem consents_debit (id : String) (p : History.Particulars) :
    (debit id (.int n) p).Consents Faulty := by
  refine .bind (.lift (consents_ofValue hn)) fun _ => .bind (consents_load _ _) fun w => ?_
  split_ifs
  · exact .lift (.error rfl)
  · exact .bind (consents_store _ _ _) fun _ => History.consents_record _ _ _ _

end

section

variable (userId : Int) {code : String} (hcode : Currency.isCode code = true)
include hcode

theorem consents_normalize : Consents (ofLedger (Currency.normalize (.text code))) := by
  rw [Currency.normalize_text hcode]
  exact .ok code

theorem consents_find : (find userId (.text code)).Consents Faulty :=
  .bind (.lift (consents_normalize hcode)) fun _ => consents_query _ _ _

theorem consents_resolve : (resolve userId (.text code)).Consents Faulty := by
  have hcreate (code : String) : (create userId code).Consents Faulty := by
    refine (consents_draw _).bind fun _ => .bind (.read _) fun _ => ?_
    refine .bind (consents_write _ fun t => ?_) fun _ => .pure _
    split
    · exact .ok _
    · exact .error rfl
  have hwinner (code : String) : (winner userId code).Consents Faulty := by
    refine .bind (consents_query _ _ _) fun found => ?_
    cases found with
    | some w => exact .pure w
    | none => exact .lift (.error rfl)
  refine .bind (.lift (consents_normalize hcode)) fun code => ?_
  refine .bind (consents_query _ _ _) fun found => ?_
  cases found with
  | some w => exact .pure w
  | none =>
    refine consents_admitRival.bind fun _ => .rescue (consents_nested (hcreate code)) .pure ?_
    intro f
    cases f with
    | integrity => exact .inr (hwinner code)
    | _ => exact .inl rfl

end

end Wallets

namespace Exchange

/-- A computation that raises no objection but one that a source of rates has answered with. -/
def Priced (rates : RateSource) (r : Except Failure α) : Prop :=
  ∀ f, r = .error f → f.isObjection = true → ∃ a b, rates a b = .error f

variable {rates : RateSource}

theorem Priced.bind {r : Except Failure α} {g : α → Except Failure β} (hr : Priced rates r)
    (hg : ∀ x, Consents (g x)) : Priced rates (r >>= g) := by
  intro f hf hobjects
  rcases bind_eq_error.1 hf with h | ⟨x, -, h⟩
  · exact hr f h hobjects
  · rw [hg x f h] at hobjects
    cases hobjects

theorem priced_plan (source target : String) {spend : Decimal → Except Failure Int}
    (hspend : ∀ rate, Consents (spend rate)) : Priced rates (plan rates source target spend) := by
  have hconverted (n : Int) (currency : String) :
      Consents (ofLedger (requireConverted n currency)) := by
    rw [requireConverted]
    split_ifs
    · exact .ok _
    · exact .error rfl
  have hquote : Priced rates (rates source target) := fun f hf _ => ⟨source, target, hf⟩
  refine hquote.bind fun v => (Rate.consents_normalize v).bind fun rate => ?_
  refine (hspend rate).bind fun debit => (Amount.consents_convert debit rate).bind fun n => ?_
  exact (hconverted n target).bind fun _ => (Consents.ofSignal _).bind fun _ => .ok _

end Exchange

namespace Operation

open Wallets

theorem consents_moveLegs (userId : Int) {plan : Exchange.Plan} (hplan : plan.Distinct)
    (hsized : plan.Sized) (p : History.Particulars) : (moveLegs userId plan p).Consents Faulty := by
  refine .bind (consents_find userId hplan.source) fun found => ?_
  cases found with
  | none => exact .lift (.error rfl)
  | some source =>
    refine .bind (consents_debit hsized.debit _ _) fun _ => ?_
    refine .bind (consents_resolve userId hplan.target) fun _ => ?_
    exact .bind (consents_credit hsized.credit _ _) fun _ => .pure _

theorem Order.consents_move {order : Order} (hproper : order.Proper) (hsized : order.Sized)
    (userId : Int) (sessionId : String) : (order.move userId sessionId).Consents Faulty := by
  cases order with
  | funding n code =>
    rw [move]
    refine .bind (consents_resolve userId hproper) fun w => ?_
    exact .bind (consents_credit (Int.natCast_pos.2 hsized) _ _) fun _ => .pure _
  | conversion c =>
    rw [move]
    exact .map _ (consents_moveLegs userId hproper hsized _)
  | trade t =>
    rw [move]
    exact .map _ (consents_moveLegs userId hproper hsized _)

theorem Order.consents_carryOut {order : Order} (hproper : order.Proper) (hsized : order.Sized)
    (userId : Int) (o : Options) : (order.carryOut userId o).Consents Faulty := by
  have henter : order.enter.Consents Faulty := by
    cases order with
    | funding n code => exact .pure _
    | conversion c => exact consents_draw _
    | trade t => exact consents_draw _
  exact henter.bind fun sessionId =>
    consents_unitOfWork _ (consents_move hproper hsized userId sessionId)

/-! ### Calls -/

namespace Call

/-- The value that a call gives as an action, if it is a trade. -/
def action? : Call → Option Value
  | .trade _ _ _ _ _ action => some action
  | _ => none

/-- The ways in which an operation objects to the arguments of a call. -/
inductive Objects (c : Call) : Failure → Prop
  | amount : Objects c (.refusal .invalidAmount)
  | currency {e : LedgerError} (h : e.kind = .invalidCurrency) : Objects c (.ledger e)
  | same {e : LedgerError} (h : e.kind = .sameCurrency) : Objects c (.ledger e)
  | action {v : Value} (h : c.action? = some v) : Objects c (v.noChoice "TradeAction")

/-- The arguments of a call give nothing to object to. -/
inductive Passes : Call → Prop
  | fund {userId : Int} {amount currency : Value} {n : Nat} {code : String}
    (hn : Amount.ofValue amount = .ok n) (hcode : Currency.normalize currency = .ok code) :
    Passes (.fund userId amount currency)
  | convert {rates : Exchange.RateSource} {userId : Int} {source target amount : Value} {n : Nat}
    {a b : String} (hn : Amount.ofValue amount = .ok n) (ha : Currency.normalize source = .ok a)
    (hb : Currency.normalize target = .ok b) (hdistinct : a ≠ b) :
    Passes (.convert rates userId source target amount)
  | trade {rates : Exchange.RateSource} {userId : Int} {base quote amount action : Value}
    {n : Nat} {a b : String} {side : TradeAction} (hn : Amount.ofValue amount = .ok n)
    (ha : Currency.normalize base = .ok a) (hb : Currency.normalize quote = .ok b)
    (hside : TradeAction.ofValue action = .ok side) (hdistinct : a ≠ b) :
    Passes (.trade rates userId base quote amount action)

/-- The source of rates that a call asks answers with a failure. -/
def Unquoted (f : Failure) : Call → Prop
  | .fund .. => False
  | .convert rates .. => ∃ a b, rates a b = .error f
  | .trade rates .. => ∃ a b, rates a b = .error f

/-- Of the call an objection depends on the action alone. -/
theorem Objects.of_action? {c d : Call} {f : Failure} (hf : c.Objects f)
    (h : c.action? = d.action?) : d.Objects f := by
  cases hf with
  | amount => exact .amount
  | currency hkind => exact .currency hkind
  | same hkind => exact .same hkind
  | action hv => exact .action (h ▸ hv)

theorem objects_of_ofValue {c : Call} {v : Value} {e : LedgerError}
    (h : Amount.ofValue v = .error e) : c.Objects (.ledger e) := by
  unfold Amount.ofValue at h
  split at h
  · split_ifs at h
    cases h
    exact .amount
  · cases h
    exact .amount

theorem objects_of_choose {c : Call} {v : Value} {f : Failure} (hv : c.action? = some v)
    (h : TradeAction.ofValue v = .error f) : c.Objects f := by
  unfold TradeAction.ofValue Value.choose at h
  split at h
  · split at h
    · cases h
    · cases h
      exact .action hv
  · cases h
    exact .action hv

/-- A call passes the checks, or the first check that it does not pass objects to it. -/
theorem passes_or_objects (c : Call) : c.Passes ∨ ∃ f, c.order = .error f ∧ c.Objects f := by
  cases c with
  | fund userId amount currency =>
    rw [order]
    cases hn : Amount.ofValue amount with
    | error e => exact .inr ⟨_, rfl, objects_of_ofValue hn⟩
    | ok n =>
      cases hcode : Currency.normalize currency with
      | error e => exact .inr ⟨_, rfl, .currency (Currency.kind_of_normalize hcode)⟩
      | ok code => exact .inl (.fund hn hcode)
  | convert rates userId source target amount =>
    rw [order, Exchange.planConversion]
    cases hn : Amount.ofValue amount with
    | error e => exact .inr ⟨_, rfl, objects_of_ofValue hn⟩
    | ok n =>
      cases ha : Currency.normalize source with
      | error e => exact .inr ⟨_, rfl, .currency (Currency.kind_of_normalize ha)⟩
      | ok a =>
        cases hb : Currency.normalize target with
        | error e => exact .inr ⟨_, rfl, .currency (Currency.kind_of_normalize hb)⟩
        | ok b =>
          by_cases hsame : a = b
          · refine .inr ⟨.refusal .sameCurrency, ?_, .same rfl⟩
            show Order.conversion <$> (Exchange.requireDistinct a b >>= fun _ => _) = _
            rw [Exchange.requireDistinct, if_pos hsame]
            rfl
          · exact .inl (.convert hn ha hb hsame)
  | trade rates userId base quote amount action =>
    rw [order, Exchange.planTrade]
    cases hn : Amount.ofValue amount with
    | error e => exact .inr ⟨_, rfl, objects_of_ofValue hn⟩
    | ok n =>
      cases ha : Currency.normalize base with
      | error e => exact .inr ⟨_, rfl, .currency (Currency.kind_of_normalize ha)⟩
      | ok a =>
        cases hb : Currency.normalize quote with
        | error e => exact .inr ⟨_, rfl, .currency (Currency.kind_of_normalize hb)⟩
        | ok b =>
          cases hside : TradeAction.ofValue action with
          | error f => exact .inr ⟨f, rfl, objects_of_choose rfl hside⟩
          | ok side =>
            by_cases hsame : a = b
            · refine .inr ⟨.refusal .sameCurrency, ?_, .same rfl⟩
              show Order.trade <$> (Exchange.requireDistinct a b >>= fun _ => _) = _
              rw [Exchange.requireDistinct, if_pos hsame]
              rfl
            · exact .inl (.trade hn ha hb hside hsame)

/-- What is objected to in a call that passes may only be its pricing. -/
theorem Passes.unquoted_of_order {c : Call} (h : c.Passes) {f : Failure} (hf : c.order = .error f)
    (hobjects : f.isObjection = true) : c.Unquoted f := by
  cases h with
  | fund hn hcode =>
    rw [order, hn, hcode] at hf
    cases hf
  | @convert rates userId source target amount n a b hn ha hb hdistinct =>
    have hpriced : Exchange.Priced rates (Exchange.planConversion rates source target amount) := by
      rw [Exchange.planConversion, hn, ha, hb]
      show Exchange.Priced rates (Exchange.requireDistinct a b >>= fun _ => _)
      rw [Exchange.requireDistinct, if_neg hdistinct]
      exact (Exchange.priced_plan a b fun _ => .ok _).bind fun _ => .ok _
    exact hpriced f (map_eq_error.1 hf) hobjects
  | @trade rates userId base quote amount action n a b side hn ha hb hside hdistinct =>
    have hpriced : Exchange.Priced rates (Exchange.planTrade rates base quote amount action) := by
      rw [Exchange.planTrade, hn, ha, hb, hside]
      show Exchange.Priced rates (Exchange.requireDistinct a b >>= fun _ => _)
      rw [Exchange.requireDistinct, if_neg hdistinct]
      cases side with
      | buy => exact (Exchange.priced_plan b a (Amount.consents_cover n)).bind fun _ => .ok _
      | sell => exact (Exchange.priced_plan a b fun _ => .ok _).bind fun _ => .ok _
    exact hpriced f (map_eq_error.1 hf) hobjects

/-- In a call that passes, an objection is one of those that failures are told by. -/
theorem Passes.isObjection {c : Call} (h : c.Passes) {f : Failure} (hf : c.Objects f) :
    f.isObjection = true := by
  cases hf with
  | amount => rfl
  | currency h => simp [Failure.isObjection, h]
  | same h => simp [Failure.isObjection, h]
  | action hv =>
    cases h with
    | fund => cases hv
    | convert => cases hv
    | @trade _ _ _ _ _ _ _ _ _ side _ _ _ hside _ =>
      obtain rfl := TradeAction.ofValue_eq_ok.1 hside
      cases hv
      cases side <;> decide

/-- A call that passes raises no objection of its own. -/
theorem Passes.outside_of_run {c : Call} (h : c.Passes) {o : Options} {s t : Session} {f : Failure}
    (hrun : (c.run o).on s = (.error f, t)) (hf : c.Objects f) :
    c.Unquoted f ∨ ∃ st, s.faults st = some f := by
  have hobjects := h.isObjection hf
  rcases Call.on_run_eq_error.1 hrun with ⟨horder, -⟩ | ⟨order, horder, hcarry⟩
  · exact .inl (h.unquoted_of_order horder hobjects)
  · have hconsents := Order.consents_carryOut (Call.proper_order horder) (Call.sized_order horder)
      c.userId o s
    rw [hcarry] at hconsents
    exact .inr (hconsents.2 f rfl hobjects)

end Call

end Operation

end CurrencyLedger
