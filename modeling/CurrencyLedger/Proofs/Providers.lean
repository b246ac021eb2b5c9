import CurrencyLedger.Proofs.Ranges
import CurrencyLedger.Rate.Provider

/-!
What providers answer.

Whatever a table was made from, its rates are finite and above zero, so a rate that it quotes is a
quotient of positive numbers: it is positive, unless it lies outside of what decimals reach. An
online provider that has no table asks for one at most once; what comes of it is told by the reply
alone, and only a table is stored. So a provider either answers with a positive rate or refuses, as
long as decimals reach the quotient and the reply, if it is a document, has the parts that are asked
of it and is not nested too deep. If it refuses, the rates that were cached are as they were; where
there were none, new ones may be there that lack the pair. Other replies make failures of their own
kinds, and a quotient out of reach is zero or a fault of the arithmetic.
-/

namespace CurrencyLedger

/-- What is there already is handed over. -/
theorem Action.lift_ok_bind {σ : Type} (x : α) (f : α → Action σ β) :
    (Action.lift (.ok x) >>= f) = f x := rfl

/-- What is set is the new field, or was there before. -/
theorem Fields.mem_set {name : String} {v : α} {fs : List (String × α)} {f : String × α}
    (h : f ∈ Fields.set name v fs) : f = (name, v) ∨ f ∈ fs := by
  induction fs with
  | nil => exact .inl (List.mem_singleton.1 h)
  | cons g fs ih =>
    obtain ⟨k, w⟩ := g
    rw [Fields.set] at h
    split_ifs at h with hk
    · subst hk
      rcases List.mem_cons.1 h with h | h
      · exact .inl h
      · exact .inr (List.mem_cons_of_mem _ h)
    · rcases List.mem_cons.1 h with h | h
      · exact .inr (h ▸ .head _)
      · exact (ih h).imp_right (List.mem_cons_of_mem _)

/-- What is read of a cache is an entry that has not expired. -/
theorem Cache.get_eq_some [TimeScale τ] {c : Cache τ α} {now : τ} {key : String} {v : α}
    (h : (c.get now key).1 = some v) : ∃ entry, c.entries.lookup key = some entry ∧
      entry.value = v ∧ TimeScale.isLess entry.expires now = false ∧ (c.get now key).2 = c := by
  cases hentry : c.entries.lookup key with
  | none =>
    rw [get, hentry] at h
    cases h
  | some entry =>
    rw [get, hentry] at h ⊢
    dsimp only at h ⊢
    split_ifs at h ⊢ with hpast
    cases h
    exact ⟨entry, rfl, rfl, Bool.eq_false_of_not_eq_true hpast, rfl⟩

namespace Rate

/-! ### Tables -/

namespace Table

variable {table : Table}

theorem Positive.set (h : table.Positive) {d : Decimal} (hd : d.isPositive = true)
    (code : String) : Positive (Fields.set code d table) := by
  intro entry hentry
  rcases Fields.mem_set hentry with rfl | hentry
  · exact hd
  · exact h entry hentry

/-- The dollar at one is no exception. -/
theorem Positive.withDollar (h : table.Positive) : table.withDollar.Positive := by
  rw [Table.withDollar, Fields.setDefault]
  split_ifs
  · exact h
  · intro entry hentry
    rcases List.mem_append.1 hentry with hentry | hentry
    · exact h entry hentry
    · rw [List.mem_singleton.1 hentry]
      decide

theorem exists_lookup_withDollar (table : Table) :
    ∃ d, table.withDollar.lookup dollar = some d := by
  rw [Table.withDollar, Fields.setDefault]
  split_ifs with h
  · exact Option.isSome_iff_exists.1 h
  · refine ⟨.one, ?_⟩
    have hnone : table.lookup dollar = none := Option.not_isSome_iff_eq_none.1 h
    rw [List.lookup_append, hnone]
    rfl

theorem Positive.put (h : table.Positive) (code : String) (rate : Value) :
    (table.put code rate).Positive := by
  rw [Table.put]
  split
  · rename_i d hd
    rw [usable?] at hd
    split at hd
    · split_ifs at hd with hpositive
      cases hd
      split_ifs
      · exact h
      · exact h.set hpositive code
    · cases hd
  · exact h

theorem positive_nil : Positive [] := fun _ h => absurd h List.not_mem_nil

/-- The tables of configured texts are positive, whatever the text. -/
theorem positive_ofConfiguration {s : String} (h : ofConfiguration s = .ok table) :
    table.Positive := by
  obtain ⟨pairs, -, h⟩ := bind_eq_ok.1 h
  cases h
  exact List.foldlRecOn pairs _ positive_nil fun t ht p _ => ht.put _ _

/-- So are those in a service's answers. -/
theorem positive_ofPayload {payload : Value} (h : ofPayload payload = .ok table) :
    table.Positive := by
  obtain ⟨top, -, h⟩ := bind_eq_ok.1 h
  obtain ⟨data, -, h⟩ := bind_eq_ok.1 h
  cases h
  refine List.foldlRecOn data _ positive_nil fun t ht f _ => ?_
  split
  · split_ifs with hpositive
    · exact ht.set hpositive _
    · exact ht
  · exact ht

/-- A table that a provider may price from: positive, with a price for the dollar. -/
structure Sound (table : Table) : Prop where
  positive : table.Positive
  dollar : ∃ d, table.lookup dollar = some d

theorem Sound.ne_nil (h : table.Sound) : table ≠ [] := by
  rintro rfl
  obtain ⟨d, hd⟩ := h.dollar
  cases hd

theorem Positive.sound (h : table.Positive) : table.withDollar.Sound :=
  ⟨h.withDollar, exists_lookup_withDollar table⟩

/-- The exact rate between two currencies, nothing where the table has no price. -/
def exactRate (table : Table) (base target : String) : ℚ := table.units target / table.units base

/-- Whether decimals reach as far as the exact rate, if there is one. -/
def Reaches (table : Table) (base target : String) : Prop :=
  0 < table.exactRate base target → 10 ^ Decimal.tinyExponent ≤ table.exactRate base target ∧
    table.exactRate base target < 10 ^ Decimal.maxExponent

/-- What a table answers for a pair. -/
inductive Quoted (table : Table) (base target : String) : Except Failure Decimal → Prop
  | rate {d : Decimal} (h : d.isPositive = true) : Quoted table base target (.ok d)
  | unpriced (h : table.lookup base = none ∨ table.lookup target = none) :
    Quoted table base target (.error (.ledger (noRate base target)))
  | vanished {e : Int} (h : ¬table.Reaches base target) :
    Quoted table base target (.ok (.finite false 0 e))
  | beyond (h : ¬table.Reaches base target) :
    Quoted table base target (.error (.arithmetic .overflow))

theorem quoted (h : table.Positive) (base target : String) :
    Quoted table base target (table.quote base target) := by
  cases hb : table.lookup base with
  | none =>
    rw [quote, hb]
    exact .unpriced (.inl hb)
  | some b =>
    cases ht : table.lookup target with
    | none =>
      rw [quote, hb, ht]
      exact .unpriced (.inr ht)
    | some t =>
      have hb' := h.lookup hb
      have ht' := h.lookup ht
      rw [quote_of_lookup hb ht hb' ht']
      have hreached := Decimal.reached_div ht' hb'
      have hexact : t.value / b.value = table.exactRate base target := by
        rw [exactRate, units, units, hb, ht]
        rfl
      have hpos : 0 < table.exactRate base target :=
        hexact ▸ div_pos (Decimal.value_pos ht') (Decimal.value_pos hb')
      rw [hexact] at hreached
      cases hdiv : t.div b with
      | ok d =>
        rw [hdiv] at hreached
        cases hreached with
        | within hd => exact .rate hd
        | vanished hx => exact .vanished fun h => absurd (h hpos).1 (not_le_of_gt hx)
      | error s =>
        rw [hdiv] at hreached
        cases hreached with
        | beyond hx => exact .beyond fun h => absurd (h hpos).2 (not_lt_of_ge hx)

end Table

/-! ### Replies -/

/-- Whether a value has named parts, or counts as nothing and so has none. -/
def hasFields : Value → Bool
  | .object _ => true
  | v => !v.given

/-- Whether a document has the parts that are asked of it. -/
structure Shaped (payload : Value) : Prop where
  top : hasFields payload = true
  data : hasFields ((payload.field? "data").getD .null) = true

instance : DecidablePred Shaped := fun payload =>
  decidable_of_iff (hasFields payload = true ∧
    hasFields ((payload.field? "data").getD .null) = true)
    ⟨fun h => ⟨h.1, h.2⟩, fun h => ⟨h.1, h.2⟩⟩

theorem givenFields_of_hasFields {v : Value} (h : hasFields v = true) : ∃ fields,
    Table.givenFields v = .ok fields ∧ ∀ name, fields.lookup name = v.field? name := by
  unfold Table.givenFields
  cases v with
  | object fields =>
    refine ⟨fields, ?_, fun _ => rfl⟩
    cases fields <;> rfl
  | _ => exact ⟨[], if_neg (by simpa [hasFields] using h), fun _ => rfl⟩

theorem givenFields_of_not_hasFields {v : Value} (h : hasFields v = false) :
    Table.givenFields v = .error .noSuchPart := by
  unfold Table.givenFields
  cases v with
  | object fields => cases h
  | _ => exact if_pos (by simpa [hasFields] using h)

/-- A document of the shape has a table; one of another shape is a failure. -/
theorem ofPayload_cases (payload : Value) :
    (Shaped payload ∧ ∃ table, Table.ofPayload payload = .ok table) ∨
      (¬Shaped payload ∧ Table.ofPayload payload = .error .noSuchPart) := by
  by_cases htop : hasFields payload = true
  · obtain ⟨top, htopFields, hlookup⟩ := givenFields_of_hasFields htop
    by_cases hdata : hasFields ((payload.field? "data").getD .null) = true
    · obtain ⟨data, hdataFields, -⟩ := givenFields_of_hasFields hdata
      refine .inl ⟨⟨htop, hdata⟩, ?_⟩
      rw [Table.ofPayload, htopFields]
      show ∃ table, (Table.givenFields ((top.lookup "data").getD .null) >>= _) = .ok table
      rw [hlookup, hdataFields]
      exact ⟨_, rfl⟩
    · refine .inr ⟨fun h => hdata h.data, ?_⟩
      rw [Table.ofPayload, htopFields]
      show (Table.givenFields ((top.lookup "data").getD .null) >>= _) = _
      rw [hlookup, givenFields_of_not_hasFields (Bool.eq_false_of_not_eq_true hdata)]
      rfl
  · refine .inr ⟨fun h => htop h.top, ?_⟩
    rw [Table.ofPayload, givenFields_of_not_hasFields (Bool.eq_false_of_not_eq_true htop)]
    rfl

/-! ### Asking the service -/

variable {τ : Type} {m : Market τ}

/-- The document in a reply to a request for an address. -/
def Reply.document (address : Network.RequestAddress) : Reply → Except Failure Value
  | .unreachable => .error (.ledger serviceError)
  | .answered status body =>
    if address.isFull && isSuccess status then
      match Json.readBytes body with
      | .ok payload => .ok payload
      | .error .tooDeep => .error .tooDeep
      | .error _ => .error (.ledger serviceError)
    else .error (.ledger serviceError)

/-- The table in a document, if it has any rates. -/
def Table.ofReply (payload : Value) : Except Failure Table := do
  match ← Table.ofPayload payload with
  | [] => .error (.ledger unavailable)
  | table => return table.withDollar

/-- The cached table, if there is one, is sound. -/
def Market.Sound (m : Market τ) : Prop :=
  ∀ entry, m.cache.entries.lookup cacheKey = some entry → entry.value.Sound

namespace Online

/-- The address and the key of a request, if both can be written. -/
def request (service : Online) : Except Failure (Network.RequestAddress × String) := do
  let address ← Network.RequestAddress.read service.url
  let key ← service.keyHeader
  return (address, key)

/-- The connection that is opened for a request, if one is. -/
def opening (service : Online) : List Contact :=
  if service.opensConnection then [.opened service.timeout] else []

/-- The request that is made, if it can be written. -/
def asking (service : Online) : List Contact :=
  match service.request with
  | .ok (address, key) => [.asked address.text key acceptedType]
  | .error _ => []

/-- The table that comes of a reply. -/
def received (service : Online) (reply : Reply) : Except Failure Table := do
  let (address, _) ← service.request
  let payload ← reply.document address
  Table.ofReply payload

/-- Of any reply comes a sound table, if one comes. -/
theorem sound_of_received {service : Online} {reply : Reply} {table : Table}
    (h : service.received reply = .ok table) : table.Sound := by
  obtain ⟨_, -, h⟩ := bind_eq_ok.1 h
  obtain ⟨payload, -, h⟩ := bind_eq_ok.1 h
  obtain ⟨read, hread, h⟩ := bind_eq_ok.1 h
  have hpositive := Table.positive_ofPayload hread
  cases read with
  | nil => cases h
  | cons e es =>
    cases h
    exact hpositive.sound

/-- Makes the request and reads what is replied. -/
def ask (service : Online) : Action (Market τ) Value := do
  let (address, key) ← .lift service.request
  Market.note (.asked address.text key acceptedType)
  let reply ← Market.nextReply
  .lift (reply.document address)

/-- Asks for a new table, and stores it. -/
def renew [TimeScale τ] (service : Online) : Action (Market τ) Table := do
  let payload ← service.fetch
  let table ← .lift (Table.ofReply payload)
  service.store table
  return table

variable (service : Online)

theorem fetch_eq : (service.fetch : Action (Market τ) Value) = (do
    if service.opensConnection then Market.note (.opened service.timeout)
    service.ask) := by
  have hask : (do
      let address ← Action.lift (Network.RequestAddress.read service.url)
      let key ← Action.lift service.keyHeader
      Market.note (.asked address.text key acceptedType)
      let reply ← Market.nextReply
      match reply with
      | .unreachable => .fail (.ledger serviceError)
      | .answered status body =>
        if address.isFull && isSuccess status then
          match Json.readBytes body with
          | .ok payload => return payload
          | .error .tooDeep => .fail .tooDeep
          | .error _ => .fail (.ledger serviceError)
        else .fail (.ledger serviceError) : Action (Market τ) Value) = service.ask := by
    cases hread : Network.RequestAddress.read service.url with
    | error f =>
      rw [ask, request, hread]
      rfl
    | ok address =>
      cases hkey : service.keyHeader with
      | error f =>
        rw [ask, request, hread, hkey]
        rfl
      | ok key =>
        have hrequest : service.request = .ok (address, key) := by
          rw [request, hread, hkey]
          rfl
        rw [ask, hrequest]
        simp only [Action.lift_ok_bind]
        refine bind_congr fun _ => bind_congr fun reply => ?_
        cases reply with
        | unreachable => rfl
        | answered status body =>
          dsimp only [Reply.document]
          split_ifs
          · split <;> rfl
          · rfl
  rw [← hask]
  rfl

/-- Nothing but contacts and replies is changed by asking; the reply tells what comes of it. -/
theorem on_fetch {reply : Reply} {rest : List Reply} (h : m.replies = reply :: rest) :
    ∃ replies, service.fetch.on m = (service.request >>= fun p => reply.document p.1,
      { m with contacts := m.contacts ++ (service.opening ++ service.asking), replies }) := by
  have hask (u : Market τ) (hu : u.replies = reply :: rest) :
      ∃ replies, service.ask.on u = (service.request >>= fun p => reply.document p.1,
        { u with contacts := u.contacts ++ service.asking, replies }) := by
    rw [ask, asking]
    cases service.request with
    | error f =>
      refine ⟨u.replies, ?_⟩
      rw [List.append_nil]
      rfl
    | ok p =>
      refine ⟨rest, ?_⟩
      have hnext (v : Market τ) (hv : v.replies = reply :: rest) :
          Market.nextReply.on v = (.ok reply, { v with replies := rest }) := by
        rw [Market.nextReply, Action.on_of, hv]
      refine Eq.trans ?_ (Action.on_bind_of_ok (fun r => .lift (r.document p.1)) (hnext
        { u with contacts := u.contacts ++ [.asked p.1.text p.2 acceptedType] } hu))
      rfl
  rw [fetch_eq, opening]
  cases service.opensConnection with
  | false => exact hask m h
  | true =>
    obtain ⟨replies, hreplies⟩ :=
      hask { m with contacts := m.contacts ++ [.opened service.timeout] } h
    refine ⟨replies, Eq.trans ?_ (hreplies.trans ?_)⟩
    · rfl
    · rw [List.append_assoc]
      rfl

variable [TimeScale τ]

/-- The cache once a reply has been taken in: a table is stored, a failure is not. -/
def kept (m : Market τ) (lifetime : τ) : Except Failure Table → Cache τ Table
  | .ok table => m.cache.set m.now cacheKey table lifetime
  | .error _ => m.cache

/-- Asking for a new table comes to what is received, which is stored if it is a table. -/
theorem on_renew {reply : Reply} {rest : List Reply} (h : m.replies = reply :: rest) {lifetime : τ}
    (hlifetime : TimeScale.lifetime service.cacheSeconds = .ok lifetime) :
    ∃ replies, service.renew.on m = (service.received reply,
      { m with
        cache := kept m lifetime (service.received reply)
        contacts := m.contacts ++ (service.opening ++ service.asking)
        replies }) := by
  obtain ⟨replies, hfetch⟩ := on_fetch service h
  refine ⟨replies, ?_⟩
  have hreceived : service.received reply =
      (service.request >>= fun p => reply.document p.1) >>= Table.ofReply := by
    rw [received, bind_assoc]
  rw [renew, Action.on_bind, hfetch, hreceived]
  cases service.request >>= fun p => reply.document p.1 with
  | error f => rfl
  | ok payload =>
    have hread : (Except.ok payload >>= Table.ofReply) = Table.ofReply payload := rfl
    rw [hread]
    show ((Action.lift (Table.ofReply payload) >>= _ : Action (Market τ) Table)).on _ = _
    rw [Action.on_bind, Action.on_lift]
    cases Table.ofReply payload with
    | error f => rfl
    | ok table =>
      show ((service.store table >>= _ : Action (Market τ) Table)).on _ = _
      rw [store, hlifetime]
      rfl

/-- The surroundings after a look into the cache, which removes what has expired. -/
def looked (m : Market τ) : Market τ := { m with cache := (m.cache.get m.now cacheKey).2 }

/-- What is left to do where no table is cached. -/
def renewed (service : Online) : Action (Market τ) Table :=
  if !service.apiKey.given then .fail (.ledger unavailable) else service.renew

theorem table_eq : (service.table : Action (Market τ) Table) = (do
    match ← Market.cachedTable with
    | some (e :: es) => return e :: es
    | _ => service.renewed) := by
  rw [table]
  refine bind_congr fun found => ?_
  have hrenewed : (if !service.apiKey.given then .fail (.ledger unavailable)
      else do
        let payload ← service.fetch
        match ← Action.lift (Table.ofPayload payload) with
        | [] => .fail (.ledger unavailable)
        | table =>
          service.store table.withDollar
          return table.withDollar : Action (Market τ) Table) = service.renewed := by
    rw [renewed, renew]
    split_ifs
    · rfl
    · refine bind_congr fun payload => ?_
      rw [Table.ofReply]
      cases Table.ofPayload payload with
      | error f => rfl
      | ok t => cases t <;> rfl
  cases found with
  | none => exact hrenewed
  | some cached =>
    cases cached with
    | nil => exact hrenewed
    | cons e es => rfl

theorem on_table_of_cached {cached : Table} (hne : cached ≠ [])
    (h : (m.cache.get m.now cacheKey).1 = some cached) :
    service.table.on m = (.ok cached, looked m) := by
  have hfound : Market.cachedTable.on m = (.ok (some cached), looked m) := by
    rw [Market.cachedTable, Action.on_of, ← h]
    rfl
  rw [table_eq, Action.on_bind_of_ok _ hfound]
  cases cached with
  | nil => exact absurd rfl hne
  | cons e es => rfl

theorem on_table_of_missing (h : (m.cache.get m.now cacheKey).1 = none) :
    service.table.on m = service.renewed.on (looked m) := by
  have hfound : Market.cachedTable.on m = (.ok none, looked m) := by
    rw [Market.cachedTable, Action.on_of, ← h]
    rfl
  rw [table_eq, Action.on_bind_of_ok _ hfound]

/-- How a service comes by its table: it is cached, or asked for, or cannot be asked for. -/
inductive Tabled (service : Online) (m : Market τ) (reply : Reply) (lifetime : τ) :
    Except Failure Table × Market τ → Prop
  | cached {entry : Cache.Entry τ Table} (h : m.cache.entries.lookup cacheKey = some entry)
    (hlives : TimeScale.isLess entry.expires m.now = false) :
    Tabled service m reply lifetime (.ok entry.value, m)
  | asked {replies : List Reply} (hkey : service.apiKey.given = true)
    (h : (m.cache.get m.now cacheKey).1 = none) :
    Tabled service m reply lifetime (service.received reply, { looked m with
      cache := kept (looked m) lifetime (service.received reply)
      contacts := m.contacts ++ (service.opening ++ service.asking)
      replies })
  | keyless (hkey : service.apiKey.given = false)
    (h : (m.cache.get m.now cacheKey).1 = none) :
    Tabled service m reply lifetime (.error (.ledger unavailable), looked m)

theorem tabled {lifetime : τ} (hlifetime : TimeScale.lifetime service.cacheSeconds = .ok lifetime)
    (hm : m.Sound) {reply : Reply} {rest : List Reply} (h : m.replies = reply :: rest) :
    service.Tabled m reply lifetime (service.table.on m) := by
  cases hget : (m.cache.get m.now cacheKey).1 with
  | some cached =>
    obtain ⟨entry, hentry, rfl, hlives, hcache⟩ := Cache.get_eq_some hget
    have hsame : looked m = m := by rw [looked, hcache]
    rw [on_table_of_cached service (hm entry hentry).ne_nil hget, hsame]
    exact .cached hentry hlives
  | none =>
    rw [on_table_of_missing service hget]
    cases hkey : service.apiKey.given with
    | false =>
      rw [renewed, if_pos (by rw [hkey]; rfl)]
      exact .keyless hkey hget
    | true =>
      obtain ⟨replies, hrenew⟩ := on_renew service (m := looked m) h hlifetime
      rw [renewed, if_neg (by rw [hkey]; decide), hrenew]
      exact .asked hkey hget

end Online

/-! ### What a provider promises -/

/-- A reply that is read as far as its document. -/
def Reply.body? : Reply → Option String
  | .unreachable => none
  | .answered status body => if isSuccess status then some body else none

/-- Whether a body is no document, or one with the parts that are asked of it, not too deep. -/
def IsRegular : Except Json.Fault Value → Prop
  | .ok payload => Shaped payload
  | .error fault => fault ≠ .tooDeep

instance : DecidablePred IsRegular
  | .ok payload => inferInstanceAs (Decidable (Shaped payload))
  | .error fault => inferInstanceAs (Decidable (fault ≠ .tooDeep))

/-- A reply whose body, if it is read at all, is regular. -/
def Reply.Regular (reply : Reply) : Prop :=
  ∀ body ∈ reply.body?, IsRegular (Json.readBytes body)

instance : DecidablePred Reply.Regular := fun reply =>
  inferInstanceAs (Decidable (∀ body ∈ reply.body?, IsRegular (Json.readBytes body)))

/-- A reply with a body that cannot be taken for a table, and the failure that comes of it. -/
inductive Reply.Baffles (reply : Reply) : Failure → Prop
  | tooDeep {body : String} (hbody : body ∈ reply.body?)
    (hread : Json.readBytes body = .error .tooDeep) : Baffles reply .tooDeep
  /-- A document of another shape, such as a list. -/
  | misshapen {body : String} {payload : Value} (hbody : body ∈ reply.body?)
    (hread : Json.readBytes body = .ok payload) (h : ¬Shaped payload) : Baffles reply .noSuchPart

/-- A regular reply baffles nobody. -/
theorem Reply.Regular.not_baffles {reply : Reply} (h : reply.Regular) {f : Failure} :
    ¬reply.Baffles f := by
  intro hbaffles
  cases hbaffles with
  | tooDeep hbody hread =>
    have hregular := h _ hbody
    rw [hread] at hregular
    exact hregular rfl
  | misshapen hbody hread hshape =>
    have hregular := h _ hbody
    rw [hread] at hregular
    exact hshape hregular

/-- A refusal of a rate, whatever it says. -/
def IsUnavailable (f : Failure) : Prop :=
  ∃ e : LedgerError, f = .ledger e ∧ e.kind = .rateUnavailable

/--
A service that can be asked and whose tables can be kept: its address can be read, its key is a text
if it has one, and its lifetime is a number of the clock's.
-/
structure Online.Configured (τ : Type) [TimeScale τ] (service : Online) : Prop where
  address : ∃ a, Network.RequestAddress.read service.url = .ok a
  key : service.apiKey.given = true → service.apiKey.isText = true
  lifetime : ∃ t : τ, TimeScale.lifetime service.cacheSeconds = .ok t

theorem Online.request_cases [TimeScale τ] {service : Online} (h : service.Configured τ) :
    (∃ f, service.request = .error f ∧ IsUnavailable f) ∨ ∃ p, service.request = .ok p := by
  obtain ⟨address, haddress⟩ := h.address
  rw [request, haddress]
  have hkey : (∃ f, service.keyHeader = .error f ∧ IsUnavailable f) ∨
      ∃ key, service.keyHeader = .ok key := by
    have hrefused : IsUnavailable (.ledger serviceError) := ⟨serviceError, rfl, rfl⟩
    rw [keyHeader]
    by_cases hgiven : service.apiKey.given = true
    · rw [if_neg (by rw [hgiven]; decide)]
      have htext := h.key hgiven
      cases hkind : service.apiKey with
      | text s =>
        dsimp only
        split_ifs
        · exact .inr ⟨s, rfl⟩
        · exact .inl ⟨_, rfl, hrefused⟩
      | illFormed codes => exact .inl ⟨_, rfl, hrefused⟩
      | _ =>
        rw [hkind] at htext
        cases htext
    · exact .inr ⟨"", if_pos (by rw [Bool.eq_false_of_not_eq_true hgiven]; rfl)⟩
  rcases hkey with ⟨f, hf, hrefused⟩ | ⟨key, hkey⟩
  · exact .inl ⟨f, by rw [hf]; rfl, hrefused⟩
  · exact .inr ⟨(address, key), by rw [hkey]; rfl⟩

/-- A reply is read as a document, is refused, or baffles. -/
theorem Reply.document_cases (reply : Reply) (address : Network.RequestAddress) :
    (∃ f, reply.document address = .error f ∧ (IsUnavailable f ∨ reply.Baffles f)) ∨
      ∃ body ∈ reply.body?, ∃ payload, reply.document address = .ok payload ∧
        Json.readBytes body = .ok payload := by
  have hrefused : IsUnavailable (.ledger serviceError) := ⟨serviceError, rfl, rfl⟩
  cases reply with
  | unreachable => exact .inl ⟨_, rfl, .inl hrefused⟩
  | answered status body =>
    rw [document]
    split_ifs with hread
    · have hbody : body ∈ (Reply.answered status body).body? :=
        if_pos (Bool.and_eq_true_iff.1 hread).2
      cases hjson : Json.readBytes body with
      | ok payload => exact .inr ⟨body, hbody, payload, rfl, hjson⟩
      | error fault =>
        cases fault with
        | tooDeep => exact .inl ⟨_, rfl, .inr (.tooDeep hbody hjson)⟩
        | _ => exact .inl ⟨_, rfl, .inl hrefused⟩
    · exact .inl ⟨_, rfl, .inl hrefused⟩

/-- A document has a table, or no rates, or another shape. -/
theorem Table.ofReply_cases (payload : Value) :
    (∃ f, Table.ofReply payload = .error f ∧ (IsUnavailable f ∨ f = .noSuchPart ∧ ¬Shaped payload))
      ∨ ∃ table, Table.ofReply payload = .ok table := by
  rcases ofPayload_cases payload with ⟨-, table, htable⟩ | ⟨hnot, hfailed⟩
  · rw [Table.ofReply, htable]
    cases table with
    | nil => exact .inl ⟨_, rfl, .inl ⟨unavailable, rfl, rfl⟩⟩
    | cons e es => exact .inr ⟨_, rfl⟩
  · exact .inl ⟨_, by rw [Table.ofReply, hfailed]; rfl, .inr ⟨rfl, hnot⟩⟩

/-- Of a reply comes a table or a refusal, or it baffles. -/
theorem Online.received_cases [TimeScale τ] {service : Online} (hservice : service.Configured τ)
    (reply : Reply) :
    (∃ f, service.received reply = .error f ∧ (IsUnavailable f ∨ reply.Baffles f)) ∨
      ∃ table, service.received reply = .ok table := by
  rcases request_cases hservice with ⟨f, hf, hrefused⟩ | ⟨⟨address, key⟩, hrequest⟩
  · exact .inl ⟨f, by rw [received, hf]; rfl, .inl hrefused⟩
  rw [received, hrequest]
  rcases reply.document_cases address with
    ⟨f, hf, hfailed⟩ | ⟨body, hbody, payload, hpayload, hread⟩
  · exact .inl ⟨f, by simp only [bind, Except.bind, hf], hfailed⟩
  rcases Table.ofReply_cases payload with ⟨f, hf, hfailed⟩ | ⟨table, htable⟩
  · refine .inl ⟨f, by simp only [bind, Except.bind, hpayload, hf], ?_⟩
    rcases hfailed with hrefused | ⟨rfl, hshape⟩
    · exact .inl hrefused
    · exact .inr (.misshapen hbody hread hshape)
  · exact .inr ⟨table, by simp only [bind, Except.bind, hpayload, htable]⟩

variable [TimeScale τ]

/-- The cache after a look for the table: it is as it was, or the expired table is gone. -/
inductive Market.Swept (m : Market τ) : Cache τ Table → Prop
  | same : Swept m m.cache
  | expired {entry : Cache.Entry τ Table} (h : m.cache.entries.lookup cacheKey = some entry)
    (hpast : TimeScale.isLess entry.expires m.now = true) :
    Swept m ⟨Fields.erase cacheKey m.cache.entries⟩

theorem Market.swept_looked (m : Market τ) : m.Swept (Online.looked m).cache := by
  rw [Online.looked, Cache.get]
  split
  · exact .same
  · rename_i entry hentry
    split_ifs with hpast
    · exact .expired hentry hpast
    · exact .same

/-- A provider that is configured, and served with a reply if it asks. -/
inductive Provider.Served (m : Market τ) (reply : Reply) : Provider → Prop
  | fixed {s : String} {table : Table} (h : Table.ofConfiguration s = .ok table) :
    Served m reply (.fixed table.withDollar)
  | online {service : Online} {rest : List Reply} (hservice : service.Configured τ)
    (hmarket : m.Sound) (hreplies : m.replies = reply :: rest) (hreply : reply.Regular) :
    Served m reply (.online service)

/-- A provider that is configured, and served with any reply at all if it asks. -/
inductive Provider.Supplied (m : Market τ) (reply : Reply) : Provider → Prop
  | fixed {s : String} {table : Table} (h : Table.ofConfiguration s = .ok table) :
    Supplied m reply (.fixed table.withDollar)
  | online {service : Online} {rest : List Reply} (hservice : service.Configured τ)
    (hmarket : m.Sound) (hreplies : m.replies = reply :: rest) : Supplied m reply (.online service)

theorem Provider.Served.supplied {p : Provider} {reply : Reply} (h : p.Served m reply) :
    p.Supplied m reply := by
  cases h with
  | fixed h => exact .fixed h
  | online hservice hmarket hreplies _ => exact .online hservice hmarket hreplies

/-- How a provider comes by a table, or by none. -/
inductive Provider.Priced (p : Provider) (m : Market τ) (reply : Reply) :
    Except Failure Table × Market τ → Prop
  | old {table : Table} {m' : Market τ} (h : table.Sound) (hcache : m.Swept m'.cache) :
    Priced p m reply (.ok table, m')
  | new {service : Online} {lifetime : τ} {table : Table} {m' : Market τ}
    (hp : p = .online service) (h : service.received reply = .ok table)
    (hlifetime : TimeScale.lifetime service.cacheSeconds = .ok lifetime)
    (hcache : m'.cache = (Online.looked m).cache.set m.now cacheKey table lifetime) :
    Priced p m reply (.ok table, m')
  | refused {f : Failure} {m' : Market τ} (h : IsUnavailable f) (hcache : m.Swept m'.cache) :
    Priced p m reply (.error f, m')
  | baffled {service : Online} {f : Failure} {m' : Market τ} (hp : p = .online service)
    (h : reply.Baffles f) (hcache : m.Swept m'.cache) : Priced p m reply (.error f, m')

/-- What a provider answers for two codes. -/
inductive Provider.Answered (p : Provider) (m : Market τ) (reply : Reply) (base target : String) :
    Except Failure Decimal × Market τ → Prop
  | rate {d : Decimal} {m' : Market τ} (h : d.isPositive = true) :
    Answered p m reply base target (.ok d, m')
  | refused {f : Failure} {m' : Market τ} (h : IsUnavailable f) (hcache : m.Swept m'.cache) :
    Answered p m reply base target (.error f, m')
  /-- A table that has just been received stays stored, though it does not price the pair. -/
  | unpriced {service : Online} {lifetime : τ} {table : Table} {m' : Market τ}
    (hp : p = .online service) (h : service.received reply = .ok table)
    (hlifetime : TimeScale.lifetime service.cacheSeconds = .ok lifetime)
    (hcache : m'.cache = (Online.looked m).cache.set m.now cacheKey table lifetime)
    (hpair : table.lookup base = none ∨ table.lookup target = none) :
    Answered p m reply base target (.error (.ledger (noRate base target)), m')

/--
What comes of asking a provider for two codes, whatever the reply is and however far the quotient
lies.
-/
inductive Provider.Settled (p : Provider) (m : Market τ) (reply : Reply) (base target : String) :
    Except Failure Decimal × Market τ → Prop
  | answered {outcome : Except Failure Decimal × Market τ}
    (h : p.Answered m reply base target outcome) : Settled p m reply base target outcome
  /-- No table is made of the reply, and none is stored. -/
  | baffled {service : Online} {f : Failure} {m' : Market τ} (hp : p = .online service)
    (h : reply.Baffles f) (hcache : m.Swept m'.cache) : Settled p m reply base target (.error f, m')
  /-- A quotient too close to zero is zero. -/
  | vanished {table : Table} {m' : Market τ} {e : Int} (htable : p.table.on m = (.ok table, m'))
    (h : ¬table.Reaches base target) : Settled p m reply base target (.ok (.finite false 0 e), m')
  /-- A quotient too large is a fault of the arithmetic. -/
  | beyond {table : Table} {m' : Market τ} (htable : p.table.on m = (.ok table, m'))
    (h : ¬table.Reaches base target) :
    Settled p m reply base target (.error (.arithmetic .overflow), m')

namespace Provider

variable {p : Provider} {reply : Reply}

theorem priced (hp : p.Supplied m reply) : p.Priced m reply (p.table.on m) := by
  cases hp with
  | fixed h => exact .old (Table.positive_ofConfiguration h).sound .same
  | @online service rest hservice hmarket hreplies =>
    show Priced _ m reply (service.table.on m)
    obtain ⟨lifetime, hlifetime⟩ := hservice.lifetime
    have htabled := service.tabled hlifetime hmarket hreplies
    generalize service.table.on m = outcome at htabled
    cases htabled with
    | cached hentry _ => exact .old (hmarket _ hentry) .same
    | keyless _ _ => exact .refused ⟨unavailable, rfl, rfl⟩ m.swept_looked
    | asked _ _ =>
      rcases Online.received_cases hservice reply with
        ⟨f, hf, hrefused | hbaffles⟩ | ⟨table, htable⟩
      · rw [hf]
        exact .refused hrefused m.swept_looked
      · rw [hf]
        exact .baffled rfl hbaffles m.swept_looked
      · rw [htable]
        exact .new rfl htable hlifetime rfl

theorem on_rate_of_eq {base target : Value}
    (h : Currency.spelling base = Currency.spelling target) :
    (p.rate base target).on m = (.ok .one, m) := by
  rw [rate, if_pos h, Action.on_pure]

theorem on_rate_of_ne {base target : Value}
    (h : Currency.spelling base ≠ Currency.spelling target) :
    (p.rate base target).on m =
      ((p.table.on m).1 >>= fun t => t.quote (Currency.spelling base) (Currency.spelling target),
        (p.table.on m).2) := by
  rw [rate, if_neg h, Action.on_bind]
  rcases p.table.on m with ⟨outcome, m'⟩
  cases outcome <;> rfl

/-- A provider that has a table answers what the table quotes. -/
theorem settled_quote {table : Table} {m' : Market τ} {base target : String}
    (htable : p.table.on m = (.ok table, m')) (h : table.Positive)
    (hunpriced : table.lookup base = none ∨ table.lookup target = none →
      p.Answered m reply base target (.error (.ledger (noRate base target)), m')) :
    p.Settled m reply base target (table.quote base target, m') := by
  have hquoted := Table.quoted h base target
  generalize table.quote base target = quote at hquoted
  cases hquoted with
  | rate hd => exact .answered (.rate hd)
  | unpriced hpair => exact .answered (hunpriced hpair)
  | vanished hfar => exact .vanished htable hfar
  | beyond hfar => exact .beyond htable hfar

/--
Whatever the service replies, a provider answers with a positive rate or refuses, but in three
cases. A body that is no document of the shape makes a failure of its own kind, and leaves the
cached table as it was, but for one that has expired. A quotient out of the reach of decimals is
zero or a fault of the arithmetic.
-/
theorem rate_settles (hp : p.Supplied m reply) (base target : Value) :
    p.Settled m reply (Currency.spelling base) (Currency.spelling target)
      ((p.rate base target).on m) := by
  by_cases hsame : Currency.spelling base = Currency.spelling target
  · rw [on_rate_of_eq hsame]
    exact .answered (.rate (by decide))
  rw [on_rate_of_ne hsame]
  obtain ⟨outcome, m', htable⟩ : ∃ outcome m', p.table.on m = (outcome, m') := ⟨_, _, rfl⟩
  have hpriced := priced hp
  rw [htable] at hpriced ⊢
  cases hpriced with
  | refused h hcache => exact .answered (.refused h hcache)
  | baffled hservice h hcache => exact .baffled hservice h hcache
  | old h hcache =>
    exact settled_quote htable h.positive fun _ => .refused ⟨_, rfl, rfl⟩ hcache
  | new hservice h hlifetime hcache =>
    exact settled_quote htable (Online.sound_of_received h).positive
      (.unpriced hservice h hlifetime hcache)

/--
A provider answers with a positive rate or refuses, unless the quotient is out of the reach of
decimals. If it refuses, the cached table is as it was, but for one that has expired; only a new
table is stored, even if it does not price the pair.
-/
theorem rate_or_unavailable (hp : p.Served m reply) (base target : Value)
    (hreach : ∀ table, (p.table.on m).1 = .ok table →
      table.Reaches (Currency.spelling base) (Currency.spelling target)) :
    p.Answered m reply (Currency.spelling base) (Currency.spelling target)
      ((p.rate base target).on m) := by
  have hsettled := rate_settles hp.supplied base target
  generalize (p.rate base target).on m = outcome at hsettled
  cases hsettled with
  | answered h => exact h
  | baffled hservice hbaffles _ =>
    cases hp with
    | fixed => cases hservice
    | online _ _ _ hreply => exact absurd hbaffles hreply.not_baffles
  | vanished htable hfar => exact absurd (hreach _ (by rw [htable])) hfar
  | beyond htable hfar => exact absurd (hreach _ (by rw [htable])) hfar

/-- A service with a key, whose tables are kept for a minute. -/
def minuteService : Online where
  baseUrl := "https://rates.example"
  apiKey := .text "key"
  timeout := .int 15
  cacheSeconds := .int 60
  opensConnection := true

/-- Half a euro for a dollar. -/
def halfEuro : Reply :=
  .answered 200 "\x7b\"data\": \x7b\"EUR\": \x7b\"value\": 0.5\x7d\x7d\x7d"

/-- Surroundings in which the service replies so. -/
def euroMarket : Market ℚ := { now := 0, replies := [halfEuro] }

/-- The table that is stored for it. -/
def euroRates : Table := [("EUR", .finite false 5 (-1)), (dollar, .one)]

theorem configured_minuteService : minuteService.Configured ℚ where
  address := ⟨⟨"https".toList, [], "rates.example".toList, none, "/v3/latest".toList, none, none⟩,
    by decide +kernel⟩
  key _ := rfl
  lifetime := ⟨60, rfl⟩

theorem served_minuteService : (online minuteService).Served euroMarket halfEuro :=
  .online configured_minuteService (fun _ h => by cases h) rfl (by decide +kernel)

theorem table_minuteService : ((online minuteService).table.on euroMarket).1 = .ok euroRates := by
  decide +kernel

theorem reaches_euroRates : euroRates.Reaches "USD" "EUR" := by
  have hrate : euroRates.exactRate "USD" "EUR" = 1 / 2 := by decide +kernel
  intro _
  rw [hrate]
  constructor
  · calc (10 : ℚ) ^ Decimal.tinyExponent ≤ 10 ^ (-1 : Int) :=
        zpow_le_zpow_right₀ (by norm_num) (by decide)
      _ ≤ 1 / 2 := by norm_num
  · calc (1 / 2 : ℚ) < 10 ^ (0 : Int) := by norm_num
      _ ≤ 10 ^ Decimal.maxExponent := zpow_le_zpow_right₀ (by norm_num) (by decide)

theorem euro_rate_or_unavailable :
    (online minuteService).Served euroMarket halfEuro ∧
    (∀ table, ((online minuteService).table.on euroMarket).1 = .ok table →
      table.Reaches (Currency.spelling (.text "usd")) (Currency.spelling (.text "EUR"))) ∧
    (((online minuteService).rate (.text "usd") (.text "EUR")).on euroMarket).1 =
      .ok (.finite false 5 (-1)) ∧
    (online minuteService).Answered euroMarket halfEuro (Currency.spelling (.text "usd"))
      (Currency.spelling (.text "EUR"))
      (((online minuteService).rate (.text "usd") (.text "EUR")).on euroMarket) := by
  have hreach : ∀ table, ((online minuteService).table.on euroMarket).1 = .ok table →
      table.Reaches (Currency.spelling (.text "usd")) (Currency.spelling (.text "EUR")) := by
    intro table htable
    obtain rfl := Except.ok.inj (table_minuteService.symm.trans htable)
    exact reaches_euroRates
  exact ⟨served_minuteService, hreach, by decide +kernel,
    rate_or_unavailable served_minuteService _ _ hreach⟩

/-- A refusal may leave more behind than a removed entry: the new table, which has no such price. -/
theorem refusal_stores_new_table :
    ¬∀ (p : Provider) (m : Market ℚ) (reply : Reply) (base target : Value) (f : Failure),
      p.Served m reply → ((p.rate base target).on m).1 = .error f →
      m.Swept ((p.rate base target).on m).2.cache := by
  intro h
  have hswept := h (online minuteService) euroMarket _ (.text "USD") (.text "XXX")
    (.ledger (noRate "USD" "XXX")) served_minuteService (by decide +kernel)
  have hstored : (((online minuteService).rate (.text "USD") (.text "XXX")).on
      euroMarket).2.cache.entries.length = 1 := by decide +kernel
  generalize (((online minuteService).rate (.text "USD") (.text "XXX")).on
      euroMarket).2.cache = cache at hswept hstored
  cases hswept <;> cases hstored

end Provider

end Rate

end CurrencyLedger
