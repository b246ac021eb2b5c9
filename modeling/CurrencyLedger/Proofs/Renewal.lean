import CurrencyLedger.Proofs.Expiry
import CurrencyLedger.Proofs.Providers

/-!
When an online provider asks for a new table.

A course is what happens at one provider and the cache: tables and rates are asked of it and keys
are cleared, in any order, each some time after the one before, on the exact scale of time. A log
keeps what was done towards the service every time and what came of it.

Two things hold all along, and each turn keeps them. A cached table is the one that was received
last; it expires a lifetime after that, and nothing has cleared it since. And a received table that
nothing has cleared since is cached, unless its time is over. So the log tells when a table is asked
for: when none has been received within the lifetime that was not cleared afterwards.
-/

namespace CurrencyLedger

/-- What cannot be read is not there any more. -/
theorem Cache.lookup_of_get_none [TimeScale τ] {c : Cache τ α} {now : τ} {key : String}
    (h : (c.get now key).1 = none) : (c.get now key).2.entries.lookup key = none := by
  cases hentry : c.entries.lookup key with
  | none =>
    rw [get, hentry]
    exact hentry
  | some entry =>
    rw [get, hentry] at h ⊢
    dsimp only at h ⊢
    split_ifs at h ⊢ with hpast
    exact (Fields.lookup_erase key key c.entries).trans (if_pos rfl)

namespace Rate

/-! ### Courses -/

/-- What a provider and its cache are used for. -/
inductive Use where
  | table
  | rate (base target : Value)
  | clear (beginning : String)

/-- What comes of it. -/
inductive Outcome where
  | table (result : Except Failure Table)
  | rate (result : Except Failure Decimal)
  | cleared

/-- A use, some time after the one before, and the reply that the service has ready. -/
structure Turn where
  use : Use
  pause : ℚ
  reply : Reply
  forward : 0 ≤ pause

/-- What happened in a turn. -/
structure Entry where
  use : Use
  time : ℚ
  reply : Reply
  contacts : List Contact
  outcome : Outcome

/-- A course so far: the surroundings, and what happened, the last turn first. -/
structure Course where
  market : Market ℚ
  log : List Entry := []

/-- The outcome and the surroundings afterwards. -/
def Use.on (service : Online) (m : Market ℚ) : Use → Outcome × Market ℚ
  | .table => ((service.table.on m).map .table id)
  | .rate base target => (((Provider.online service).rate base target).on m).map .rate id
  | .clear beginning => (.cleared, { m with cache := m.cache.clear beginning })

/-- What a use makes of the provider's table, if it needs the table. -/
def Use.reading? : Use → Option (Except Failure Table → Outcome)
  | .table => some .table
  | .rate base target =>
    if Currency.spelling base = Currency.spelling target then none
    else some fun result => .rate (result >>= fun table =>
      table.quote (Currency.spelling base) (Currency.spelling target))
  | .clear _ => none

/-- Whether a request was made. -/
def Contact.isRequest : Contact → Bool
  | .asked .. => true
  | .opened _ => false

namespace Entry

/-- How many requests were made in a turn. -/
def requests (e : Entry) : Nat := e.contacts.countP Contact.isRequest

/-- The table that a request brought in, if one was made and did. -/
def fetched? (service : Online) (e : Entry) : Option Table :=
  if e.requests = 0 then none else (service.received e.reply).toOption

/-- Whether the cached table was cleared. -/
def clears (e : Entry) : Bool :=
  match e.use with
  | .clear beginning => Text.beginsWith beginning cacheKey
  | _ => false

/-- The turn is in a log, and the cached table has not been cleared since. -/
inductive Stands (e : Entry) : List Entry → Prop
  | last {log : List Entry} : Stands e (e :: log)
  | before {x : Entry} {log : List Entry} (hx : x.clears = false) (h : Stands e log) :
    Stands e (x :: log)

end Entry

namespace Course

variable (service : Online) (lifetime : ℚ)

/-- Nothing has happened yet at some time. -/
def start (now : ℚ) : Course := ⟨{ now }, []⟩

/-- The surroundings in which a turn is taken. -/
def surroundings (c : Course) (t : Turn) : Market ℚ :=
  { c.market with now := c.market.now + t.pause, replies := [t.reply], contacts := [] }

/-- What happens in a turn. -/
def entry (c : Course) (t : Turn) : Entry where
  use := t.use
  time := (c.surroundings t).now
  reply := t.reply
  contacts := (t.use.on service (c.surroundings t)).2.contacts
  outcome := (t.use.on service (c.surroundings t)).1

/-- The course after one more turn. -/
def step (c : Course) (t : Turn) : Course :=
  ⟨(t.use.on service (c.surroundings t)).2, c.entry service t :: c.log⟩

/-- The course of some turns from a time on. -/
def run (now : ℚ) (turns : List Turn) : Course := turns.foldl (step service) (start now)

/--
Whether a table has been received at a time from which its lifetime is not over, and has not been
cleared since.
-/
def Live (c : Course) (now : ℚ) : Prop :=
  ∃ (e : Entry) (table : Table), e.Stands c.log ∧ e.fetched? service = some table ∧
    now ≤ e.time + lifetime

/-- The table that was received last. -/
def latest? (c : Course) : Option Table := c.log.findSome? (Entry.fetched? service)

/-- What the cache and the log have to do with each other. -/
structure Tracked (c : Course) : Prop where
  latest : ∀ stored, c.market.cache.entries.lookup cacheKey = some stored →
    c.latest? service = some stored.value
  origin : ∀ stored, c.market.cache.entries.lookup cacheKey = some stored →
    ∃ e : Entry, e.Stands c.log ∧ e.fetched? service = some stored.value ∧
      stored.expires = e.time + lifetime
  held : ∀ (e : Entry) (table : Table), e.Stands c.log → e.fetched? service = some table →
    c.market.now ≤ e.time + lifetime →
    c.market.cache.entries.lookup cacheKey = some ⟨table, e.time + lifetime⟩

/-- What can come of a turn. -/
inductive Came (c : Course) (t : Turn) : Entry → Market ℚ → Prop
  | kept {read : Except Failure Table → Outcome} {stored : Cache.Entry ℚ Table}
    (hread : t.use.reading? = some read)
    (h : c.market.cache.entries.lookup cacheKey = some stored)
    (hlives : (c.surroundings t).now ≤ stored.expires) :
    Came c t ⟨t.use, (c.surroundings t).now, t.reply, [], read (.ok stored.value)⟩
      (c.surroundings t)
  | asked {read : Except Failure Table → Outcome} {m : Market ℚ}
    (hread : t.use.reading? = some read)
    (h : (c.market.cache.get (c.surroundings t).now cacheKey).1 = none)
    (hnow : m.now = (c.surroundings t).now)
    (hcache : m.cache = Online.kept (Online.looked (c.surroundings t)) lifetime
      (service.received t.reply)) :
    Came c t ⟨t.use, (c.surroundings t).now, t.reply, service.opening ++ service.asking,
      read (service.received t.reply)⟩ m
  | same {base target : Value} (huse : t.use = .rate base target)
    (h : Currency.spelling base = Currency.spelling target) :
    Came c t ⟨t.use, (c.surroundings t).now, t.reply, [], .rate (.ok .one)⟩ (c.surroundings t)
  | cleared {beginning : String} (huse : t.use = .clear beginning) :
    Came c t ⟨t.use, (c.surroundings t).now, t.reply, [], .cleared⟩
      { c.surroundings t with cache := c.market.cache.clear beginning }

variable {service} {lifetime} {c : Course}

theorem on_of_reading {use : Use} {read : Except Failure Table → Outcome}
    (h : use.reading? = some read) (m : Market ℚ) :
    use.on service m = (read (service.table.on m).1, (service.table.on m).2) := by
  cases use with
  | table =>
    cases h
    rfl
  | rate base target =>
    rw [Use.reading?] at h
    split_ifs at h with hsame
    cases h
    rw [Use.on, Provider.on_rate_of_ne hsame]
    rfl
  | clear beginning => cases h

theorem on_of_same {base target : Value}
    (h : Currency.spelling base = Currency.spelling target) (m : Market ℚ) :
    (Use.rate base target).on service m = (.rate (.ok .one), m) := by
  rw [Use.on, Provider.on_rate_of_eq h]
  rfl

/-- A table that comes of a use is the one that was needed. -/
theorem eq_of_reading {use : Use} {read : Except Failure Table → Outcome}
    (h : use.reading? = some read) {result : Except Failure Table} {table : Table}
    (houtcome : read result = .table (.ok table)) : result = .ok table := by
  cases use with
  | table =>
    cases h
    exact Outcome.table.inj houtcome
  | rate base target =>
    rw [Use.reading?] at h
    split_ifs at h
    cases h
    cases houtcome
  | clear beginning => cases h

theorem came (hkey : service.apiKey.given = true)
    (hlifetime : TimeScale.lifetime service.cacheSeconds = .ok lifetime)
    (hc : c.market.Sound) (t : Turn) :
    c.Came service lifetime t (c.entry service t) (c.step service t).market := by
  show c.Came service lifetime t ⟨t.use, (c.surroundings t).now, t.reply,
    (t.use.on service (c.surroundings t)).2.contacts, (t.use.on service (c.surroundings t)).1⟩
    (t.use.on service (c.surroundings t)).2
  cases hread : t.use.reading? with
  | some read =>
    rw [on_of_reading hread]
    have htabled := service.tabled (m := c.surroundings t) hlifetime hc rfl
    generalize service.table.on (c.surroundings t) = outcome at htabled
    cases htabled with
    | cached hstored hlives => exact .kept hread hstored (not_lt.1 (of_decide_eq_false hlives))
    | asked _ hmissing => exact .asked hread hmissing rfl rfl
    | keyless hkeyless _ =>
      rw [hkey] at hkeyless
      cases hkeyless
  | none =>
    cases huse : t.use with
    | table =>
      rw [huse] at hread
      cases hread
    | rate base target =>
      rw [huse, Use.reading?] at hread
      split_ifs at hread with hsame
      rw [on_of_same hsame, ← huse]
      exact .same huse hsame
    | clear beginning =>
      rw [Use.on, ← huse]
      exact .cleared huse

theorem requests_asking : (service.opening ++ service.asking).countP Contact.isRequest =
    if service.request.toBool = true then 1 else 0 := by
  have hopening : service.opening.countP Contact.isRequest = 0 := by
    rw [Online.opening]
    split_ifs <;> rfl
  rw [List.countP_append, hopening, Online.asking]
  cases service.request <;> rfl

theorem received_of_not_request {reply : Reply} (h : service.request.toBool ≠ true) :
    ∃ f, service.received reply = .error f := by
  rw [Online.received]
  cases hrequest : service.request with
  | error f => exact ⟨f, rfl⟩
  | ok p => exact absurd (by rw [hrequest]; rfl) h

/-- Where a table is asked for, what is fetched is what is received. -/
theorem fetched?_of_asking (e : Entry) (h : e.contacts = service.opening ++ service.asking) :
    e.fetched? service = (service.received e.reply).toOption := by
  rw [Entry.fetched?, Entry.requests, h, requests_asking]
  by_cases hrequest : service.request.toBool = true
  · rw [if_pos hrequest, if_neg one_ne_zero]
  · obtain ⟨f, hf⟩ := @received_of_not_request service e.reply hrequest
    rw [if_neg hrequest, if_pos rfl, hf]
    rfl

theorem fetched?_of_quiet (e : Entry) (h : e.contacts = []) : e.fetched? service = none := by
  rw [Entry.fetched?, Entry.requests, h]
  rfl

theorem clears_of_reading {e : Entry} {read : Except Failure Table → Outcome}
    (h : e.use.reading? = some read) : e.clears = false := by
  rw [Entry.clears]
  cases huse : e.use with
  | clear beginning =>
    rw [huse] at h
    cases h
  | _ => rfl

theorem exists_received_of_fetched {e : Entry} {table : Table}
    (h : e.fetched? service = some table) : service.received e.reply = .ok table := by
  rw [Entry.fetched?] at h
  split_ifs at h
  cases hreceived : service.received e.reply with
  | error f =>
    rw [hreceived] at h
    cases h
  | ok received =>
    rw [hreceived] at h
    cases h
    rfl

theorem lookup_kept (hpos : 0 < lifetime) (m : Market ℚ) (table : Table) :
    (Online.kept m lifetime (.ok table)).entries.lookup cacheKey =
      some ⟨table, m.now + lifetime⟩ := by
  have hlasts : TimeScale.atMost lifetime TimeScale.zero = false :=
    decide_eq_false (not_le.2 hpos)
  rw [Online.kept, Cache.set, if_neg (by rw [hlasts]; decide), Fields.lookup_set, if_pos rfl]
  rfl

namespace Tracked

theorem sound (h : c.Tracked service lifetime) : c.market.Sound := by
  intro stored hstored
  obtain ⟨e, -, hfetched, -⟩ := h.origin stored hstored
  exact Online.sound_of_received (exists_received_of_fetched hfetched)

/-- A received table is live if it can be read from the cache. -/
theorem live_iff (h : c.Tracked service lifetime) {now : ℚ} (hnow : c.market.now ≤ now) :
    c.Live service lifetime now ↔ ∃ stored, c.market.cache.entries.lookup cacheKey = some stored ∧
      now ≤ stored.expires := by
  constructor
  · rintro ⟨e, table, hstands, hfetched, hlives⟩
    exact ⟨_, h.held e table hstands hfetched (hnow.trans hlives), hlives⟩
  · rintro ⟨stored, hstored, hlives⟩
    obtain ⟨e, hstands, hfetched, hexpires⟩ := h.origin stored hstored
    exact ⟨e, stored.value, hstands, hfetched, hexpires ▸ hlives⟩

theorem start (now : ℚ) : (start now).Tracked service lifetime where
  latest _ h := by cases h
  origin _ h := by cases h
  held e _ h := by cases h

/-- A turn that neither asks for a table nor clears it changes nothing. -/
theorem of_quiet (h : c.Tracked service lifetime) {e : Entry} {m : Market ℚ}
    (hfetched : e.fetched? service = none) (hclears : e.clears = false)
    (hnow : c.market.now ≤ m.now)
    (hcache : m.cache.entries.lookup cacheKey = c.market.cache.entries.lookup cacheKey) :
    (⟨m, e :: c.log⟩ : Course).Tracked service lifetime where
  latest stored hstored := by
    rw [latest?, List.findSome?_cons, hfetched]
    exact h.latest stored (hcache ▸ hstored)
  origin stored hstored := by
    obtain ⟨x, hstands, hx⟩ := h.origin stored (hcache ▸ hstored)
    exact ⟨x, .before hclears hstands, hx⟩
  held x table hstands hx hlives := by
    cases hstands with
    | last =>
      rw [hfetched] at hx
      cases hx
    | before _ hstands => exact hcache.trans (h.held x table hstands hx (hnow.trans hlives))

/-- There may be nothing cached where the table was cleared, or there is none to go by. -/
theorem of_empty {e : Entry} {m : Market ℚ}
    (hfetched : e.fetched? service = none) (hcache : m.cache.entries.lookup cacheKey = none)
    (hlost : e.clears = true ∨ ¬c.Live service lifetime m.now) :
    (⟨m, e :: c.log⟩ : Course).Tracked service lifetime where
  latest stored hstored := by
    rw [hcache] at hstored
    cases hstored
  origin stored hstored := by
    rw [hcache] at hstored
    cases hstored
  held x table hstands hx hlives := by
    cases hstands with
    | last =>
      rw [hfetched] at hx
      cases hx
    | before hclears hstands =>
      rcases hlost with hclear | hdead
      · rw [hclears] at hclear
        cases hclear
      · exact absurd ⟨x, table, hstands, hx, hlives⟩ hdead

/-- A table that is received and stored is the one to go by. -/
theorem of_stored {e : Entry} {m : Market ℚ} {table : Table}
    (hfetched : e.fetched? service = some table) (hdead : ¬c.Live service lifetime m.now)
    (hcache : m.cache.entries.lookup cacheKey = some ⟨table, e.time + lifetime⟩) :
    (⟨m, e :: c.log⟩ : Course).Tracked service lifetime where
  latest stored hstored := by
    obtain rfl := Option.some.inj (hcache.symm.trans hstored)
    rw [latest?, List.findSome?_cons, hfetched]
  origin stored hstored := by
    obtain rfl := Option.some.inj (hcache.symm.trans hstored)
    exact ⟨e, .last, hfetched, rfl⟩
  held x received hstands hx hlives := by
    cases hstands with
    | last =>
      obtain rfl := Option.some.inj (hfetched.symm.trans hx)
      exact hcache
    | before _ hstands => exact absurd ⟨x, received, hstands, hx, hlives⟩ hdead

theorem not_live_of_get_none (h : c.Tracked service lifetime) (t : Turn)
    (hmissing : (c.market.cache.get (c.surroundings t).now cacheKey).1 = none) :
    ¬c.Live service lifetime (c.surroundings t).now := by
  have hforward : c.market.now ≤ (c.surroundings t).now := le_add_of_nonneg_right t.forward
  rw [h.live_iff hforward]
  rintro ⟨stored, hstored, hlives⟩
  rw [Cache.get, hstored] at hmissing
  dsimp only at hmissing
  split_ifs at hmissing with hpast
  exact absurd (of_decide_eq_true hpast) (not_lt.2 hlives)

/-- What comes of a turn keeps the cache and the log together. -/
theorem of_came (h : c.Tracked service lifetime) (hpos : 0 < lifetime) {t : Turn} {e : Entry}
    {m : Market ℚ} (hcame : c.Came service lifetime t e m) :
    (⟨m, e :: c.log⟩ : Course).Tracked service lifetime := by
  have hforward : c.market.now ≤ (c.surroundings t).now := le_add_of_nonneg_right t.forward
  cases hcame with
  | kept hread _ _ =>
    exact h.of_quiet (fetched?_of_quiet _ rfl) (clears_of_reading hread) hforward rfl
  | same huse _ =>
    refine h.of_quiet (fetched?_of_quiet _ rfl) ?_ hforward rfl
    rw [Entry.clears, huse]
  | @cleared beginning huse =>
    have hlookup := Cache.lookup_clear c.market.cache beginning cacheKey
    have hclears : Entry.clears ⟨t.use, (c.surroundings t).now, t.reply, [], .cleared⟩ =
        Text.beginsWith beginning cacheKey := by
      rw [Entry.clears, huse]
    by_cases hmatches : Text.beginsWith beginning cacheKey = true
    · rw [if_pos hmatches] at hlookup
      exact of_empty (fetched?_of_quiet _ rfl) hlookup (.inl (hclears.trans hmatches))
    · rw [if_neg hmatches] at hlookup
      exact h.of_quiet (fetched?_of_quiet _ rfl)
        (hclears.trans (Bool.eq_false_of_not_eq_true hmatches)) hforward hlookup
  | @asked read m hread hmissing hnow hcache =>
    have hdead : ¬c.Live service lifetime m.now := hnow ▸ h.not_live_of_get_none t hmissing
    have hfetched := @fetched?_of_asking service ⟨t.use, (c.surroundings t).now, t.reply,
      service.opening ++ service.asking, read (service.received t.reply)⟩ rfl
    cases hreceived : service.received t.reply with
    | ok table =>
      rw [hreceived] at hfetched hcache
      rw [← hreceived]
      exact of_stored hfetched hdead (hcache ▸ lookup_kept hpos _ table)
    | error f =>
      rw [hreceived] at hfetched hcache
      exact of_empty hfetched (hcache ▸ Cache.lookup_of_get_none hmissing) (.inr hdead)

end Tracked

/-! ### Whole courses -/

/-- What a use that needs a table does about one. -/
structure Renews (service : Online) (lifetime : ℚ) (c : Course) (t : Turn)
    (read : Except Failure Table → Outcome) : Prop where
  once : (c.entry service t).requests ≤ 1
  asks : (c.entry service t).requests = 1 ↔
    ¬c.Live service lifetime (c.surroundings t).now ∧ ∃ p, service.request = .ok p
  kept : c.Live service lifetime (c.surroundings t).now → ∃ table,
    c.latest? service = some table ∧ (c.entry service t).outcome = read (.ok table) ∧
      (c.step service t).market.cache = c.market.cache
  renewed : ¬c.Live service lifetime (c.surroundings t).now →
    (∃ table, service.received t.reply = .ok table ∧
      (c.entry service t).outcome = read (.ok table) ∧
      (c.step service t).market.cache.entries.lookup cacheKey =
        some ⟨table, (c.surroundings t).now + lifetime⟩) ∨
    ∃ f, service.received t.reply = .error f ∧ (c.entry service t).outcome = read (.error f) ∧
      (c.surroundings t).Swept (c.step service t).market.cache ∧
      (service.Configured ℚ → t.reply.Regular → IsUnavailable f)

/-- What a turn does that is taken after others. -/
structure Punctual (service : Online) (lifetime : ℚ) (c : Course) (t : Turn) : Prop where
  renews : ∀ read, t.use.reading? = some read → c.Renews service lifetime t read
  same : ∀ base target, t.use = .rate base target →
    Currency.spelling base = Currency.spelling target →
    (c.entry service t).requests = 0 ∧ (c.entry service t).outcome = .rate (.ok .one) ∧
      (c.step service t).market.cache = c.market.cache
  sound : ∀ table, (c.entry service t).outcome = .table (.ok table) → table.Sound

theorem tracked_run (hkey : service.apiKey.given = true)
    (hlifetime : TimeScale.lifetime service.cacheSeconds = .ok lifetime) (hpos : 0 < lifetime)
    (now : ℚ) (turns : List Turn) : (run service now turns).Tracked service lifetime :=
  List.foldlRecOn turns _ (.start now) fun _ h t _ =>
    h.of_came hpos (came hkey hlifetime h.sound t)

/-- A stored table that is live is handed out. -/
theorem Renews.of_stored (h : c.Tracked service lifetime) {t : Turn}
    {read : Except Failure Table → Outcome} {stored : Cache.Entry ℚ Table}
    (hstored : c.market.cache.entries.lookup cacheKey = some stored)
    (hlives : (c.surroundings t).now ≤ stored.expires)
    (hcontacts : (c.entry service t).contacts = [])
    (houtcome : (c.entry service t).outcome = read (.ok stored.value))
    (hcache : (c.step service t).market.cache = c.market.cache) :
    c.Renews service lifetime t read := by
  have hforward : c.market.now ≤ (c.surroundings t).now := le_add_of_nonneg_right t.forward
  have hlive := (h.live_iff hforward).2 ⟨stored, hstored, hlives⟩
  have hnone : (c.entry service t).requests = 0 := by
    rw [Entry.requests, hcontacts, List.countP_nil]
  refine ⟨hnone ▸ zero_le_one, ?_, fun _ => ?_, fun hdead => absurd hlive hdead⟩
  · rw [hnone]
    exact ⟨fun h => absurd h zero_ne_one, fun h => absurd hlive h.1⟩
  · exact ⟨stored.value, h.latest stored hstored, houtcome, hcache⟩

/-- When no table is live, the service is asked, and what it answers is handed out. -/
theorem Renews.of_asked (hpos : 0 < lifetime) {t : Turn} {read : Except Failure Table → Outcome}
    (hdead : ¬c.Live service lifetime (c.surroundings t).now)
    (hcontacts : (c.entry service t).contacts = service.opening ++ service.asking)
    (houtcome : (c.entry service t).outcome = read (service.received t.reply))
    (hcache : (c.step service t).market.cache =
      Online.kept (Online.looked (c.surroundings t)) lifetime (service.received t.reply)) :
    c.Renews service lifetime t read := by
  have hrequests : (c.entry service t).requests =
      if service.request.toBool = true then 1 else 0 := by
    rw [Entry.requests, hcontacts, requests_asking]
  refine ⟨?_, ?_, fun hlive => absurd hlive hdead, fun _ => ?_⟩
  · rw [hrequests]
    split_ifs <;> decide
  · rw [hrequests]
    cases service.request with
    | ok p => exact ⟨fun _ => ⟨hdead, p, rfl⟩, fun _ => rfl⟩
    | error f => exact ⟨fun h => absurd h zero_ne_one, fun ⟨_, _, hp⟩ => by cases hp⟩
  · rw [houtcome, hcache]
    cases hreceived : service.received t.reply with
    | ok table => exact .inl ⟨table, rfl, rfl, lookup_kept hpos _ table⟩
    | error f =>
      refine .inr ⟨f, rfl, rfl, (c.surroundings t).swept_looked, fun hservice hreply => ?_⟩
      rcases Online.received_cases hservice t.reply with ⟨g, hg, hfailed⟩ | ⟨table, htable⟩
      · obtain rfl := Except.error.inj (hreceived.symm.trans hg)
        exact hfailed.resolve_right hreply.not_baffles
      · rw [hreceived] at htable
        cases htable

theorem renews_of_came (h : c.Tracked service lifetime) (hpos : 0 < lifetime) {t : Turn}
    {read : Except Failure Table → Outcome} (hread : t.use.reading? = some read)
    (hcame : c.Came service lifetime t (c.entry service t) (c.step service t).market) :
    c.Renews service lifetime t read := by
  generalize hentry : c.entry service t = e at hcame
  generalize hmarket : (c.step service t).market = m at hcame
  cases hcame with
  | same huse hsame =>
    rw [huse, Use.reading?, if_pos hsame] at hread
    cases hread
  | cleared huse =>
    rw [huse] at hread
    cases hread
  | @kept read' stored hread' hstored hlives =>
    obtain rfl := Option.some.inj (hread.symm.trans hread')
    exact .of_stored h hstored hlives (by rw [hentry]) (by rw [hentry]) (by rw [hmarket]; rfl)
  | @asked read' m hread' hmissing hnow hcache =>
    obtain rfl := Option.some.inj (hread.symm.trans hread')
    exact .of_asked hpos (h.not_live_of_get_none t hmissing) (by rw [hentry]) (by rw [hentry])
      (by rw [hmarket, hcache])

/--
A table is asked for exactly when none that was received is live and a request can be written.
Until then the last one that was received is handed out. A request is made once; what it brings in
is stored and handed out if it is a table, and nothing is stored if it is not.
-/
theorem asks_exactly_when_due (hkey : service.apiKey.given = true)
    (hlifetime : TimeScale.lifetime service.cacheSeconds = .ok lifetime) (hpos : 0 < lifetime)
    (now : ℚ) (turns : List Turn) (t : Turn) :
    Punctual service lifetime (run service now turns) t := by
  have htracked := tracked_run hkey hlifetime hpos now turns
  generalize run service now turns = c at htracked
  have hcame := came hkey hlifetime htracked.sound t
  refine ⟨fun read hread => renews_of_came htracked hpos hread hcame, ?_, ?_⟩
  · intro base target huse hsame
    have hon : t.use.on service (c.surroundings t) = (.rate (.ok .one), c.surroundings t) := by
      rw [huse, on_of_same hsame]
    rw [step, entry, hon]
    exact ⟨rfl, rfl, rfl⟩
  · intro table houtcome
    generalize c.entry service t = e at hcame houtcome
    generalize (c.step service t).market = m at hcame
    cases hcame with
    | kept hread hstored _ =>
      obtain rfl := Except.ok.inj (eq_of_reading hread houtcome)
      exact htracked.sound _ hstored
    | asked hread _ _ _ => exact Online.sound_of_received (eq_of_reading hread houtcome)
    | same _ _ => cases houtcome
    | cleared _ => cases houtcome

/-- The table is asked for, with half a euro for a dollar in the reply. -/
def firstTurn : Turn where
  use := .table
  pause := 0
  reply := Provider.halfEuro
  forward := le_rfl

/-- It is asked for again in the last moment of its lifetime, while the service is down. -/
def lastMoment : Turn where
  use := .table
  pause := 60
  reply := .unreachable
  forward := by norm_num

theorem minute_table_is_kept :
    Provider.minuteService.apiKey.given = true ∧
    TimeScale.lifetime Provider.minuteService.cacheSeconds = .ok (60 : ℚ) ∧ (0 : ℚ) < 60 ∧
    ((start 0).entry Provider.minuteService firstTurn).requests = 1 ∧
    ((run Provider.minuteService 0 [firstTurn]).entry Provider.minuteService
      lastMoment).requests = 0 ∧
    Punctual Provider.minuteService 60 (run Provider.minuteService 0 [firstTurn]) lastMoment :=
  ⟨rfl, rfl, by norm_num, by decide +kernel, by decide +kernel,
    asks_exactly_when_due rfl rfl (by norm_num) 0 [firstTurn] lastMoment⟩

/-- That no table is live is not enough: a key outside of ASCII cannot be sent. -/
theorem unwritable_key_is_not_sent :
    ¬∀ (service : Online) (lifetime now : ℚ) (turns : List Turn) (t : Turn),
      service.apiKey.given = true → TimeScale.lifetime service.cacheSeconds = .ok lifetime →
      0 < lifetime → t.use = .table →
      (((run service now turns).entry service t).requests = 1 ↔
        ¬(run service now turns).Live service lifetime
          ((run service now turns).surroundings t).now) := by
  intro h
  have hasks := h { Provider.minuteService with apiKey := .text "é" } 60 0 [] firstTurn
    (by decide) rfl (by norm_num) rfl
  have hdead : ¬(start 0).Live { Provider.minuteService with apiKey := .text "é" } 60
      ((start 0).surroundings firstTurn).now := by
    rintro ⟨e, table, hstands, -⟩
    cases hstands
  exact absurd (hasks.2 hdead) (by decide +kernel)

end Course

end Rate

end CurrencyLedger
