import CurrencyLedger.Http.Service
import CurrencyLedger.Proofs.Listings
import CurrencyLedger.Proofs.Movements
import CurrencyLedger.Proofs.Senders

/-!
What users learn of each other.

A user who reads wallets, transactions or activities selects rows that are the user's own before
anything is counted, ordered or cut into pages. So in two stores in which the user has the same rows
each of these reads gives one answer, whatever rows others have there. A read changes nothing, so
reads that are made one after another, and the steps of an endpoint, can be compared one by one.
-/

namespace CurrencyLedger

/-! ### Two runs -/

/-- From two states a computation comes to one answer, and leaves each of them as it is. -/
def SameAnswer (a : ExceptT ε (StateM σ) α) (s t : σ) : Prop :=
  ∃ r, a.run s = (r, s) ∧ a.run t = (r, t)

namespace SameAnswer

variable {ε σ α β : Type} {a : ExceptT ε (StateM σ) α} {s t : σ}

theorem answer (h : SameAnswer a s t) : (a.run s).1 = (a.run t).1 := by
  obtain ⟨r, hs, ht⟩ := h
  rw [hs, ht]

/-- What needs no state. -/
theorem const (r : Except ε α) (s t : σ) : SameAnswer (ExceptT.mk fun s => (r, s)) s t :=
  ⟨r, rfl, rfl⟩

theorem run_bind (a : ExceptT ε (StateM σ) α) (f : α → ExceptT ε (StateM σ) β) (s : σ) :
    (a >>= f).run s = match a.run s with
      | (.ok x, t) => (f x).run t
      | (.error e, t) => (.error e, t) := by
  show (ExceptT.bind a f).run s = _
  simp only [ExceptT.bind, ExceptT.run, ExceptT.mk, Bind.bind, StateT.bind]
  rcases (a s : Except ε α × σ) with ⟨r, t⟩
  cases r <;> rfl

/-- A sequence whose second part is looked at for the answers that the first part gives. -/
theorem bind {f : α → ExceptT ε (StateM σ) β} (ha : SameAnswer a s t)
    (hf : ∀ x, a.run s = (.ok x, s) → SameAnswer (f x) s t) : SameAnswer (a >>= f) s t := by
  obtain ⟨r, hs, ht⟩ := ha
  cases r with
  | error e => exact ⟨.error e, by rw [run_bind, hs], by rw [run_bind, ht]⟩
  | ok x =>
    obtain ⟨r, hs', ht'⟩ := hf x hs
    exact ⟨r, by rw [run_bind, hs]; exact hs', by rw [run_bind, ht]; exact ht'⟩

end SameAnswer

/-- What a session shows a user is the same in both, if only the rows of others differ. -/
structure Session.Alike (userId : Int) (s t : Session) : Prop where
  tables : s.working.Alike userId t.working
  clock : t.clock = s.clock
  faults : t.faults = s.faults
  aborted : t.aborted = s.aborted

namespace Session

/-- The session on the rows of one user alone. -/
def alone (s : Session) (userId : Int) : Session :=
  { s with committed := s.committed.alone userId, working := s.working.alone userId }

theorem alike_alone (s : Session) (userId : Int) : s.Alike userId (s.alone userId) :=
  ⟨s.working.alike_alone userId, rfl, rfl, rfl⟩

variable {userId : Int} {s t : Session}

/-- A query that selects the same rows. -/
theorem sameAnswer_query (h : s.Alike userId t) (st : Statement) (bound : List Int)
    {f : Tables → α} (hf : f s.working = f t.working) : SameAnswer (query st bound f) s t := by
  have hanswer : ((query st bound f).on t).1 = ((query st bound f).on s).1 := by
    rw [query, Action.on_of, Action.on_of, h.faults, h.aborted, ← hf]
    split
    · rfl
    · split_ifs <;> rfl
  exact ⟨((query st bound f).on s).1, Prod.ext rfl (on_query_snd ..),
    Prod.ext hanswer (on_query_snd ..)⟩

/-- What is made of a query's answer may as well be asked for. -/
theorem query_bind_pure (st : Statement) (bound : List Int) (f : Tables → α) (g : α → β) :
    (query st bound f >>= fun x => pure (g x)) = query st bound fun t => g (f t) := by
  refine Action.ext fun s => ?_
  rw [Action.on_bind, query, query, Action.on_of, Action.on_of]
  cases s.faults st <;> cases s.aborted <;> cases bound.all Column.fits <;> rfl

end Session

/-! ### Filters -/

namespace History

namespace Filter

/-- A filter that lets no transaction of another user pass. -/
def IsOwn (userId : Int) (f : Filter) : Prop := f.isHopeless = true ∨ f.userId = some userId

variable {userId : Int} {f g : Filter}

theorem IsOwn.of_admits (h : f.IsOwn userId) {x : Transaction} (hx : f.admits x = true) :
    (x.userId == userId) = true := by
  simp only [admits, Bool.and_eq_true, Bool.not_eq_true'] at hx
  obtain ⟨⟨⟨⟨⟨⟨⟨⟨⟨⟨hhope, huser⟩, -⟩, -⟩, -⟩, -⟩, -⟩, -⟩, -⟩, -⟩, -⟩ := hx
  rcases h with h | h
  · rw [h] at hhope
    cases hhope
  · simpa [h] using huser

/-- An integer names a user, or nobody. -/
theorem isOwn_withUser (userId : Int) (f : Filter) : (withUser (.int userId) f).IsOwn userId := by
  simp only [withUser, Column.integer?]
  split_ifs
  · exact .inr rfl
  · exact .inl rfl

/-- Of the named values one is the user, whatever the others are. -/
theorem isOwn_of_narrowed {fields : List (String × Value)}
    (huser : named fields "user_id" = .int userId) (h : f.narrowed fields = .ok g) :
    g.IsOwn userId := by
  simp only [narrowed, huser] at h
  split at h
  · obtain ⟨_, hbad, -⟩ := bind_eq_ok.1 h
    cases hbad
  · obtain ⟨reference, -, h⟩ := bind_eq_ok.1 h
    obtain ⟨sessionId, -, h⟩ := bind_eq_ok.1 h
    obtain ⟨currency, -, h⟩ := bind_eq_ok.1 h
    obtain ⟨_, -, h⟩ := bind_eq_ok.1 h
    split at h
    · obtain ⟨_, -, h⟩ := bind_eq_ok.1 h
      cases h
      exact isOwn_withUser userId _
    · cases h
      exact isOwn_withUser userId _

end Filter

/-- One page of the transactions that named values choose. -/
def listNamed (page limit : Value) (fields : List (String × Value)) :
    Action Session (List Transaction × Nat) := do
  let f ← .lift (Filter.chosen fields)
  list page limit (f.narrowed fields)

end History

/-! ### Reads -/

section

variable {userId : Int} {s t : Session}

theorem sameAnswer_wallets (h : s.Alike userId t) (hs : s.working.Keyed) (currency : Value) :
    SameAnswer (Wallets.list userId currency) s t := by
  rw [Wallets.list]
  split_ifs
  · refine .bind (.const _ _ _) fun code _ => ?_
    refine Session.sameAnswer_query h _ _ (h.tables.byCurrency_eq hs fun w hw => ?_)
    exact (Bool.and_eq_true_iff.1 hw).1
  · exact Session.sameAnswer_query h _ _ (h.tables.byCurrency_eq hs fun w hw => hw)

theorem sameAnswer_wallet (h : s.Alike userId t) (hs : s.working.Keyed) (currency : Value) :
    SameAnswer (Wallets.find userId currency) s t :=
  .bind (.const _ _ _) fun code _ =>
    Session.sameAnswer_query h _ _ (h.tables.walletOf?_eq hs code)

theorem sameAnswer_transactions (h : s.Alike userId t) (hs : s.working.Keyed)
    (page limit : Value) {filter : Except Failure History.Filter}
    (hfilter : ∀ f, filter = .ok f → f.IsOwn userId) :
    SameAnswer (History.list page limit filter) s t := by
  refine .bind (.const _ _ _) fun page _ => .bind (.const _ _ _) fun limit _ =>
    .bind (.const filter _ _) fun f hf => ?_
  have hown {x : Transaction} : f.admits x = true → (x.userId == userId) = true :=
    (hfilter f (Prod.mk.inj hf).1).of_admits
  refine .bind (Session.sameAnswer_query h _ _ (h.tables.count_eq fun _ => hown)) fun total _ => ?_
  refine .bind (Session.sameAnswer_query h _ _ ?_) fun rows _ => .const _ _ _
  rw [h.tables.select_eq hs fun _ => hown]

theorem sameAnswer_transaction (h : s.Alike userId t) (hs : s.working.Keyed) (id : String) :
    SameAnswer (History.get id (some userId)) s t :=
  Session.sameAnswer_query h _ _ (h.tables.find?_eq hs id)

theorem sameAnswer_getBy (h : s.Alike userId t) (hs : s.working.Keyed) (id : Value) :
    SameAnswer (History.getBy id (.int userId)) s t := by
  refine .bind (.const _ _ _) fun _ _ => .bind (.const _ _ _) fun _ _ => ?_
  cases Column.text? id with
  | none => exact .const _ _ _
  | some id =>
    -- A user who cannot be one has no transaction, so it does not matter what is found.
    show SameAnswer (Session.query _ _ _ >>= fun x => pure _) s t
    rw [Session.query_bind_pure]
    refine Session.sameAnswer_query h _ _ ?_
    rcases History.Filter.isOwn_withUser userId {} with hf | hf
    · simp only [hf, if_true]
    · have hcannot : (History.Filter.withUser (.int userId) {}).isHopeless = false := by
        simp only [History.Filter.withUser] at hf ⊢
        split at hf
        · rfl
        · cases hf
      simp only [hf, hcannot]
      exact h.tables.find?_eq hs id

end

namespace Http

variable {userId : Int} {x y : Service} {r : Request}

theorem sameAnswer_act {a : Action Session α} (h : SameAnswer a x.session y.session) :
    SameAnswer (Handler.act a) x y := by
  obtain ⟨r, hx, hy⟩ := h
  replace hx : a.on x.session = (r, x.session) := hx
  replace hy : a.on y.session = (r, y.session) := hy
  exact ⟨_, by rw [run_act, hx], by rw [run_act, hy]⟩

theorem sameAnswer_validate (c : Validation.Checked α) (x y : Service) :
    SameAnswer (Handler.validate c) x y :=
  ⟨_, Handler.on_validate c x, Handler.on_validate c y⟩

/-- What a handler goes on with has been validated. -/
theorem validate_eq_ok {c : Validation.Checked α} {v : α}
    (h : (Handler.validate c).run x = (.ok v, y)) : c = .ok v := by
  cases c with
  | error is => cases h
  | ok w =>
    cases h
    rfl

/-- The sender of a request is the same user in both. -/
theorem sameAnswer_authenticate (h : x.session.Alike userId y.session)
    (hr : senderId r x.session.clock = .ok userId) : SameAnswer (authenticate r) x y := by
  rw [authenticate]
  refine .bind (sameAnswer_act ⟨_, rfl, by rw [← h.clock]; rfl⟩) fun now hnow => ?_
  obtain rfl : x.session.clock = now := Except.ok.inj (Prod.mk.inj hnow).1
  rw [hr]
  dsimp only
  split_ifs
  · exact .const _ _ _
  · refine .bind (sameAnswer_act (Session.sameAnswer_query h _ _ h.tables.user)) fun found _ => ?_
    cases found with
    | none => exact .const _ _ _
    | some u =>
      show SameAnswer (ite _ _ _) x y
      split_ifs <;> exact .const _ _ _

theorem id_of_authenticate (hr : senderId r x.session.clock = .ok userId) {u : User}
    (h : (authenticate r).run x = (.ok u, x)) : u.id = userId :=
  Except.ok.inj ((isSender_of_authenticate h).named.symm.trans hr)

/-- The endpoints at which users read what is their own. -/
def Endpoint.isOwn : Endpoint → Bool
  | .wallets => true
  | .transactions => true
  | .transaction _ => true
  | .activities => true
  | _ => false

theorem userId_of_readOwn {t : Target} {l : Listing} (h : Listing.readOwn t userId = .ok l) :
    l.filter.userId = some userId := by
  obtain ⟨_, -, h⟩ := bind_eq_ok.1 h
  cases h
  rfl

theorem sameAnswer_listingPage (h : x.session.Alike userId y.session)
    (hx : x.session.working.Keyed) {l : Listing} (hown : l.filter.userId = some userId) :
    SameAnswer (listingPage l) x y := by
  rw [listingPage]
  split_ifs
  · exact .const _ _ _
  · refine .bind (sameAnswer_act (sameAnswer_transactions h hx _ _ ?_)) fun _ _ => .const _ _ _
    rintro f ⟨⟩
    exact .inr hown

/-- Each of them gives the sender one answer in both. -/
theorem sameAnswer_answerAt (c : Configuration) (h : x.session.Alike userId y.session)
    (hx : x.session.working.Keyed) (hr : senderId r x.session.clock = .ok userId) {e : Endpoint}
    (he : e.isOwn = true) : SameAnswer (answerAt c r e) x y := by
  have hsender := sameAnswer_authenticate h hr
  cases e with
  | wallets =>
    refine hsender.bind fun u hu => ?_
    obtain rfl := id_of_authenticate hr hu
    exact .bind (sameAnswer_act (sameAnswer_wallets h hx _)) fun _ _ => .const _ _ _
  | transactions =>
    refine hsender.bind fun u hu => ?_
    obtain rfl := id_of_authenticate hr hu
    refine .bind (sameAnswer_validate _ x y) fun l hl => ?_
    exact sameAnswer_listingPage h hx (userId_of_readOwn (validate_eq_ok hl))
  | transaction id =>
    refine hsender.bind fun u hu => ?_
    obtain rfl := id_of_authenticate hr hu
    refine .bind (sameAnswer_act (sameAnswer_transaction h hx id)) fun found _ => ?_
    cases found <;> exact .const _ _ _
  | activities =>
    refine hsender.bind fun u hu => ?_
    obtain rfl := id_of_authenticate hr hu
    refine .bind (sameAnswer_validate _ x y) fun limit _ => ?_
    refine .bind (sameAnswer_act (Session.sameAnswer_query h _ _ ?_)) fun _ _ => .const _ _ _
    exact h.tables.selectActivities_eq hx limit
  | _ => cases he

theorem serve_eq (c : Configuration) (h : x.session.Alike userId y.session)
    (hx : x.session.working.Keyed) (hr : senderId r x.session.clock = .ok userId) {e : Endpoint}
    (hroute : route r.method r.target.path = .endpoint e) (he : e.isOwn = true) :
    (serve c r x).1 = (serve c r y).1 := by
  have hhandle : SameAnswer (handle c r) x y := by
    rw [handle, hroute]
    cases preflight? c r with
    | some a => exact .const _ _ _
    | none => exact sameAnswer_answerAt c h hx hr he
  have hserve (z : Service) : (serve c r z).1 =
      trimBody r.method (match ((handle c r).run z).1 with | .ok a => a | .error a => a) := by
    show (match (handle c r).run z with | (.ok a, t) => _ | (.error a, t) => _ : Answer × Service).1
      = _
    rcases (handle c r).run z with ⟨a | a, t⟩ <;> rfl
  rw [hserve x, hserve y, hhandle.answer]

end Http

/-! ### Isolation -/

/-- Whatever a user reads, the answer is the same in two sessions. -/
structure SameReads (userId : Int) (s t : Session) : Prop where
  wallets : ∀ currency, ((Wallets.list userId currency).on s).1 =
    ((Wallets.list userId currency).on t).1
  wallet : ∀ currency, ((Wallets.find userId currency).on s).1 =
    ((Wallets.find userId currency).on t).1
  /-- The page, the number of rows and the other filters may be anything. -/
  transactions : ∀ page limit fields, History.Filter.named fields "user_id" = .int userId →
    ((History.listNamed page limit fields).on s).1 = ((History.listNamed page limit fields).on t).1
  transaction : ∀ id, ((History.getBy id (.int userId)).on s).1 =
    ((History.getBy id (.int userId)).on t).1
  endpoints : ∀ (c : Http.Configuration) (r : Http.Request) (e : Http.Endpoint)
    (hits hits' : Http.Hits) (rates rates' : Cache Rat Rate.Table),
    Http.senderId r s.clock = .ok userId → Http.route r.method r.target.path = .endpoint e →
    e.isOwn = true → (Http.serve c r ⟨s, hits, rates⟩).1 = (Http.serve c r ⟨t, hits', rates'⟩).1

/-- No answer to a user holds a row of another one. -/
structure OwnReads (userId : Int) (s : Session) : Prop where
  wallets : ∀ currency ws t, (Wallets.list userId currency).on s = (.ok ws, t) →
    ∀ w ∈ ws, w.userId = userId
  wallet : ∀ currency w t, (Wallets.find userId currency).on s = (.ok (some w), t) →
    w.userId = userId
  transactions : ∀ page limit fields rows total t,
    History.Filter.named fields "user_id" = .int userId →
    (History.listNamed page limit fields).on s = (.ok (rows, total), t) →
    ∀ x ∈ rows, x.userId = userId
  transaction : ∀ id x t, (History.getBy id (.int userId)).on s = (.ok (some x), t) →
    x.userId = userId
  /-- The endpoints answer as they do where there are no other rows. -/
  endpoints : ∀ (c : Http.Configuration) (r : Http.Request) (e : Http.Endpoint) (hits : Http.Hits)
    (rates : Cache Rat Rate.Table),
    Http.senderId r s.clock = .ok userId → Http.route r.method r.target.path = .endpoint e →
    e.isOwn = true →
      (Http.serve c r ⟨s, hits, rates⟩).1 = (Http.serve c r ⟨s.alone userId, hits, rates⟩).1

section

variable {userId : Int} {s t : Session}

theorem sameReads (h : s.Alike userId t) (hs : s.working.Keyed) : SameReads userId s t := by
  refine ⟨fun currency => ?_, fun currency => ?_, fun page limit fields huser => ?_, fun id => ?_,
    fun c r e hits hits' rates rates' hr hroute he => ?_⟩
  · exact (sameAnswer_wallets h hs currency).answer
  · exact (sameAnswer_wallet h hs currency).answer
  · have hlist : SameAnswer (History.listNamed page limit fields) s t :=
      .bind (.const _ _ _) fun f _ => sameAnswer_transactions h hs page limit fun _ hf =>
        History.Filter.isOwn_of_narrowed huser hf
    exact hlist.answer
  · exact (sameAnswer_getBy h hs id).answer
  · exact Http.serve_eq c (x := ⟨s, hits, rates⟩) (y := ⟨t, hits', rates'⟩) h hs hr hroute he

theorem own_of_list {currency : Value} {ws : List Wallet}
    (h : (Wallets.list userId currency).on s = (.ok ws, t)) : ∀ w ∈ ws, w.userId = userId := by
  intro w hw
  rw [Wallets.list] at h
  split_ifs at h
  · obtain ⟨code, _, -, h⟩ := Action.on_bind_eq_ok.1 h
    obtain ⟨-, -, -, rfl, -⟩ := Session.on_query_eq_ok.1 h
    rw [Wallets.byCurrency, List.mem_mergeSort, List.mem_filter, Bool.and_eq_true] at hw
    exact eq_of_beq hw.2.1
  · obtain ⟨-, -, -, rfl, -⟩ := Session.on_query_eq_ok.1 h
    rw [Wallets.byCurrency, List.mem_mergeSort, List.mem_filter] at hw
    exact eq_of_beq hw.2

theorem own_of_listNamed {page limit : Value} {fields : List (String × Value)}
    (huser : History.Filter.named fields "user_id" = .int userId) {rows : List Transaction}
    {total : Nat} (h : (History.listNamed page limit fields).on s = (.ok (rows, total), t)) :
    ∀ x ∈ rows, x.userId = userId := by
  intro x hx
  simp only [History.listNamed, History.list, Action.on_bind_eq_ok, Action.on_lift,
    Prod.mk.injEq, Session.on_query_eq_ok, Action.on_pure] at h
  obtain ⟨_, _, -, n, _, -, m, _, -, f, _, ⟨hf, -⟩, _, _, -, _, _, ⟨-, -, -, rfl, -⟩, h, -⟩ := h
  cases h
  have hselected := List.mem_of_mem_drop (List.mem_of_mem_take hx)
  rw [History.select, List.mem_mergeSort, List.mem_filter] at hselected
  exact eq_of_beq ((History.Filter.isOwn_of_narrowed huser hf).of_admits hselected.2)

theorem own_of_getBy {id : Value} {x : Transaction}
    (h : (History.getBy id (.int userId)).on s = (.ok (some x), t)) : x.userId = userId := by
  obtain ⟨_, _, -, h⟩ := Action.on_bind_eq_ok.1 h
  obtain ⟨_, _, -, h⟩ := Action.on_bind_eq_ok.1 h
  cases hid : Column.text? id with
  | none =>
    rw [hid] at h
    cases h
  | some name =>
    rw [hid] at h
    obtain ⟨found, u, hfound, h⟩ := Action.on_bind_eq_ok.1 h
    obtain ⟨-, -, -, rfl, -⟩ := Session.on_query_eq_ok.1 hfound
    simp only [Action.on_pure, Prod.mk.injEq, Except.ok.injEq] at h
    rcases History.Filter.isOwn_withUser userId {} with hf | hf
    · simp [hf] at h
    · split_ifs at h
      · simp at h
      · have hx := List.find?_some h.1
        simp only [hf, Option.all_some, Bool.and_eq_true] at hx
        exact eq_of_beq hx.2

theorem ownReads (hs : s.working.Keyed) : OwnReads userId s where
  wallets _ _ _ h := own_of_list h
  wallet _ _ _ h := by
    obtain ⟨code, -, -, -, -, hfound, -⟩ := Wallets.on_find_eq_ok.1 h
    exact (Tables.walletOf?_eq_some hfound).2.1
  transactions _ _ _ _ _ _ huser h := own_of_listNamed huser h
  transaction _ _ _ h := own_of_getBy h
  endpoints c r e hits rates :=
    (sameReads (s.alike_alone userId) hs).endpoints c r e hits hits rates rates

end

/--
Reads are isolated between users. In two sessions that see the same rows of a user, and any rows at
all of others, whatever the user reads gets the same answer, and no answer holds a row of another
user.
-/
theorem reads_isolated {userId : Int} {s t : Session} (h : s.Alike userId t)
    (hs : s.working.Keyed) : SameReads userId s t ∧ OwnReads userId s :=
  ⟨sameReads h hs, ownReads hs⟩

/-- Hundred kobo that a user received. -/
def receipt (name : String) (userId : Int) : Transaction where
  id := name
  reference := "FND_" ++ name
  sessionId := "FND_" ++ name
  userId := userId
  walletId := "w"
  currency := "NGN"
  amount := 100
  flow := .credit
  kind := .funding
  status := .completed
  exchangeRate := "1.00000000"
  description := "Wallet funding - NGN"
  remarks := .null
  createdAt := ⟨⟨2024, 1, 15⟩, 12, 0, 0⟩
  updatedAt := ⟨⟨2024, 1, 15⟩, 12, 0, 0⟩

/-- A store in which the rows of a second user stand between those of the first. -/
def sharedStore : Session :=
  .ofTables
    { users := [{ id := 1 }, { id := 2 }]
      transactions := [receipt "A" 1, receipt "X" 2, receipt "B" 1] }
    ⟨⟨2024, 1, 15⟩, 12, 0, 0⟩

/-- A store in which the first user has the same rows, in another order and behind others. -/
def otherStore : Session :=
  .ofTables
    { users := [{ id := 3 }, { id := 1 }]
      transactions := [receipt "Y" 3, receipt "Z" 3, receipt "B" 1, receipt "A" 1] }
    ⟨⟨2024, 1, 15⟩, 12, 0, 0⟩

theorem reads_of_first_user_isolated :
    sharedStore.Alike 1 otherStore ∧ sharedStore.working.Keyed ∧
    ((History.listNamed (.int 1) (.int 1) [("user_id", .int 1)]).on otherStore).1.toOption.map
      (·.2) = some 2 ∧
    SameReads 1 sharedStore otherStore ∧ OwnReads 1 sharedStore := by
  have halike : sharedStore.Alike 1 otherStore := by
    refine ⟨⟨rfl, .refl _, ?_, .refl _⟩, rfl, rfl, rfl⟩
    exact List.Perm.swap (receipt "B" 1) (receipt "A" 1) []
  have hkeyed : sharedStore.working.Keyed := by constructor <;> decide +kernel
  exact ⟨halike, hkeyed, by decide +kernel, reads_isolated halike hkeyed⟩

end CurrencyLedger
