import CurrencyLedger.Proofs.Answers

/-!
Who is answered.

Every endpoint of the ledger begins with the check of its sender, some after reading the body, and
the paths of administrators lead to endpoints that check for one. So a request that does not pass is
refused and has done nothing at all. Beyond its sender nothing of a token reaches an endpoint, least
of all what it says of a role.
-/

namespace CurrencyLedger.Http

/-! ### Endpoints -/

namespace Endpoint

/-- Whether an endpoint belongs to the ledger. -/
def isGuarded : Endpoint → Bool
  | .root => false
  | .health => false
  | .readiness => false
  | .manual => false
  | _ => true

/-- Whether an endpoint is for administrators. -/
def isAdmin : Endpoint → Bool
  | .allTransactions => true
  | .allWallets => true
  | .fundUser => true
  | _ => false

/-- The check of the sender that an endpoint begins with. -/
def gate (r : Request) (e : Endpoint) : Handler User :=
  if e.isAdmin then authenticateAdmin r else authenticate r

/-- Where the paths of administrators begin. -/
def adminBase : String := base ++ "/admin"

theorem eq_append_of_dropLineBreak (path : String) :
    ∃ tail ∈ [[], ['\n']], path.toList = (dropLineBreak path).toList ++ tail := by
  rw [dropLineBreak]
  split
  · rename_i cs hcs
    refine ⟨['\n'], by simp, ?_⟩
    rw [String.toList_ofList, ← List.reverse_reverse path.toList, hcs, List.reverse_cons]
  · exact ⟨[], by simp, (List.append_nil _).symm⟩

/-- The path says that an endpoint belongs to the ledger, and which ones are for administrators. -/
theorem isGuarded_of_ofPath? {path : String} {e : Endpoint} (h : ofPath? path = some e)
    (hbase : base.toList <+: path.toList) :
    e.isGuarded = true ∧ (adminBase.toList <+: path.toList → e.isAdmin = true) := by
  rw [ofPath?] at h
  split at h
  · rename_i e' hlookup
    cases h
    have hfixed : ∀ x ∈ fixed, ∀ tail ∈ [[], ['\n']], base.toList <+: x.1.toList ++ tail →
        x.2.isGuarded = true ∧ (adminBase.toList <+: x.1.toList ++ tail → x.2.isAdmin = true) := by
      decide +kernel
    obtain ⟨l, l', hl, -⟩ := List.lookup_eq_some_iff.1 hlookup
    obtain ⟨tail, htail, hpath⟩ := eq_append_of_dropLineBreak path
    rw [hpath] at hbase ⊢
    exact hfixed (dropLineBreak path, e) (by simp [hl]) tail htail hbase
  · obtain ⟨id, hid, rfl⟩ := Option.map_eq_some_iff.1 h
    refine ⟨rfl, fun hadmin => ?_⟩
    rw [transactionId?] at hid
    split_ifs at hid with hprefix
    · -- A path does not begin in two ways.
      have hbegins := List.isPrefixOf_iff_prefix.1 hprefix
      rcases List.prefix_or_prefix_of_prefix hadmin hbegins with h | h
      · exact absurd h (by decide +kernel)
      · exact absurd h (by decide +kernel)

end Endpoint

/-- The check of an endpoint is passed by senders alone, where it matters only by administrators. -/
theorem gate_or_refuses (e : Endpoint) (r : Request) (s : Service) :
    (∃ u, IsSender u r s ∧ (e.isAdmin = true → u.role = .admin)) ∨ Refuses (e.gate r) s := by
  rw [Endpoint.gate]
  split_ifs with hadmin
  · exact (authenticateAdmin_cases r s).imp_left fun ⟨u, hu, hrole⟩ => ⟨u, hu, fun _ => hrole⟩
  · refine (authenticate_cases r s).imp_left fun ⟨u, _, hu⟩ => ⟨u, hu, fun h => ?_⟩
    exact absurd h hadmin

/-- Whom the check refuses, the endpoint refuses. -/
theorem refuses_answerAt (c : Configuration) {r : Request} {s : Service} {e : Endpoint}
    (he : e.isGuarded = true) (h : Refuses (e.gate r) s) : Refuses (answerAt c r e) s := by
  have hbody {f : Option Value → Handler Answer} (hf : ∀ v, Refuses (f v) s) :
      Refuses (withBody r f) s := by
    rw [withBody]
    cases hdocument : readDocument r with
    | ok v => exact hf v
    | error a => exact .stop (refused_of_readDocument hdocument)
  cases e with
  | wallets => exact h.bind _
  | fund => exact hbody fun _ => h.bind _
  | convert => exact hbody fun _ => h.bind _
  | trade => exact hbody fun _ => h.bind _
  | fundUser => exact hbody fun _ => h.bind _
  | transactions => exact h.bind _
  | transaction id => exact h.bind _
  | activities => exact h.bind _
  | allTransactions => exact h.bind _
  | allWallets => exact h.bind _
  | root => cases he
  | health => cases he
  | readiness => cases he
  | manual => cases he

/-! ### Answers -/

/-- A user who may send a request: named by a token of the server, known, and active. -/
structure Authorized (r : Request) (s : Service) (u : User) : Prop where
  token : ∃ t, r.credentials = .token t ∧ t.Proves s.session.clock.sinceEpoch u.id
  known : s.session.working.user? u.id = some u
  active : u.active = true
  /-- What is for administrators is asked for by one. -/
  admin : Endpoint.adminBase.toList <+: r.target.path.toList → u.role = .admin

/-- Nothing but a refusal comes of a request that nobody may send. -/
theorem serve_refuses (c : Configuration) {r : Request} {s : Service}
    (hmethod : r.method ≠ "OPTIONS") (hbase : Endpoint.base.toList <+: r.target.path.toList)
    (h : ¬∃ u, Authorized r s u) :
    (serve c r s).1.isSuccess = false ∧ (serve c r s).2 = s := by
  have hpreflight : preflight? c r = none := by rw [preflight?, if_neg hmethod]
  rw [serve_eq_trimBody, handle, hpreflight]
  dsimp only
  cases hroute : route r.method r.target.path with
  | endpoint e =>
    obtain ⟨hpath, -⟩ := route_eq_endpoint hroute
    obtain ⟨hguarded, hadmin⟩ := Endpoint.isGuarded_of_ofPath? hpath hbase
    rcases gate_or_refuses e r s with ⟨u, hu, hrole⟩ | hrefuses
    · exact absurd ⟨u, senderId_eq_ok.1 hu.named, hu.known, hu.active, hrole ∘ hadmin⟩ h
    · obtain ⟨a, hon, ha⟩ := refuses_answerAt c hguarded hrefuses
      dsimp only
      rw [hon]
      exact ⟨(isSuccess_trimBody ..).trans ha, rfl⟩
  | otherMethod => exact ⟨isSuccess_trimBody .., rfl⟩
  | redirect => exact ⟨isSuccess_trimBody .., rfl⟩
  | nowhere => exact ⟨isSuccess_trimBody .., rfl⟩

/-- However many requests come that nobody may send, the service stays as it is. -/
theorem serveAll_refuses (c : Configuration) {rs : List Request} {s : Service}
    (h : ∀ r ∈ rs, r.method ≠ "OPTIONS" ∧ Endpoint.base.toList <+: r.target.path.toList ∧
      ¬∃ u, Authorized r s u) : serveAll c rs s = s := by
  induction rs with
  | nil => rfl
  | cons r rs ih =>
    obtain ⟨⟨hmethod, hbase, hnone⟩, hrest⟩ := List.forall_mem_cons.1 h
    rw [serveAll, List.foldl_cons, (serve_refuses c hmethod hbase hnone).2]
    exact ih hrest

/-- The request with the role claim of its token replaced, or dropped. -/
def Request.withRole (r : Request) (role : Option Value) : Request :=
  { r with credentials := match r.credentials with
      | .token t => .token (t.withRole role)
      | k => k }

theorem senderId_withRole (r : Request) (role : Option Value) (now : Moment) :
    senderId (r.withRole role) now = senderId r now := by
  simp only [senderId, Request.withRole]
  cases r.credentials with
  | absent => rfl
  | other header => rfl
  | token t => simp only [AccessToken.userId_withRole]

theorem authenticate_withRole (r : Request) (role : Option Value) :
    authenticate (r.withRole role) = authenticate r := by
  simp only [authenticate, senderId_withRole]
  rfl

theorem authenticateAdmin_withRole (r : Request) (role : Option Value) :
    authenticateAdmin (r.withRole role) = authenticateAdmin r := by
  rw [authenticateAdmin, authenticate_withRole]
  rfl

/-- A provider is asked the same, for the time and the service of rates are the same. -/
theorem askRate_withRole (r : Request) (role : Option Value) :
    askRate (r.withRole role) = askRate r := by
  have hmarket (s : Service) : s.market (r.withRole role) = s.market r := rfl
  funext p ends
  simp only [askRate, hmarket]

/-- Endpoints know of the credentials what the check of the sender says of them. -/
theorem answerAt_withRole (c : Configuration) (r : Request) (role : Option Value) (e : Endpoint) :
    answerAt c (r.withRole role) e = answerAt c r e := by
  have huser := authenticate_withRole r role
  have hadmin := authenticateAdmin_withRole r role
  have hrate := askRate_withRole r role
  have hbody {f g : Option Value → Handler Answer} (h : ∀ v, f v = g v) :
      withBody (r.withRole role) f = withBody r g := congrArg (withBody r) (funext h)
  cases e with
  | wallets => simp only [answerAt, listWallets, huser]; rfl
  | fund => exact hbody fun v => by rw [fund, huser]; rfl
  | convert => exact hbody fun v => by rw [convert, huser, hrate]; rfl
  | trade => exact hbody fun v => by rw [trade, huser, hrate]; rfl
  | fundUser => exact hbody fun v => by rw [fundUser, hadmin]; rfl
  | transactions => simp only [answerAt, listTransactions, huser]; rfl
  | transaction id => simp only [answerAt, showTransaction, huser]
  | activities => simp only [answerAt, listActivities, huser]; rfl
  | allTransactions => simp only [answerAt, listAllTransactions, hadmin]; rfl
  | allWallets => simp only [answerAt, listAllWallets, hadmin]; rfl
  | _ => rfl

theorem serve_withRole (c : Configuration) (r : Request) (role : Option Value) (s : Service) :
    serve c (r.withRole role) s = serve c r s := by
  have hhandle : handle c (r.withRole role) = handle c r := by
    simp only [handle, answerAt_withRole]
    rfl
  rw [serve, hhandle]
  rfl

/--
Whoever is answered may ask. A request for a path of the ledger, by any method but the one of
browsers' questions, is answered with success, or changes anything at all, only if its token is the
server's own, in force, and names an active user of the store; for a path of administrators, that
user is one in the store. What the token says of its bearer's role makes no difference to the answer
or to the service after it.
-/
theorem authorization_gate (c : Configuration) (r : Request) (s : Service)
    (hmethod : r.method ≠ "OPTIONS") (hbase : Endpoint.base.toList <+: r.target.path.toList) :
    ((serve c r s).1.isSuccess = true ∨ (serve c r s).2 ≠ s → ∃ u, Authorized r s u) ∧
      ∀ role : Option Value, serve c (r.withRole role) s = serve c r s := by
  refine ⟨fun h => ?_, fun role => serve_withRole c r role s⟩
  by_contra hnone
  obtain ⟨hrefused, hsame⟩ := serve_refuses c hmethod hbase hnone
  rcases h with hsuccess | hchanged
  · rw [hrefused] at hsuccess
    cases hsuccess
  · exact hchanged hsame

/-- A service on a store with an administrator and a user. -/
def office : Service where
  session := .ofTables { users := [{ id := 1, role := .admin }, { id := 2 }] }
    ⟨⟨2024, 1, 15⟩, 12, 0, 0⟩

/-- Somebody asks for all wallets, by a token that says of a role what it likes. -/
def overview (subject role : String) : Request where
  target := ⟨"/api/v1/admin/wallets", []⟩
  credentials := .token
    ⟨[("sub", .text subject), ("role", .text role), ("type", .text "access")], true⟩

theorem administrator_passes_gate :
    (overview "1" "user").method ≠ "OPTIONS" ∧
      Endpoint.base.toList <+: (overview "1" "user").target.path.toList ∧
      (serve twoForOne (overview "1" "user") office).1.isSuccess = true ∧
      (∃ u, Authorized (overview "1" "user") office u) ∧
      serve twoForOne (overview "2" "admin") office = serve twoForOne (overview "2" "user") office ∧
      (serve twoForOne (overview "2" "user") office).1.status = 403 := by
  have hmethod : "GET" ≠ "OPTIONS" := by decide
  have hbase : Endpoint.base.toList <+: "/api/v1/admin/wallets".toList := by decide +kernel
  have hsuccess : (serve twoForOne (overview "1" "user") office).1.isSuccess = true := by
    decide +kernel
  have hadmin := authorization_gate twoForOne (overview "1" "user") office hmethod hbase
  have huser := authorization_gate twoForOne (overview "2" "user") office hmethod hbase
  have hclaimed : overview "2" "admin" = (overview "2" "user").withRole (some (.text "admin")) := by
    simp [overview, Request.withRole, AccessToken.withRole, Fields.set]
  refine ⟨hmethod, hbase, hsuccess, hadmin.1 (.inl hsuccess), ?_, by decide +kernel⟩
  rw [hclaimed]
  exact huser.2 _

end CurrencyLedger.Http
