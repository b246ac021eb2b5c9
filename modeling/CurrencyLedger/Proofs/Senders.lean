import CurrencyLedger.Http.Access
import CurrencyLedger.Proofs.Statements

/-!
Who sends a request.

A token is accepted if it is the server's own, is in force, and says nothing that it may not say;
nothing in this depends on the role that it may speak of. The check of the sender changes nothing:
who does not pass it is refused, and who passes it is a user named by an accepted token, whom the
store knows and holds to be active. Whether that user is an administrator is said by the store.
-/

namespace CurrencyLedger

namespace AccessToken

/-! ### Tokens -/

/-- A token of the server that is in force at a moment and names the user of an identifier. -/
structure Proves (t : AccessToken) (now id : Int) : Prop where
  signed : t.signed = true
  /-- It says no moment of issue, or one that can be read. -/
  issued : ∀ v, t.claims.lookup "iat" = some v → ∃ n, v.toInteger = .ok n
  started : ∀ v, t.claims.lookup "nbf" = some v → ∃ n, v.toInteger = .ok n ∧ n ≤ now
  unexpired : ∀ v, t.claims.lookup "exp" = some v → ∃ n, v.toInteger = .ok n ∧ now ≤ n
  /-- It is addressed to no one in particular. -/
  unaddressed : t.claims.lookup "aud" = none
  numbered : ∀ v, t.claims.lookup "jti" = some v → v.isText = true
  /-- It is bound to no other token. -/
  unbound : t.claims.lookup "at_hash" = none
  access : t.claims.lookup "type" = some (.text accessType)
  subject : ∃ s, t.claims.lookup "sub" = some (.text s) ∧ Text.readInteger s = .ok id

theorem require_eq_ok {b : Bool} {x : Unit} : require b = .ok x ↔ b = true := by
  cases b <;> simp [require]

/-- A moment claim passes a test exactly if it is not there, or is an integer that passes it. -/
theorem momentClaim_all (name : String) (claims : List (String × Value)) (p : Int → Bool) :
    (∃ o, momentClaim name claims = .ok o ∧ o.all p = true) ↔
      ∀ v, claims.lookup name = some v → ∃ n, v.toInteger = .ok n ∧ p n = true := by
  rw [momentClaim]
  cases claims.lookup name with
  | none => simp
  | some v =>
    dsimp only
    cases hv : v.toInteger with
    | ok n => simp [hv]
    | error f => cases f <;> simp [hv]

theorem isTextIfPresent_iff (name : String) (claims : List (String × Value)) :
    isTextIfPresent name claims = true ↔ ∀ v, claims.lookup name = some v → v.isText = true := by
  rw [isTextIfPresent]
  cases claims.lookup name <;> simp

theorem givesAccess_iff (claims : List (String × Value)) :
    givesAccess claims = true ↔ claims.lookup "type" = some (.text accessType) := by
  rw [givesAccess]
  split
  · rename_i s hs
    simp [hs]
  · rename_i hno
    simp only [Bool.false_eq_true, false_iff]
    exact hno accessType

/-- The claims about a token itself are in order. -/
theorem checkClaims_eq_ok {claims : List (String × Value)} {now : Int} {x : Unit} :
    checkClaims claims now = .ok x ↔
      (∀ v, claims.lookup "iat" = some v → ∃ n, v.toInteger = .ok n) ∧
      (∀ v, claims.lookup "nbf" = some v → ∃ n, v.toInteger = .ok n ∧ n ≤ now) ∧
      (∀ v, claims.lookup "exp" = some v → ∃ n, v.toInteger = .ok n ∧ now ≤ n) ∧
      claims.lookup "aud" = none ∧
      (∀ v, claims.lookup "sub" = some v → v.isText = true) ∧
      (∀ v, claims.lookup "jti" = some v → v.isText = true) ∧
      claims.lookup "at_hash" = none := by
  have hiat := momentClaim_all "iat" claims fun _ => true
  have hnbf := momentClaim_all "nbf" claims (· ≤ now)
  have hexp := momentClaim_all "exp" claims (now ≤ ·)
  simp only [decide_eq_true_eq, and_true, Option.all_true] at hiat hnbf hexp
  simp only [checkClaims, bind_eq_ok, require_eq_ok, isTextIfPresent_iff,
    Option.isNone_iff_eq_none, ← hiat, ← hnbf, ← hexp]
  constructor
  · rintro ⟨iat, hi, nbf, hn, -, hstarted, ends, he, -, hends, -, haud, -, hsub, -, hjti, hhash⟩
    exact ⟨⟨iat, hi⟩, ⟨nbf, hn, hstarted⟩, ⟨ends, he, hends⟩, haud, hsub, hjti, hhash⟩
  · rintro ⟨⟨iat, hi⟩, ⟨nbf, hn, hstarted⟩, ⟨ends, he, hends⟩, haud, hsub, hjti, hhash⟩
    exact ⟨iat, hi, nbf, hn, (), hstarted, ends, he, (), hends, (), haud, (), hsub, (), hjti,
      hhash⟩

/-- What an accepted token proves, and nothing less is accepted. -/
theorem userId_eq_ok {t : AccessToken} {now id : Int} :
    t.userId now = .ok id ↔ t.Proves now id := by
  simp only [userId, bind_eq_ok, require_eq_ok, checkClaims_eq_ok, givesAccess_iff]
  constructor
  · rintro ⟨-, hsigned, -, ⟨hiat, hnbf, hexp, haud, -, hjti, hhash⟩, -, haccess, hid⟩
    refine ⟨hsigned, hiat, hnbf, hexp, haud, hjti, hhash, haccess, ?_⟩
    split at hid
    · rename_i s hs
      split at hid
      · rename_i n hn
        cases hid
        exact ⟨s, hs, hn⟩
      · cases hid
    · cases hid
  · rintro ⟨hsigned, hiat, hnbf, hexp, haud, hjti, hhash, haccess, s, hs, hn⟩
    have hsub : ∀ v, t.claims.lookup "sub" = some v → v.isText = true := by
      intro v hv
      obtain rfl := Option.some.inj (hs.symm.trans hv)
      rfl
    refine ⟨(), hsigned, (), ⟨hiat, hnbf, hexp, haud, hsub, hjti, hhash⟩, (), haccess, ?_⟩
    simp only [hs, hn]

/-- The token with its role claim replaced, or dropped. -/
def withRole (t : AccessToken) (role : Option Value) : AccessToken where
  claims := match role with
    | some v => Fields.set "role" v t.claims
    | none => Fields.erase "role" t.claims
  signed := t.signed

theorem lookup_withRole (t : AccessToken) (role : Option Value) {name : String}
    (hname : name ≠ "role") : (t.withRole role).claims.lookup name = t.claims.lookup name := by
  cases role with
  | none => exact (Fields.lookup_erase ..).trans (if_neg hname)
  | some v => exact (Fields.lookup_set ..).trans (if_neg hname)

/-- The role claim is read by nothing. -/
theorem userId_withRole (t : AccessToken) (role : Option Value) (now : Int) :
    (t.withRole role).userId now = t.userId now := by
  have hsigned : (t.withRole role).signed = t.signed := rfl
  have hclaim (name : String) (hname : name ≠ "role") := t.lookup_withRole role hname
  simp only [userId, checkClaims, momentClaim, isTextIfPresent, givesAccess, hsigned,
    hclaim "iat" (by decide), hclaim "nbf" (by decide), hclaim "exp" (by decide),
    hclaim "aud" (by decide), hclaim "sub" (by decide), hclaim "jti" (by decide),
    hclaim "at_hash" (by decide), hclaim "type" (by decide)]

end AccessToken

namespace Http

/-! ### Steps of handlers -/

variable {x y : Service}

theorem run_act (a : Action Session α) (x : Service) : (Handler.act a).run x =
    ((a.on x.session).1.mapError Answer.ofFailure, { x with session := (a.on x.session).2 }) := by
  simp only [Handler.act, ExceptT.run, ExceptT.mk]
  rcases a.on x.session with ⟨f | v, t⟩ <;> rfl

/-- An action that a handler goes on from has succeeded. -/
theorem act_eq_ok {a : Action Session α} {v : α} (h : (Handler.act a).run x = (.ok v, y)) :
    a.on x.session = (.ok v, y.session) := by
  rw [run_act] at h
  rcases hr : a.on x.session with ⟨f | w, t⟩
  all_goals
    rw [hr] at h
    cases h
  rfl

theorem isSuccess_ofFailure (f : Failure) : (Answer.ofFailure f).isSuccess = false := by
  cases f with
  | ledger e =>
    have hstatus : e.kind.status ∈ [400, 404, 409, 422, 500, 504] := by cases e.kind <;> decide
    simp only [List.mem_cons, List.not_mem_nil, or_false] at hstatus
    rcases hstatus with h | h | h | h | h | h <;> simp [Answer.ofFailure, Answer.refused,
      Answer.isSuccess, h]
  | _ => rfl

/-- From a service a handler refuses, and leaves the service as it is. -/
def Refuses (h : Handler α) (s : Service) : Prop :=
  ∃ a, h.on s = (.error a, s) ∧ a.isSuccess = false

namespace Refuses

variable {α β : Type} {h : Handler α} {s : Service}

theorem stop {a : Answer} (ha : a.isSuccess = false) :
    Refuses (Handler.stop a : Handler α) s := ⟨a, rfl, ha⟩

/-- What comes after a refusal does not happen. -/
theorem bind (hh : Refuses h s) (f : α → Handler β) : Refuses (h >>= f) s := by
  obtain ⟨a, hon, ha⟩ := hh
  exact ⟨a, by rw [Handler.on_bind, hon], ha⟩

end Refuses

/-! ### Senders -/

theorem refused_of_senderId {r : Request} {now : Moment} {a : Answer}
    (h : senderId r now = .error a) : a.isSuccess = false := by
  rw [senderId] at h
  split at h
  · cases h
    rfl
  · cases h
    split_ifs <;> rfl
  · split at h
    · cases h
    · cases h
      rfl
    · cases h
      exact isSuccess_ofFailure _

theorem senderId_eq_ok {r : Request} {now : Moment} {id : Int} :
    senderId r now = .ok id ↔
      ∃ t, r.credentials = .token t ∧ t.Proves now.sinceEpoch id := by
  simp only [← AccessToken.userId_eq_ok]
  rw [senderId]
  cases r.credentials with
  | absent => simp
  | other header => simp
  | token t =>
    dsimp only
    cases ht : t.userId now.sinceEpoch with
    | ok n => simp [ht]
    | error f => cases f <;> simp [ht]

/-- The user whom a request comes from, who is named by it, known and active. -/
structure IsSender (u : User) (r : Request) (s : Service) : Prop where
  named : senderId r s.session.clock = .ok u.id
  known : s.session.working.user? u.id = some u
  active : u.active = true

/-- A sender passes the check, or the request is refused; nothing has changed either way. -/
theorem authenticate_cases (r : Request) (s : Service) :
    (∃ u, (authenticate r).on s = (.ok u, s) ∧ IsSender u r s) ∨ Refuses (authenticate r) s := by
  rw [authenticate]
  have hclock : (Handler.act (.read Session.clock)).on s = (.ok s.session.clock, s) := rfl
  rw [Refuses, Handler.on_bind, hclock]
  dsimp only
  cases hsender : senderId r s.session.clock with
  | error a => exact .inr ⟨a, rfl, refused_of_senderId hsender⟩
  | ok id =>
    dsimp only
    split_ifs
    · exact .inr ⟨busy, rfl, rfl⟩
    have hact : (Handler.act (Session.query .listRows [id] fun t => t.user? id)).on s = _ :=
      run_act _ s
    rw [Handler.on_bind, hact, Session.on_query_snd]
    cases hfound : ((Session.query .listRows [id] fun t => t.user? id).on s.session).1 with
    | error f => exact .inr ⟨_, rfl, isSuccess_ofFailure f⟩
    | ok found =>
      cases found with
      | none => exact .inr ⟨_, rfl, rfl⟩
      | some u =>
        obtain ⟨-, -, -, huser, -⟩ := Session.on_query_eq_ok.1 (Prod.ext hfound rfl)
        have hid : u.id = id := by simpa using List.find?_some huser
        show (∃ v, (ite _ _ _ : Handler User).on s = _ ∧ _) ∨
          ∃ a, (ite _ _ _ : Handler User).on s = _ ∧ _
        by_cases hactive : u.active = true
        · simp only [if_pos hactive]
          exact .inl ⟨u, rfl, hid ▸ hsender, hid ▸ huser, hactive⟩
        · simp only [if_neg hactive]
          exact .inr ⟨_, rfl, rfl⟩

theorem isSender_of_authenticate {r : Request} {s t : Service} {u : User}
    (h : (authenticate r).on s = (.ok u, t)) : IsSender u r s := by
  rcases authenticate_cases r s with ⟨v, hon, hv⟩ | ⟨a, hon, -⟩
  all_goals
    rw [hon] at h
    cases h
  exact hv

theorem authenticateAdmin_cases (r : Request) (s : Service) :
    (∃ u, IsSender u r s ∧ u.role = .admin) ∨ Refuses (authenticateAdmin r) s := by
  rcases authenticate_cases r s with ⟨u, hon, hu⟩ | hrefuses
  · by_cases hrole : u.role = .admin
    · exact .inl ⟨u, hu, hrole⟩
    · refine .inr ⟨adminRequired, ?_, rfl⟩
      rw [authenticateAdmin, Handler.on_bind, hon]
      simp only [if_neg hrole]
      rfl
  · exact .inr (hrefuses.bind _)

end Http

end CurrencyLedger
