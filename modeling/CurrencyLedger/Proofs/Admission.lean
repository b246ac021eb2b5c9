import CurrencyLedger.Proofs.IntegerLiterals
import CurrencyLedger.Proofs.Senders

/-!
Whom a token admits.

A sender is admitted if the token proves an identifier under which the store knows an active user,
and refused with the status for that otherwise. Two things are not provided for. An identifier may
be a number of any length, but no statement can be made with one of more than 64 bits; and a moment
of the token may be of a kind in which there is no integer at all. Then the request fails where it
should have been refused. Nothing else comes of a token, whatever its claims are.
-/

namespace CurrencyLedger

/-! ### Values that are no moments -/

/-- Whether a value is of a kind that has no integer in it, however it is spelled. -/
def Value.isUncountable : Value → Bool
  | .null => true
  | .list _ => true
  | .object _ => true
  | .float (.infinite _) => true
  | .decimal (.infinite _) => true
  | _ => false

/-- How reading a value as an integer ends. -/
inductive Value.Integral (v : Value) : Except Failure Int → Prop
  | integer {n : Int} (h : v.isUncountable = false) : Integral v (.ok n)
  | misspelled {m : String} (h : v.isUncountable = false) : Integral v (.error (.badValue m))
  | tooLarge (h : v.isUncountable = true) : Integral v (.error .integerOverflow)
  | otherKind (h : v.isUncountable = true) : Integral v (.error .badKind)

theorem Value.integral (v : Value) : v.Integral v.toInteger := by
  cases v with
  | null => exact .otherKind rfl
  | bool b => exact .integer rfl
  | int n => exact .integer rfl
  | float x =>
    cases x with
    | finite s m e => exact .integer rfl
    | infinite s => exact .tooLarge rfl
    | nan => exact .misspelled rfl
  | decimal d =>
    cases d with
    | finite s c e => exact .integer rfl
    | infinite s => exact .tooLarge rfl
    | nan s g p => exact .misspelled rfl
  | text s =>
    rw [toInteger]
    split
    · exact .integer rfl
    · exact .misspelled rfl
    · exact .misspelled rfl
  | illFormed codes => exact .misspelled rfl
  | list items => exact .otherKind rfl
  | object fields => exact .otherKind rfl

namespace AccessToken

/-- A moment claim of a kind that no moment is of, at which reading it fails. -/
def Misfit (t : AccessToken) (name : String) (f : Failure) : Prop :=
  ∃ v, t.claims.lookup name = some v ∧ v.isUncountable = true ∧ v.toInteger = .error f

/-- A token of the server at whose moments the check fails, before it finds anything wrong. -/
inductive Baffles (t : AccessToken) (now : Int) (f : Failure) : Prop
  | issued (signed : t.signed = true) (h : t.Misfit "iat" f)
  | started (signed : t.signed = true)
    (issued : ∀ v, t.claims.lookup "iat" = some v → ∃ n, v.toInteger = .ok n)
    (h : t.Misfit "nbf" f)
  | expired (signed : t.signed = true)
    (issued : ∀ v, t.claims.lookup "iat" = some v → ∃ n, v.toInteger = .ok n)
    (started : ∀ v, t.claims.lookup "nbf" = some v → ∃ n, v.toInteger = .ok n ∧ n ≤ now)
    (h : t.Misfit "exp" f)

/-- A token with which the check of a sender cannot cope. -/
def Escapes (t : AccessToken) (now : Int) : Prop :=
  (∃ f, t.Baffles now f) ∨ ∃ id, t.Proves now id ∧ Column.fits id = false

section

variable {t : AccessToken} {now : Int} {f : Failure}

theorem momentClaim_eq_unforeseen {name : String} :
    momentClaim name t.claims = .error (.unforeseen f) ↔ t.Misfit name f := by
  rw [momentClaim, Misfit]
  cases t.claims.lookup name with
  | none => simp
  | some v =>
    have hv := v.integral
    dsimp only
    simp only [Option.some.injEq, exists_eq_left']
    generalize v.toInteger = r at hv
    cases hv with
    | integer h => simp
    | misspelled h => simp [h]
    | tooLarge h => simp [h]
    | otherKind h => simp [h]

theorem require_ne_unforeseen (b : Bool) : ¬require b = .error (.unforeseen f) := by
  cases b <;> simp [require]

/-- The moments are looked at in turn, and a token that is out of force is not looked at further. -/
theorem checkClaims_eq_unforeseen : checkClaims t.claims now = .error (.unforeseen f) ↔
    t.Misfit "iat" f ∨ (∀ v, t.claims.lookup "iat" = some v → ∃ n, v.toInteger = .ok n) ∧
      (t.Misfit "nbf" f ∨
        (∀ v, t.claims.lookup "nbf" = some v → ∃ n, v.toInteger = .ok n ∧ n ≤ now) ∧
          t.Misfit "exp" f) := by
  have hiat := momentClaim_all "iat" t.claims fun _ => true
  have hnbf := momentClaim_all "nbf" t.claims (· ≤ now)
  simp only [decide_eq_true_eq, and_true, Option.all_true] at hiat hnbf
  simp only [checkClaims, bind_eq_error, require_ne_unforeseen, require_eq_ok, false_or, and_false,
    exists_false, or_false, exists_const, ← hiat, ← hnbf, ← momentClaim_eq_unforeseen]
  constructor
  · rintro (hissue | ⟨_, hi, hstart | ⟨_, hn, hstarted, hend⟩⟩)
    · exact .inl hissue
    · exact .inr ⟨⟨_, hi⟩, .inl hstart⟩
    · exact .inr ⟨⟨_, hi⟩, .inr ⟨⟨_, hn, hstarted⟩, hend⟩⟩
  · rintro (hissue | ⟨⟨_, hi⟩, hstart | ⟨⟨_, hn, hstarted⟩, hend⟩⟩)
    · exact .inl hissue
    · exact .inr ⟨_, hi, .inl hstart⟩
    · exact .inr ⟨_, hi, .inr ⟨_, hn, hstarted, hend⟩⟩

theorem userId_eq_unforeseen : t.userId now = .error (.unforeseen f) ↔ t.Baffles now f := by
  have hchecks : t.userId now = .error (.unforeseen f) ↔
      t.signed = true ∧ checkClaims t.claims now = .error (.unforeseen f) := by
    simp only [userId, bind_eq_error, require_ne_unforeseen, require_eq_ok, false_or, exists_const]
    constructor
    · rintro ⟨hsigned, h | ⟨-, -, -, h⟩⟩
      · exact ⟨hsigned, h⟩
      · -- The subject is read or the token is invalid.
        split at h
        · split at h <;> cases h
        · cases h
    · rintro ⟨hsigned, h⟩
      exact ⟨hsigned, .inl h⟩
  rw [hchecks, checkClaims_eq_unforeseen]
  constructor
  · rintro ⟨hsigned, h | ⟨hissued, h | ⟨hstarted, h⟩⟩⟩
    · exact .issued hsigned h
    · exact .started hsigned hissued h
    · exact .expired hsigned hissued hstarted h
  · intro h
    cases h with
    | issued hsigned h => exact ⟨hsigned, .inl h⟩
    | started hsigned hissued h => exact ⟨hsigned, .inr ⟨hissued, .inl h⟩⟩
    | expired hsigned hissued hstarted h => exact ⟨hsigned, .inr ⟨hissued, .inr ⟨hstarted, h⟩⟩⟩

theorem Misfit.ofFailure {name : String} (h : t.Misfit name f) :
    Http.Answer.ofFailure f = .unforeseen := by
  obtain ⟨v, -, hkind, hf⟩ := h
  have hv := v.integral
  rw [hf] at hv
  cases hv with
  | misspelled hcountable => exact absurd hkind (by simp [hcountable])
  | tooLarge => rfl
  | otherKind => rfl

theorem Baffles.ofFailure (h : t.Baffles now f) : Http.Answer.ofFailure f = .unforeseen := by
  cases h with
  | issued _ h => exact h.ofFailure
  | started _ _ h => exact h.ofFailure
  | expired _ _ _ h => exact h.ofFailure

theorem Proves.literal {id : Int} (h : t.Proves now id) :
    ∃ s, t.claims.lookup "sub" = some (.text s) ∧ Text.IntegerLiteral s id := by
  obtain ⟨s, hs, hread⟩ := h.subject
  exact ⟨s, hs, Text.readInteger_eq_ok.1 hread⟩

end

end AccessToken

namespace Http

/-- A request about which nothing but its token and the stored users decides. -/
structure Undisturbed (r : Request) (s : Service) : Prop where
  free : r.poolBusy = false
  sound : s.session.aborted = false
  answering : s.session.faults .listRows = none

/-- How the check of a sender is to end: with an active user of the identifier, or a refusal. -/
inductive Decided (t : AccessToken) (s : Service) : Except Answer User × Service → Prop
  | admitted {u : User} {text : String} (hmem : u ∈ s.session.working.users)
    (hactive : u.active = true) (hsub : t.claims.lookup "sub" = some (.text text))
    (hid : Text.IntegerLiteral text u.id) : Decided t s (.ok u, s)
  | refused {a : Answer} (h : a.status = 401) : Decided t s (.error a, s)

section

variable {r : Request} {s : Service} {t : AccessToken} {a : Answer} {id : Int}

theorem on_authenticate_of_error (h : senderId r s.session.clock = .error a) :
    (authenticate r).on s = (.error a, s) := by
  have hclock : (Handler.act (.read Session.clock)).on s = (.ok s.session.clock, s) := rfl
  rw [authenticate, Handler.on_bind, hclock]
  simp only [h, Handler.on_stop]

/-- A sender is looked for if the identifier can be part of a statement. -/
theorem on_authenticate_of_ok (hs : Undisturbed r s) (h : senderId r s.session.clock = .ok id) :
    (authenticate r).on s =
      (if Column.fits id then
        match s.session.working.user? id with
        | some u => if u.active then .ok u else .error unknownUser
        | none => .error unknownUser
      else .error .unforeseen, s) := by
  have hclock : (Handler.act (.read Session.clock)).on s = (.ok s.session.clock, s) := rfl
  have hquery : (Handler.act (Session.query .listRows [id] fun t => t.user? id)).on s =
      (if Column.fits id then .ok (s.session.working.user? id) else .error .unforeseen, s) := by
    refine (run_act _ s).trans ?_
    rw [Session.query, Action.on_of]
    cases hfits : Column.fits id
    · simp [hs.answering, hs.sound, hfits, Except.mapError, Answer.ofFailure]
    · simp [hs.answering, hs.sound, hfits, Except.mapError]
  rw [authenticate, Handler.on_bind, hclock]
  simp only [h, hs.free, Bool.false_eq_true, if_false, Handler.on_bind, hquery]
  cases Column.fits id with
  | false => rfl
  | true =>
    cases s.session.working.user? id with
    | none => rfl
    | some u =>
      show (ite _ _ _ : Handler User).on s = _
      by_cases hactive : u.active = true
      · simp only [if_pos hactive]
        rfl
      · simp only [if_neg hactive]
        rfl

/-- A token that escapes makes the request fail. -/
theorem on_authenticate_of_escapes (hs : Undisturbed r s) (ht : r.credentials = .token t)
    (h : t.Escapes s.session.clock.sinceEpoch) :
    (authenticate r).on s = (.error .unforeseen, s) := by
  rcases h with ⟨f, hbaffles⟩ | ⟨id, hproves, hfits⟩
  · have hsender : senderId r s.session.clock = .error (.ofFailure f) := by
      simp only [senderId, ht, AccessToken.userId_eq_unforeseen.2 hbaffles]
    rw [on_authenticate_of_error hsender, hbaffles.ofFailure]
  · rw [on_authenticate_of_ok hs (senderId_eq_ok.2 ⟨t, ht, hproves⟩), if_neg (by simp [hfits])]

/-- Any other token is decided about. -/
theorem decided_of_not_escapes (hs : Undisturbed r s) (ht : r.credentials = .token t)
    (h : ¬t.Escapes s.session.clock.sinceEpoch) : Decided t s ((authenticate r).on s) := by
  cases hid : t.userId s.session.clock.sinceEpoch with
  | error fault =>
    cases fault with
    | invalid =>
      have hsender : senderId r s.session.clock = .error invalidToken := by
        simp only [senderId, ht, hid]
      rw [on_authenticate_of_error hsender]
      exact .refused rfl
    | unforeseen f => exact absurd (.inl ⟨f, AccessToken.userId_eq_unforeseen.1 hid⟩) h
  | ok id =>
    have hproves := AccessToken.userId_eq_ok.1 hid
    have hfits : Column.fits id = true := by
      by_contra hlong
      exact h (.inr ⟨id, hproves, by simpa using hlong⟩)
    rw [on_authenticate_of_ok hs (senderId_eq_ok.2 ⟨t, ht, hproves⟩), if_pos hfits]
    cases hu : s.session.working.user? id with
    | none => exact .refused rfl
    | some u =>
      have hsame : u.id = id := by simpa using List.find?_some hu
      obtain ⟨text, hsub, hliteral⟩ := hproves.literal
      dsimp only
      split_ifs with hactive
      · exact .admitted (List.mem_of_find?_eq_some hu) hactive hsub (hsame ▸ hliteral)
      · exact .refused rfl

/-- Whom a request admits: the active user that the store knows by what the token proves. -/
theorem on_authenticate_eq_ok (hs : Undisturbed r s) (ht : r.credentials = .token t) {u : User} :
    (authenticate r).on s = (.ok u, s) ↔
      t.Proves s.session.clock.sinceEpoch u.id ∧ Column.fits u.id = true ∧
        s.session.working.user? u.id = some u ∧ u.active = true := by
  constructor
  · intro h
    obtain ⟨hnamed, hknown, hactive⟩ := isSender_of_authenticate h
    obtain ⟨t', ht', hproves⟩ := senderId_eq_ok.1 hnamed
    obtain rfl := Credentials.token.inj (ht.symm.trans ht')
    refine ⟨hproves, ?_, hknown, hactive⟩
    by_contra hlong
    rw [on_authenticate_of_ok hs hnamed, if_neg hlong] at h
    cases h
  · rintro ⟨hproves, hfits, hknown, hactive⟩
    rw [on_authenticate_of_ok hs (senderId_eq_ok.2 ⟨t, ht, hproves⟩), if_pos hfits, hknown]
    simp only [hactive, if_true]

/--
Whatever the claims of a token are, and whoever is stored: the sender is the active user whose
identifier the subject of the token spells, or is refused with the status for that, unless the
token names an identifier of more than 64 bits or a moment of a kind that has no integer in it. Such
a token makes the request fail. Nothing has changed in any case, and no one is admitted but who is
proved by the token and known to the store.
-/
theorem sender_is_decided (hs : Undisturbed r s) (ht : r.credentials = .token t) :
    (¬t.Escapes s.session.clock.sinceEpoch → Decided t s ((authenticate r).on s)) ∧
    (t.Escapes s.session.clock.sinceEpoch → (authenticate r).on s = (.error .unforeseen, s)) ∧
    ∀ u, (authenticate r).on s = (.ok u, s) ↔
      t.Proves s.session.clock.sinceEpoch u.id ∧ Column.fits u.id = true ∧
        s.session.working.user? u.id = some u ∧ u.active = true :=
  ⟨decided_of_not_escapes hs ht, on_authenticate_of_escapes hs ht,
    fun _ => on_authenticate_eq_ok hs ht⟩

end

/-- A bearer of a subject, until noon. -/
def bearer (subject : String) : AccessToken where
  claims := [("sub", .text subject), ("type", .text AccessToken.accessType),
    ("exp", .int 1705320000)]
  signed := true

/-- A bearer of a subject, who says of the moment of issue that there is none. -/
def undatedBearer (subject : String) : AccessToken where
  claims := ("iat", .null) :: (bearer subject).claims
  signed := true

/-- Somebody asks for his wallets. -/
def ownWallets (t : AccessToken) : Request where
  target := ⟨"/api/v1/wallets", []⟩
  credentials := .token t

/-- A service of two users, of whom the second is active, at noon. -/
def smallOffice : Service where
  session := .ofTables { users := [{ id := 6, active := false }, { id := 17 }] }
    ⟨⟨2024, 1, 15⟩, 12, 0, 0⟩

theorem undisturbed_smallOffice (t : AccessToken) : Undisturbed (ownWallets t) smallOffice :=
  ⟨rfl, rfl, rfl⟩

theorem proves_bearer {subject : String} {id : Int} (h : Text.readInteger subject = .ok id) :
    (bearer subject).Proves smallOffice.session.clock.sinceEpoch id where
  signed := rfl
  issued v hv := by cases hv
  started v hv := by cases hv
  unexpired v hv := by
    cases hv
    exact ⟨1705320000, rfl, by decide⟩
  unaddressed := rfl
  numbered v hv := by cases hv
  unbound := rfl
  access := rfl
  subject := ⟨subject, rfl, h⟩

/-- A subject may be spelled in any script; a moment of issue that is null is fatal. -/
theorem seventeen_is_admitted :
    Undisturbed (ownWallets (bearer " +١_7\n")) smallOffice ∧
    (ownWallets (bearer " +١_7\n")).credentials = .token (bearer " +١_7\n") ∧
    (authenticate (ownWallets (bearer " +١_7\n"))).on smallOffice =
      (.ok { id := 17 }, smallOffice) ∧
    Decided (bearer " +١_7\n") smallOffice
      ((authenticate (ownWallets (bearer " +١_7\n"))).on smallOffice) ∧
    (undatedBearer "17").Escapes smallOffice.session.clock.sinceEpoch ∧
    (authenticate (ownWallets (undatedBearer "17"))).on smallOffice =
      (.error .unforeseen, smallOffice) := by
  have hs := undisturbed_smallOffice (bearer " +١_7\n")
  obtain ⟨hdecided, hescapes, hadmits⟩ := sender_is_decided hs rfl
  have hread : Text.readInteger " +١_7\n" = .ok 17 := by decide +kernel
  have hproves := proves_bearer hread
  have hadmitted := (hadmits { id := 17 }).2 ⟨hproves, by decide, by decide +kernel, rfl⟩
  have hundated : (undatedBearer "17").Escapes smallOffice.session.clock.sinceEpoch :=
    .inl ⟨.badKind, .issued rfl ⟨.null, rfl, rfl, rfl⟩⟩
  refine ⟨hs, rfl, hadmitted, hdecided fun h => ?_, hundated, ?_⟩
  · have := hescapes h
    rw [hadmitted] at this
    cases this
  · exact (sender_is_decided (undisturbed_smallOffice _) rfl).2.1 hundated

/-- A token of the server that is in force is not always decided about: its subject may be a number
that no statement can be made with. -/
theorem long_subject_is_not_decided : ¬∀ (r : Request) (s : Service) (t : AccessToken),
    Undisturbed r s → r.credentials = .token t → t.signed = true →
      (∀ v, t.claims.lookup "exp" = some v →
        ∃ n, v.toInteger = .ok n ∧ s.session.clock.sinceEpoch ≤ n) →
      Decided t s ((authenticate r).on s) := by
  intro h
  let t := bearer "9223372036854775808"
  have hs := undisturbed_smallOffice t
  have hproves : t.Proves smallOffice.session.clock.sinceEpoch 9223372036854775808 :=
    proves_bearer (by decide +kernel)
  have hdecided := h (ownWallets t) smallOffice t hs rfl rfl hproves.unexpired
  rw [on_authenticate_of_escapes hs rfl (.inr ⟨_, hproves, by decide⟩)] at hdecided
  cases hdecided with
  | refused hstatus => exact absurd hstatus (by decide)

end Http

end CurrencyLedger
