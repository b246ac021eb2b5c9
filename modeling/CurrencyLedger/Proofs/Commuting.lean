import CurrencyLedger.Proofs.Outcomes
import CurrencyLedger.Proofs.Pairing

/-!
Calls of different users commute.

On what users hold, an operation looks at the entries of its user and changes no others. So what an
undisturbed call comes to depends on what its user holds and on nothing else in the store, and it
leaves that of everybody else alone. Of two calls of different users each one therefore meets the
same, whether the other one was made before it or not, and whether that one succeeded or failed.
-/

namespace CurrencyLedger

open Operation

namespace Holdings

/-- An operation that looks at the entries of one user and changes no others. -/
structure Own (userId : Int) (f : Holdings → Except Failure Holdings) : Prop where
  /-- What it leaves to the user, or how it fails, depends on what the user held. -/
  congr : ∀ h h', h userId = h' userId → (f h).map (· userId) = (f h').map (· userId)
  others : ∀ h held, f h = .ok held → ∀ v, v ≠ userId → held v = h v

namespace Own

variable {userId : Int} {f g : Holdings → Except Failure Holdings}

/-- One operation after another. -/
theorem comp (hf : Own userId f) (hg : Own userId g) : Own userId fun h => f h >>= g := by
  refine ⟨fun h h' hsame => ?_, fun h held hheld v hv => ?_⟩
  · have hfirst := hf.congr h h' hsame
    cases ha : f h with
    | error e =>
      rw [ha] at hfirst
      cases hb : f h' with
      | error e' =>
        rw [hb] at hfirst
        cases hfirst
        rfl
      | ok b => simp [hb, Except.map] at hfirst
    | ok a =>
      rw [ha] at hfirst
      cases hb : f h' with
      | error e' => simp [hb, Except.map] at hfirst
      | ok b =>
        rw [hb] at hfirst
        exact hg.congr a b (Except.ok.inj hfirst)
  · obtain ⟨a, ha, hb⟩ := bind_eq_ok.1 hheld
    rw [hg.others a held hb v hv, hf.others h a ha v hv]

/-- An operation behind a check. -/
theorem check (r : Except Failure α) {f : α → Holdings → Except Failure Holdings}
    (hf : ∀ x, r = .ok x → Own userId (f x)) : Own userId fun h => r >>= fun x => f x h := by
  cases r with
  | error e => exact ⟨fun _ _ _ => rfl, fun _ _ hheld => by cases hheld⟩
  | ok x => exact hf x rfl

end Own

theorem set_own {h h' : Holdings} {userId : Int} (hsame : h userId = h' userId) (currency : String)
    (n : Nat) : h.set userId currency n userId = h'.set userId currency n userId := by
  funext c
  simp only [set, true_and, hsame]

theorem set_others (h : Holdings) {userId v : Int} (hv : v ≠ userId) (currency : String) (n : Nat) :
    h.set userId currency n v = h v := by
  funext c
  simp only [set, hv, false_and, if_false]

theorem own_take (userId : Int) (currency : String) (amount : Nat) :
    Own userId fun h => h.take userId currency amount := by
  refine ⟨fun h h' hsame => ?_, fun h held hheld v hv => ?_⟩
  · simp only [take, ← hsame]
    cases h userId currency with
    | none => rfl
    | some balance =>
      simp only
      split_ifs
      · rfl
      · simp only [Except.map, set_own hsame]
  · simp only [take] at hheld
    split at hheld
    · cases hheld
    · split_ifs at hheld
      cases hheld
      exact set_others h hv currency _

theorem own_give (userId : Int) (currency : String) (amount : Nat) :
    Own userId fun h => h.give userId currency amount := by
  refine ⟨fun h h' hsame => ?_, fun h held hheld v hv => ?_⟩
  · simp only [give, ← hsame]
    split_ifs
    · simp only [Except.map, set_own hsame]
    · rfl
  · simp only [give] at hheld
    split_ifs at hheld
    cases hheld
    exact set_others h hv currency _

end Holdings

namespace Operation

open Session Holdings

theorem Order.own_onHoldings (userId : Int) (order : Order) :
    Own userId fun h => order.onHoldings userId h := by
  have hplan (plan : Exchange.Plan) :
      Own userId fun h => Order.onHoldings.onPlan userId h plan :=
    .check (requireUser userId) fun _ _ => (own_take ..).comp (own_give ..)
  cases order with
  | funding n code => exact .check (requireUser userId) fun _ _ => own_give ..
  | conversion c => exact hplan c.plan
  | trade t => exact hplan t.plan

/-- A call looks at what its user holds, and changes nothing else. -/
theorem Call.own_onHoldings (c : Call) : Own c.userId fun h => c.onHoldings h := by
  simp only [Call.onHoldings_eq]
  exact .check c.order fun order _ => order.own_onHoldings c.userId

/-! ### Calls under conditions -/

/-- The outcome of a call that is made under conditions, and the session after it. -/
def Call.made (c : Call) (o : Options) (k : Conditions) (s : Session) :
    Except Failure Answer × Session := (c.run o).on (under s k)

/--
Nothing goes wrong by itself when a call is made on tables: no statement is bound to fail and no
rival is near, the time limit can be told and does not pass, and the names to be drawn are new.
-/
structure Favourable (c : Call) (o : Options) (k : Conditions) (t : Tables) : Prop where
  faults : ∀ st, k.faults st = none
  rival : k.rival = none
  limit : ∀ l, UnitOfWork.effective? o.limit = some l → k.dialect = .postgresql →
    ∃ ms, l.milliseconds = .ok ms
  inTime : UnitOfWork.overrun? o.limit k.elapsed = none
  rows : FreshRows c.kind.mark c.legs k.names t
  wallet : FreshWallet k.names t

section

variable {c : Call} {o : Options} {k l : Conditions} {s t : Session}

/-- On a store with nothing pending, such a call is undisturbed. -/
theorem Favourable.undisturbed (h : Favourable c o k s.committed) (hs : Settled s)
    (hlawful : s.committed.Lawful) : Undisturbed c o (under s k) :=
  ⟨⟨hs.working, hs.aborted⟩, hlawful, h.faults, h.rival, h.limit, h.inTime, h.rows, h.wallet⟩

/-- It leaves the store as it should be. -/
theorem Undisturbed.sound (h : Undisturbed c o s) :
    Settled ((c.run o).on s).2 ∧ ((c.run o).on s).2.committed.Lawful := by
  have hfits : RivalFits s := fun r hr => by rw [h.rival] at hr; cases hr
  have heffect := c.effect o h.settled h.lawful hfits
  exact ⟨heffect.settled, heffect.lawful h.lawful hfits⟩

/-- It leaves other users alone. -/
theorem Undisturbed.leaves (h : Undisturbed c o s) :
    s.committed.Spares c.userId ((c.run o).on s).2.committed ∧
    ∀ v, v ≠ c.userId →
      ((c.run o).on s).2.committed.holdings v = s.committed.holdings v := by
  have houtcome := h.outcome
  cases hheld : c.onHoldings s.committed.holdings with
  | error f =>
    rw [hheld] at houtcome
    obtain ⟨t, ht, hcommitted⟩ := houtcome
    rw [ht, hcommitted]
    exact ⟨.refl .., fun _ _ => rfl⟩
  | ok held =>
    rw [hheld] at houtcome
    obtain ⟨order, answer, t, -, ht, hholdings, hperformed, -⟩ := houtcome
    rw [ht, hholdings]
    exact ⟨hperformed.spares h.lawful, c.own_onHoldings.others _ _ hheld⟩

/-- What a call has come to in two sessions is the same: for the caller, for its user, on record. -/
structure SameFor (c : Call) (o : Options) (s t : Session) : Prop where
  reports : ((c.run o).on s).1.map (·.report) = ((c.run o).on t).1.map (·.report)
  holdings : ((c.run o).on s).2.committed.holdings c.userId =
    ((c.run o).on t).2.committed.holdings c.userId
  rows : ∃ said, ((c.run o).on s).2.committed.transactions.map (·.content) =
      s.committed.transactions.map (·.content) ++ said ∧
    ((c.run o).on t).2.committed.transactions.map (·.content) =
      t.committed.transactions.map (·.content) ++ said

/-- A call comes to the same wherever its user holds the same. -/
theorem Undisturbed.sameFor (hs : Undisturbed c o s) (ht : Undisturbed c o t)
    (hsame : s.committed.holdings c.userId = t.committed.holdings c.userId) :
    SameFor c o s t := by
  have hown := c.own_onHoldings.congr _ _ hsame
  have hdone := hs.outcome
  have hdone' := ht.outcome
  cases hheld : c.onHoldings s.committed.holdings with
  | error f =>
    cases hheld' : c.onHoldings t.committed.holdings with
    | ok held' => simp [hheld, hheld', Except.map] at hown
    | error f' =>
      obtain rfl : f = f' := by simpa [hheld, hheld', Except.map] using hown
      rw [hheld] at hdone
      rw [hheld'] at hdone'
      obtain ⟨u, hu, hcommitted⟩ := hdone
      obtain ⟨u', hu', hcommitted'⟩ := hdone'
      refine ⟨by rw [hu, hu'], ?_, [], ?_⟩
      · rw [hu, hu', hcommitted, hcommitted', hsame]
      · rw [hu, hu', hcommitted, hcommitted', List.append_nil, List.append_nil]
        exact ⟨rfl, rfl⟩
  | ok held =>
    cases hheld' : c.onHoldings t.committed.holdings with
    | error f' => simp [hheld, hheld', Except.map] at hown
    | ok held' =>
      have hleft : held c.userId = held' c.userId := by simpa [hheld, hheld', Except.map] using hown
      rw [hheld] at hdone
      rw [hheld'] at hdone'
      obtain ⟨order, answer, u, horder, hu, rfl, hperformed, hreport⟩ := hdone
      obtain ⟨order', answer', u', horder', hu', rfl, hperformed', hreport'⟩ := hdone'
      obtain rfl : order = order' := Except.ok.inj (horder.symm.trans horder')
      have hcontents := hperformed.contents_eq hperformed'
      refine ⟨?_, by rw [hu, hu']; exact hleft, answer.rows.map (·.content), ?_, ?_⟩
      · rw [hu, hu']
        simp only [Except.map, hreport, hreport', hcontents]
      · rw [hu, hperformed.transactions, List.map_append]
      · rw [hu', hperformed'.transactions, List.map_append, hcontents]

end

/--
What comes of two calls is the same in both orders: `first` and `second` are the outcomes of `c` and
then `d`, `first'` and `second'` those of `d` and then `c`.
-/
structure Commuted (c d : Call) (s : Session)
    (first second first' second' : Except Failure Answer × Session) : Prop where
  reports_left : first.1.map (·.report) = second'.1.map (·.report)
  reports_right : second.1.map (·.report) = first'.1.map (·.report)
  holdings : second.2.committed.holdings = second'.2.committed.holdings
  rows : (second.2.committed.transactions.map (·.content)).Perm
    (second'.2.committed.transactions.map (·.content))
  /-- Neither call touches a row of another user, whether it comes first or second. -/
  spares_left : s.committed.Spares c.userId first.2.committed ∧
    first'.2.committed.Spares c.userId second'.2.committed
  spares_right : first.2.committed.Spares d.userId second.2.committed ∧
    s.committed.Spares d.userId first'.2.committed

/--
Calls of different users commute, on any store with nothing pending: under conditions in which
nothing goes wrong by itself, each has the same outcome in both orders, and in the end users hold
the same and the rows say the same.
-/
theorem calls_of_different_users_commute {c d : Call} {o p : Options} {s : Session}
    {k l l' k' : Conditions} (husers : c.userId ≠ d.userId) (hs : Settled s)
    (hlawful : s.committed.Lawful) (hc : Favourable c o k s.committed)
    (hd : Favourable d p l (c.made o k s).2.committed) (hd' : Favourable d p l' s.committed)
    (hc' : Favourable c o k' (d.made p l' s).2.committed) :
    Commuted c d s (c.made o k s) (d.made p l (c.made o k s).2) (d.made p l' s)
      (c.made o k' (d.made p l' s).2) := by
  have hfirst := hc.undisturbed hs hlawful
  have hfirst' := hd'.undisturbed hs hlawful
  have hsecond := hd.undisturbed hfirst.sound.1 hfirst.sound.2
  have hsecond' := hc'.undisturbed hfirst'.sound.1 hfirst'.sound.2
  obtain ⟨hspares, hkept⟩ := hfirst.leaves
  obtain ⟨hspares', hkept'⟩ := hfirst'.leaves
  obtain ⟨hspared, hstay⟩ := hsecond.leaves
  obtain ⟨hspared', hstay'⟩ := hsecond'.leaves
  -- Each call meets what its user held at first, whether it comes first or second.
  have hleft := hfirst.sameFor hsecond' (hkept' _ husers).symm
  have hright := hsecond.sameFor hfirst' (hkept _ husers.symm)
  refine ⟨hleft.reports, hright.reports, ?_, ?_, ⟨hspares, hspared'⟩, ⟨hspared, hspares'⟩⟩
  · funext v
    by_cases hv : v = c.userId
    · subst hv
      exact (hstay _ husers).trans hleft.holdings
    · by_cases hv' : v = d.userId
      · subst hv'
        exact hright.holdings.trans (hstay' _ husers.symm).symm
      · exact ((hstay v hv').trans (hkept v hv)).trans
          ((hstay' v hv).trans (hkept' v hv')).symm
  · obtain ⟨said, hsaid, hsaid'⟩ := hleft.rows
    obtain ⟨told, htold, htold'⟩ := hright.rows
    have hone : (d.made p l (c.made o k s).2).2.committed.transactions.map (·.content) =
        s.committed.transactions.map (·.content) ++ said ++ told :=
      htold.trans (congrArg (· ++ told) hsaid)
    have hother : (c.made o k' (d.made p l' s).2).2.committed.transactions.map (·.content) =
        s.committed.transactions.map (·.content) ++ told ++ said :=
      hsaid'.trans (congrArg (· ++ said) htold')
    rw [hone, hother, List.append_assoc, List.append_assoc]
    exact List.perm_append_comm.append_left _

/-- Under fair conditions all depends on whether the numbered names are new. -/
theorem favourable_fair {c : Call} {n : Nat} {t : Tables}
    (hrows : FreshRows c.kind.mark c.legs (fairConditions n).names t)
    (hwallet : FreshWallet (fairConditions n).names t) :
    Favourable c {} (fairConditions n) t := by
  have hinTime : UnitOfWork.overrun? (some (.whole 10)) (.finite false 0 0) = none := by
    decide +kernel
  refine ⟨fun _ => rfl, rfl, fun _ _ hd => ?_, hinTime, hrows, hwallet⟩
  cases hd

/-- Two naira for a dollar. -/
def nairaTable : Rate.Table := [("USD", .ofInt 1), ("NGN", .ofInt 2)]

/-- A purse in naira of one user, and one in dollars of another. -/
def twoPurses : Session :=
  .ofTables { wallets := [purse, { purse with id := "other", userId := 2, currency := "USD" }] }
    ⟨⟨2024, 1, 15⟩, 12, 0, 0⟩

/-- The first user buys ten cents. -/
def purchaseOfCents : Call :=
  .trade (Exchange.tableRates nairaTable) 1 (.text "USD") (.text "NGN") (.int 10) (.text "buy")

/-- The second user converts thirty cents. -/
def conversionOfCents : Call :=
  .convert (Exchange.tableRates nairaTable) 2 (.text "usd") (.text "NGN") (.int 30)

theorem purchase_and_conversion_commute :
    let bought := purchaseOfCents.made {} (fairConditions 1) twoPurses
    let converted := conversionOfCents.made {} (fairConditions 11) bought.2
    let converted' := conversionOfCents.made {} (fairConditions 1) twoPurses
    let bought' := purchaseOfCents.made {} (fairConditions 11) converted'.2
    (bought.1.toBool ∧ converted.1.toBool) ∧
      Commuted purchaseOfCents conversionOfCents twoPurses bought converted converted' bought' := by
  intro bought converted converted' bought'
  have hlawful : twoPurses.committed.Lawful := by constructor <;> decide +kernel
  refine ⟨by decide +kernel, calls_of_different_users_commute (by decide) ⟨rfl, rfl⟩ hlawful
    ?_ ?_ ?_ ?_⟩
  all_goals
    refine favourable_fair ⟨?_, ?_⟩ (Tables.wallet?_eq_none.2 ?_)
    all_goals decide +kernel

end Operation

end CurrencyLedger
