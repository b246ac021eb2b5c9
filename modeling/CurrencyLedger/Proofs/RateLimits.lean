import CurrencyLedger.Proofs.Answers
import Mathlib.Algebra.Order.Field.Rat
import Mathlib.Tactic.Linarith

/-!
How many requests pass.

A client is counted on each path by itself, so nobody uses up what others may ask for. Whenever no
window of a counter is open, from then on no more requests pass than its limit says, for as long as
the limit says. What carries the proof is the window: once it is open, every request that passes is
one more in its count, and the count of those stays within the limit.

Of the endpoints that move money all but the administrator's count a request before they carry it
out. So a client succeeds there no more often than a limit says.
-/

namespace CurrencyLedger.Http

namespace Hits

/-- A request, as far as it is counted. -/
structure Knock where
  now : Rat
  client : String
  path : String

/-- Whether a request is one of those that a counter counts. -/
def Knock.IsOf (k : Counter) (x : Knock) : Prop := x.client = k.client ∧ x.path = k.path

instance (k : Counter) (x : Knock) : Decidable (x.IsOf k) :=
  inferInstanceAs (Decidable (_ ∧ _))

/-- The windows after a request. -/
def after (ls : List RateLimit) (h : Hits) (x : Knock) : Hits :=
  (h.take x.now x.client x.path ls).2

/-- Whether a request passes. -/
def Passes (ls : List RateLimit) (h : Hits) (x : Knock) : Prop :=
  (h.take x.now x.client x.path ls).1 = none

instance (ls : List RateLimit) (h : Hits) (x : Knock) : Decidable (h.Passes ls x) :=
  inferInstanceAs (Decidable (_ = none))

/-- How many requests of a counter pass, among requests that come one after the other. -/
def passed (ls : List RateLimit) (k : Counter) (h : Hits) : List Knock → Nat
  | [] => 0
  | x :: xs => (if x.IsOf k ∧ h.Passes ls x then 1 else 0) + passed ls k (h.after ls x) xs

section

variable {h : Hits} {k : Counter} {w : Window} {now start : Rat} {ls : List RateLimit} {x : Knock}
  {xs : List Knock}

/-! ### Windows -/

theorem lookup_put (h : Hits) (k k' : Counter) (w : Window) :
    (h.put k' w).lookup k = if k = k' then some w else h.lookup k := by
  rw [put, List.lookup_cons]
  split_ifs with hk
  · simp [hk]
  · rw [beq_eq_false_iff_ne.2 hk]
    induction h with
    | nil => rfl
    | cons e h ih =>
      obtain ⟨k'', v⟩ := e
      by_cases hfiltered : k'' = k'
      · subst hfiltered
        simp [List.lookup_cons, beq_eq_false_iff_ne.2 hk, ih]
      · simp [hfiltered, List.lookup_cons, ih]

theorem lookup_put_self (h : Hits) (k : Counter) (w : Window) : (h.put k w).lookup k = some w := by
  rw [lookup_put, if_pos rfl]

theorem lookup_put_of_ne {k' : Counter} (hk : k ≠ k') (w : Window) :
    (h.put k' w).lookup k = h.lookup k := by
  rw [lookup_put, if_neg hk]

theorem window?_eq_some : h.window? now k = some w ↔ h.lookup k = some w ∧ now < w.ends := by
  simp [window?, Option.filter_eq_some_iff]

theorem window?_eq_none :
    h.window? now k = none ↔ ∀ w, h.lookup k = some w → w.ends ≤ now := by
  simp [window?, Option.filter_eq_none_iff]

/-! ### One request -/

/-- Another client, or another path, does not count. -/
theorem lookup_after (hx : ¬x.IsOf k) : (h.after ls x).lookup k = h.lookup k := by
  rw [after]
  induction ls generalizing h with
  | nil => rfl
  | cons l ls ih =>
    have hne : k ≠ ⟨x.client, x.path, l⟩ := by
      rintro rfl
      exact hx ⟨rfl, rfl⟩
    simp only [take]
    split_ifs
    · rw [lookup_put_of_ne hne]
    · rw [ih, lookup_put_of_ne hne]

/--
What a request of its client has made of a window with some requests in it: they are not fewer, and
one more if the request passed; then there are no more of them than the limit says.
-/
structure Counted (k : Counter) (count : Nat) (ends : Rat) (limited pass : Prop) (w : Window) :
    Prop where
  ends : w.ends = ends
  grown : count ≤ w.count
  within : pass → w.count ≤ max count k.limit.amount
  counted : pass → limited → count < w.count

variable (ls) in
/-- A request goes into a window that is open. -/
theorem counted_take (hw : h.lookup k = some w) (hopen : now < w.ends) :
    ∃ v, (h.take now k.client k.path ls).2.lookup k = some v ∧
      Counted k w.count w.ends (k.limit ∈ ls) ((h.take now k.client k.path ls).1 = none) v := by
  induction ls generalizing h w with
  | nil => exact ⟨w, hw, rfl, le_rfl, fun _ => le_max_left _ _, fun _ hnone => by cases hnone⟩
  | cons l ls ih =>
    simp only [take]
    by_cases hl : k.limit = l
    · subst hl
      have hnext : h.next now k = { w with count := w.count + 1 } := by
        rw [next, window?_eq_some.2 ⟨hw, hopen⟩]
      have hput := h.lookup_put_self k { w with count := w.count + 1 }
      rw [hnext]
      split_ifs with hexceeded
      · exact ⟨_, hput, rfl, Nat.le_succ _, by simp, by simp⟩
      · obtain ⟨v, hv, hends, hgrown, hwithin, -⟩ := ih hput hopen
        refine ⟨v, hv, hends, Nat.le_of_succ_le hgrown, fun hpass => ?_, fun _ _ => hgrown⟩
        have hlimit := hwithin hpass
        dsimp only at hexceeded hlimit
        omega
    · have hne : k ≠ ⟨k.client, k.path, l⟩ := fun h => hl (congrArg Counter.limit h)
      have hput := (lookup_put_of_ne hne (h.next now ⟨k.client, k.path, l⟩)).trans hw
      split_ifs
      · exact ⟨w, hput, rfl, le_rfl, by simp, by simp⟩
      · obtain ⟨v, hv, hends, hgrown, hwithin, hcounted⟩ := ih hput hopen
        refine ⟨v, hv, hends, hgrown, hwithin, fun hpass hmem => ?_⟩
        exact hcounted hpass ((List.mem_cons.1 hmem).resolve_left hl)

/-- Where no window is open, a request opens one, or is refused before it does. -/
theorem opened_take (hclosed : h.window? now k = none) (hmem : k.limit ∈ ls)
    (hspan : 0 < k.limit.seconds) :
    ((h.take now k.client k.path ls).2.lookup k = h.lookup k ∧
        (h.take now k.client k.path ls).1 ≠ none) ∨
      ∃ v, (h.take now k.client k.path ls).2.lookup k = some v ∧
        Counted k 0 (now + k.limit.seconds) True ((h.take now k.client k.path ls).1 = none) v := by
  induction ls generalizing h with
  | nil => cases hmem
  | cons l ls ih =>
    simp only [take]
    by_cases hl : k.limit = l
    · subst hl
      have hnext : h.next now k = ⟨1, now + k.limit.seconds⟩ := by rw [next, hclosed]
      have hput := h.lookup_put_self k ⟨1, now + k.limit.seconds⟩
      rw [hnext]
      right
      split_ifs with hexceeded
      · exact ⟨_, hput, rfl, Nat.zero_le _, by simp, by simp⟩
      · have hopen : now < now + k.limit.seconds := by
          have : (0 : ℚ) < k.limit.seconds := by exact_mod_cast hspan
          linarith
        obtain ⟨v, hv, hends, hgrown, hwithin, -⟩ := counted_take ls hput hopen
        refine ⟨v, hv, hends, Nat.zero_le _, fun hpass => ?_, fun _ _ => hgrown⟩
        have hlimit := hwithin hpass
        dsimp only at hexceeded hlimit
        omega
    · have hne : k ≠ ⟨k.client, k.path, l⟩ := fun h => hl (congrArg Counter.limit h)
      have hput := lookup_put_of_ne (h := h) hne (h.next now ⟨k.client, k.path, l⟩)
      split_ifs
      · exact .inl ⟨hput, by simp⟩
      · have hclosed' : window? (h.put ⟨k.client, k.path, l⟩ (h.next now ⟨k.client, k.path, l⟩))
            now k = none := by
          rw [window?, hput]
          exact hclosed
        rw [← hput]
        exact ih hclosed' ((List.mem_cons.1 hmem).resolve_left hl)

/-! ### Many requests -/

/-- What is left of the limit in a window that is open. -/
theorem passed_le_of_open (hmem : k.limit ∈ ls) (hw : h.lookup k = some w)
    (hin : ∀ x ∈ xs, x.now < w.ends) : passed ls k h xs + w.count ≤ max w.count k.limit.amount := by
  induction xs generalizing h w with
  | nil => simp [passed]
  | cons x xs ih =>
    obtain ⟨hx, hxs⟩ := List.forall_mem_cons.1 hin
    rw [passed]
    by_cases hof : x.IsOf k
    · obtain ⟨v, hv, hends, hgrown, hwithin, hcounted⟩ := counted_take ls hw hx
      rw [← hof.1, ← hof.2] at hv hwithin hcounted
      have hrest : passed ls k (h.after ls x) xs + v.count ≤ max v.count k.limit.amount :=
        ih hv (hends ▸ hxs)
      split_ifs with hpass
      · have := hwithin hpass.2
        have := hcounted hpass.2 hmem
        omega
      · omega
    · rw [if_neg fun h => hof h.1, Nat.zero_add]
      exact ih ((lookup_after hof).trans hw) hxs

/--
From a moment at which no window of a counter is open, no more of its requests pass than the limit
says, for as long as the limit says, whoever else makes requests in the meantime.
-/
theorem passed_le_amount (hmem : k.limit ∈ ls) (hclosed : h.window? start k = none)
    (hin : ∀ x ∈ xs, start ≤ x.now ∧ x.now < start + k.limit.seconds) :
    passed ls k h xs ≤ k.limit.amount := by
  induction xs generalizing h with
  | nil => exact Nat.zero_le _
  | cons x xs ih =>
    obtain ⟨⟨hfrom, hto⟩, hxs⟩ := List.forall_mem_cons.1 hin
    rw [passed]
    by_cases hof : x.IsOf k
    · have hspan : 0 < k.limit.seconds := by
        by_contra hzero
        rw [Nat.eq_zero_of_not_pos hzero, Nat.cast_zero] at hto
        linarith
      have hclosed' : h.window? x.now k = none :=
        window?_eq_none.2 fun w hw => (window?_eq_none.1 hclosed w hw).trans hfrom
      have htake := opened_take hclosed' hmem hspan
      rw [← hof.1, ← hof.2] at htake
      rcases htake with ⟨hsame, hrefused⟩ | ⟨v, hv, hends, -, hwithin, hcounted⟩
      · -- The request was stopped by another limit, which opens no window here.
        rw [if_neg fun h => hrefused h.2, Nat.zero_add]
        exact ih (by rw [window?, after, hsame]; exact hclosed) hxs
      · have hopen : ∀ y ∈ xs, y.now < v.ends := by
          intro y hy
          have := (hxs y hy).2
          rw [hends]
          linarith
        have hrest : passed ls k (h.after ls x) xs + v.count ≤ max v.count k.limit.amount :=
          passed_le_of_open hmem hv hopen
        split_ifs with hpass
        · have := hwithin hpass.2
          have := hcounted hpass.2 trivial
          omega
        · omega
    · rw [if_neg fun h => hof h.1, Nat.zero_add]
      exact ih (by rw [window?, lookup_after hof]; exact hclosed) hxs

end

end Hits

/-! ### Requests -/

/-- A request, as far as it is counted. -/
def Request.knock (r : Request) : Hits.Knock := ⟨r.uptime, clientAddress r, r.target.path⟩

/-- The endpoints that count what they carry out. -/
def Endpoint.isLimited : Endpoint → Bool
  | .fund => true
  | .convert => true
  | .trade => true
  | _ => false

/-- An early answer, and no success. -/
def Refused (r : Except Answer Answer) : Prop := ∃ a, r = .error a ∧ a.isSuccess = false

/-- A handler refuses before it has counted a request, or counts it and goes on if it passes. -/
def Counts (ls : List RateLimit) (r : Request) (h : Handler Answer) : Prop :=
  ∀ s, ((h.on s).2.hits = s.hits ∧ Refused (h.on s).1) ∨
    ((h.on s).2.hits = s.hits.after ls r.knock ∧
      (s.hits.Passes ls r.knock ∨ Refused (h.on s).1))

section

variable {c : Configuration} {r : Request} {limits : String}

theorem Counts.bind {ls : List RateLimit} {h : Handler α} {f : α → Handler Answer}
    (hh : Steady Service.hits h) (hf : ∀ x, Counts ls r (f x)) : Counts ls r (h >>= f) := by
  intro s
  obtain ⟨hsame, hrefused⟩ := hh s
  rw [Handler.on_bind]
  rcases hr : h.on s with ⟨a | x, t⟩
  all_goals rw [hr] at hsame hrefused
  · exact .inl ⟨hsame, a, rfl, hrefused a rfl⟩
  · have hrest := hf x t
    rw [show t.hits = s.hits from hsame] at hrest
    exact hrest

theorem counts_withBody {ls : List RateLimit} {f : Option Value → Handler Answer}
    (hf : ∀ v, Counts ls r (f v)) : Counts ls r (withBody r f) := by
  rw [withBody]
  cases hbody : readDocument r with
  | ok v => exact hf v
  | error a => exact fun _ => .inl ⟨rfl, a, rfl, refused_of_readDocument hbody⟩

/-- What follows on the counting counts nothing more. -/
theorem counts_countRequest (hlimits : c.limits = some limits) {f : Unit → Handler Answer}
    (hf : ∀ x, Steady Service.hits (f x)) :
    Counts (RateLimit.readAll limits) r (countRequest c r >>= f) := by
  intro s
  right
  rw [Handler.on_bind]
  simp only [countRequest, Handler.on, ExceptT.run, ExceptT.mk, hlimits]
  cases htaken : (s.hits.take r.uptime (clientAddress r) r.target.path
      (RateLimit.readAll limits)).1 with
  | none =>
    refine ⟨?_, .inl htaken⟩
    exact (hf () _).1
  | some l => exact ⟨rfl, .inr ⟨limitExceeded l, rfl, rfl⟩⟩

/-- Each of the limited endpoints counts a request before it carries it out. -/
theorem counts_answerAt (hlimits : c.limits = some limits) {e : Endpoint}
    (he : e.isLimited = true) : Counts (RateLimit.readAll limits) r (answerAt c r e) := by
  have hasked (p : Rate.Provider) (ends : String × String) :
      Steady Service.hits (askRate r p ends) := steady_askRate (fun _ _ => rfl) r p ends
  cases e with
  | fund =>
    refine counts_withBody fun body => .bind (steady_authenticate r) fun u => ?_
    refine .bind (steady_takeOrder _ _) fun order => counts_countRequest hlimits fun _ => ?_
    exact steady_carriedOut (fun _ _ => rfl) _ _
  | convert =>
    refine counts_withBody fun body => .bind (steady_authenticate r) fun u => ?_
    refine .bind (steady_rateProvider c) fun provider => ?_
    refine .bind (steady_takeOrder _ _) fun order => ?_
    refine counts_countRequest hlimits fun _ => .bind (hasked _ _) fun rates => ?_
    exact steady_carriedOut (fun _ _ => rfl) _ _
  | trade =>
    refine counts_withBody fun body => .bind (steady_authenticate r) fun u => ?_
    refine .bind (steady_rateProvider c) fun provider => ?_
    refine .bind (steady_takeOrder _ _) fun order => ?_
    refine counts_countRequest hlimits fun _ => .bind (hasked _ _) fun rates => ?_
    exact steady_carriedOut (fun _ _ => rfl) _ _
  | _ => cases he

/-- Whether a request is for a limited endpoint. -/
def Request.isLimited (r : Request) : Bool :=
  match route r.method r.target.path with
  | .endpoint e => e.isLimited
  | _ => false

/-- The others are not counted. -/
theorem steady_handle_hits (c : Configuration) (h : r.isLimited = false) :
    Steady Service.hits (handle c r) := by
  rcases handle_cases c r with hroute | ⟨e, hroute, he, hhandle⟩
  · exact steady_handle c hroute
  rw [Request.isLimited, hroute] at h
  rw [hhandle]
  cases e with
  | fundUser =>
    exact .withBody fun v => steady_fundUser (fun _ _ => rfl) c r v
  | fund => cases h
  | convert => cases h
  | trade => cases h
  | _ => cases he

/-- A request is counted or not; for a limited endpoint it succeeds only if it is, and passes. -/
theorem counts_serve (hlimits : c.limits = some limits) (s : Service) :
    ((serve c r s).2.hits = s.hits ∧ (r.isLimited = true → (serve c r s).1.isSuccess = false)) ∨
      ((serve c r s).2.hits = s.hits.after (RateLimit.readAll limits) r.knock ∧
        ((serve c r s).1.isSuccess = true → s.hits.Passes (RateLimit.readAll limits) r.knock)) := by
  have hanswer (hrefused : Refused ((handle c r).on s).1) : (serve c r s).1.isSuccess = false := by
    obtain ⟨a, ha, hfailed⟩ := hrefused
    rw [serve_eq_trimBody, isSuccess_trimBody, ha]
    exact hfailed
  have hhits : (serve c r s).2.hits = ((handle c r).on s).2.hits := by rw [serve_eq_trimBody]
  rw [hhits]
  cases hlimited : r.isLimited with
  | false => exact .inl ⟨(steady_handle_hits c hlimited s).1, nofun⟩
  | true =>
    obtain ⟨e, hroute, he⟩ : ∃ e, route r.method r.target.path = .endpoint e ∧
        e.isLimited = true := by
      rw [Request.isLimited] at hlimited
      split at hlimited
      · rename_i e hroute
        exact ⟨e, hroute, hlimited⟩
      · cases hlimited
    have hflows : e.flows?.isSome = true := by cases e <;> first | rfl | cases he
    have hcounts := counts_answerAt (r := r) hlimits he s
    rw [← handle_of_flows c hroute hflows] at hcounts
    rcases hcounts with ⟨hsame, hrefused⟩ | ⟨hafter, hpasses | hrefused⟩
    · exact .inl ⟨hsame, fun _ => hanswer hrefused⟩
    · exact .inr ⟨hafter, fun _ => hpasses⟩
    · refine .inr ⟨hafter, fun hsuccess => ?_⟩
      rw [hanswer hrefused] at hsuccess
      cases hsuccess

/-- How many requests of a counter succeed at limited endpoints, one after the other. -/
def successes (c : Configuration) (k : Counter) (s : Service) : List Request → Nat
  | [] => 0
  | r :: rs =>
    (if r.isLimited = true ∧ r.knock.IsOf k ∧ (serve c r s).1.isSuccess = true then 1 else 0) +
      successes c k (serve c r s).2 rs

/-- Requests that succeed have been counted, and have passed. -/
theorem successes_le_passed (hlimits : c.limits = some limits) (k : Counter) (rs : List Request)
    (s : Service) : ∃ xs, (∀ x ∈ xs, ∃ r ∈ rs, x = r.knock) ∧
      successes c k s rs ≤ Hits.passed (RateLimit.readAll limits) k s.hits xs := by
  induction rs generalizing s with
  | nil => exact ⟨[], by simp, Nat.le_refl _⟩
  | cons r rs ih =>
    obtain ⟨xs, hxs, hle⟩ := ih (serve c r s).2
    have hlater : ∀ x ∈ xs, ∃ r' ∈ r :: rs, x = r'.knock := fun x hx =>
      (hxs x hx).imp fun r' hr' => ⟨List.mem_cons_of_mem r hr'.1, hr'.2⟩
    rw [successes]
    rcases counts_serve (r := r) hlimits s with ⟨hsame, hfailed⟩ | ⟨hafter, hpasses⟩
    · refine ⟨xs, hlater, ?_⟩
      rw [if_neg, Nat.zero_add, ← hsame]
      · exact hle
      · rintro ⟨hlimited, -, hsuccess⟩
        rw [hfailed hlimited] at hsuccess
        cases hsuccess
    · refine ⟨r.knock :: xs, List.forall_mem_cons.2 ⟨⟨r, List.mem_cons_self, rfl⟩, hlater⟩, ?_⟩
      rw [hafter] at hle
      rw [Hits.passed]
      refine Nat.add_le_add ?_ hle
      split_ifs with hsucceeds hpassed
      · exact Nat.le_refl _
      · exact absurd ⟨hsucceeds.2.1, hpasses hsucceeds.2.2⟩ hpassed
      · exact Nat.zero_le _
      · exact Nat.le_refl _

/--
Limits hold. From a moment at which no window of a counter is open, its client succeeds on its path
no more often than the limit says, for as long as the limit says, whatever else is requested.
-/
theorem successes_le_amount (hlimits : c.limits = some limits) {k : Counter}
    (hk : k.limit ∈ RateLimit.readAll limits) {s : Service} {start : Rat}
    (hclosed : s.hits.window? start k = none) {rs : List Request}
    (hin : ∀ r ∈ rs, start ≤ r.uptime ∧ r.uptime < start + k.limit.seconds) :
    successes c k s rs ≤ k.limit.amount := by
  obtain ⟨xs, hxs, hle⟩ := successes_le_passed hlimits k rs s
  refine hle.trans (Hits.passed_le_amount hk hclosed fun x hx => ?_)
  obtain ⟨r, hr, rfl⟩ := hxs x hx
  exact hin r hr

/-- Of three conversions within a minute two succeed if more are not allowed. -/
example :
    let k : Counter := ⟨"127.0.0.1", "/api/v1/wallets/convert", ⟨2, 1, "minute"⟩⟩
    successes { twoForOne with limits := some "2/minute" } k counter
      (List.replicate 3 exchangeRequest) = 2 := by
  decide +kernel

end

end CurrencyLedger.Http
