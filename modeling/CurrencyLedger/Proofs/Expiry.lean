import CurrencyLedger.Cache
import CurrencyLedger.Proofs.Splitting
import Mathlib.Algebra.Order.Ring.Rat
import Mathlib.Data.List.Induction

/-!
What a cache answers, told by its history.

A history is the list of the uses of a cache, each at a time on the exact scale. What is stored
depends on which keys happened to be read after their end, so two histories that answer alike can
leave different entries behind. What a key answers from some time on does not depend on that: a use
changes it only by setting the key for a while or by clearing it. So the history alone tells the
answer, which is the value set last if it has neither been cleared since nor expired.
-/

namespace CurrencyLedger

/-- A field is found among those with certain names if its name is one of them. -/
theorem Fields.lookup_filter (p : String → Bool) (name : String) (fs : List (String × α)) :
    (fs.filter fun f => p f.1).lookup name = if p name = true then fs.lookup name else none := by
  induction fs with
  | nil => simp
  | cons f fs ih =>
    obtain ⟨k, v⟩ := f
    by_cases hname : name = k
    · subst hname
      cases hp : p name <;> simp [hp, ih]
    · cases hp : p k <;> simp [hp, ih, lookup_cons, hname]

namespace Cache

theorem lookup_clear (c : Cache τ α) (beginning key : String) :
    (c.clear beginning).entries.lookup key =
      if Text.beginsWith beginning key = true then none else c.entries.lookup key := by
  rw [clear, Fields.lookup_filter fun k => !Text.beginsWith beginning k]
  cases Text.beginsWith beginning key <;> rfl

/-! ### Histories -/

/-- What a cache is used for. -/
inductive Use (α : Type) where
  | set (key : String) (value : α) (lifetime : ℚ)
  | get (key : String)
  | clear (beginning : String)

/-- A use at a time. -/
structure Event (α : Type) where
  time : ℚ
  use : Use α

namespace Event

/-- The cache after an event. -/
def on (c : Cache ℚ α) (e : Event α) : Cache ℚ α :=
  match e.use with
  | .set key v lifetime => c.set e.time key v lifetime
  | .get key => (c.get e.time key).2
  | .clear beginning => c.clear beginning

/-- The event sets a key to a value until a time that is not over at once. -/
def Sets (e : Event α) (key : String) (v : α) (ends : ℚ) : Prop :=
  ∃ lifetime, e.use = .set key v lifetime ∧ 0 < lifetime ∧ ends = e.time + lifetime

/-- The event removes a key, whether it is there or not. -/
def Clears (e : Event α) (key : String) : Prop :=
  ∃ beginning, e.use = .clear beginning ∧ beginning.toList <+: key.toList

/-- The event neither sets a key for a while nor removes it. -/
def Spares (e : Event α) (key : String) : Prop := (∀ v ends, ¬e.Sets key v ends) ∧ ¬e.Clears key

/-- Whether the event is a reading or sets something for no time at all. -/
def isIdle (e : Event α) : Bool :=
  match e.use with
  | .set _ _ lifetime => lifetime ≤ 0
  | .get _ => true
  | .clear _ => false

theorem sets_set {time : ℚ} {written key : String} {w v : α} {lifetime ends : ℚ} :
    Sets ⟨time, .set written w lifetime⟩ key v ends ↔
      (key = written ∧ 0 < lifetime) ∧ w = v ∧ ends = time + lifetime := by
  constructor
  · rintro ⟨d, huse, hpos, rfl⟩
    cases huse
    exact ⟨⟨rfl, hpos⟩, rfl, rfl⟩
  · rintro ⟨⟨rfl, hpos⟩, rfl, rfl⟩
    exact ⟨lifetime, rfl, hpos, rfl⟩

theorem spares_set {time : ℚ} {written key : String} {w : α} {lifetime : ℚ} :
    Spares ⟨time, .set written w lifetime⟩ key ↔ ¬(key = written ∧ 0 < lifetime) := by
  constructor
  · rintro ⟨hsets, -⟩ hwrites
    exact hsets w _ (sets_set.2 ⟨hwrites, rfl, rfl⟩)
  · intro hwrites
    refine ⟨fun v ends hsets => hwrites (sets_set.1 hsets).1, ?_⟩
    rintro ⟨beginning, huse, -⟩
    cases huse

theorem spares_of_isIdle {e : Event α} (h : e.isIdle = true) (key : String) : e.Spares key := by
  refine ⟨?_, ?_⟩
  · rintro v ends ⟨lifetime, huse, hpos, -⟩
    rw [isIdle, huse] at h
    exact absurd hpos (not_lt.2 (of_decide_eq_true h))
  · rintro ⟨beginning, huse, -⟩
    rw [isIdle, huse] at h
    cases h

end Event

/-- The cache after a history that began with an empty one. -/
def after (es : List (Event α)) : Cache ℚ α := es.foldl Event.on {}

/-- What a key answers at a time after a history. -/
def answer (es : List (Event α)) (now : ℚ) (key : String) : Option α := ((after es).get now key).1

/-- The last event that set a key for a while set this value until then; it stands uncleared. -/
def Standing (es : List (Event α)) (key : String) (v : α) (ends : ℚ) : Prop :=
  ∃ before e later, es = before ++ e :: later ∧ e.Sets key v ends ∧ ∀ x ∈ later, x.Spares key

theorem standing_concat {es : List (Event α)} {e : Event α} {key : String} {v : α} {ends : ℚ} :
    Standing (es ++ [e]) key v ends ↔
      e.Sets key v ends ∨ Standing es key v ends ∧ e.Spares key :=
  exists_last_concat

/-- Idle events may be left out. -/
theorem standing_filter {es : List (Event α)} {key : String} {v : α} {ends : ℚ} :
    Standing (es.filter fun e => !e.isIdle) key v ends ↔ Standing es key v ends := by
  induction es using List.reverseRecOn with
  | nil => rfl
  | append_singleton es e ih =>
    rw [List.filter_append, standing_concat]
    cases hidle : e.isIdle with
    | false => simp [hidle, standing_concat, ih]
    | true =>
      have hspares := Event.spares_of_isIdle hidle key
      simp [hidle, ih, hspares, hspares.1 v ends]

/-! ### Answers -/

theorem get_eq_some_iff {c : Cache ℚ α} {now : ℚ} {key : String} {v : α} :
    (c.get now key).1 = some v ↔ ∃ ends, c.entries.lookup key = some ⟨v, ends⟩ ∧ now ≤ ends := by
  rw [get]
  cases c.entries.lookup key with
  | none => simp
  | some entry =>
    obtain ⟨w, expires⟩ := entry
    dsimp only
    split_ifs with hpast
    · have hover : expires < now := of_decide_eq_true hpast
      simpa using fun _ => hover
    · have hlives : now ≤ expires := not_lt.1 fun h => hpast (decide_eq_true h)
      simp [hlives]

/-- A reading removes only what is over then, and so for any later reading too. -/
theorem get_of_get {c : Cache ℚ α} {time now : ℚ} (h : time ≤ now) (read key : String) :
    ((c.get time read).2.get now key).1 = (c.get now key).1 := by
  cases hentry : c.entries.lookup read with
  | none => rw [get.eq_1 c time, hentry]
  | some entry =>
    rw [get.eq_1 c time, hentry]
    dsimp only
    split_ifs with hpast
    · by_cases hkey : key = read
      · subst hkey
        have hover : entry.expires < now := lt_of_lt_of_le (of_decide_eq_true hpast) h
        have hgone : TimeScale.isLess entry.expires now = true := decide_eq_true hover
        simp [get, Fields.lookup_erase, hentry, hgone]
      · simp only [get, Fields.lookup_erase, if_neg hkey]
        cases c.entries.lookup key with
        | none => rfl
        | some entry => dsimp only; split_ifs <;> rfl
    · rfl

theorem get_set_eq_some_iff {c : Cache ℚ α} {time now : ℚ} {written key : String} {w v : α}
    {lifetime : ℚ} : ((c.set time written w lifetime).get now key).1 = some v ↔
      if key = written ∧ 0 < lifetime then w = v ∧ now ≤ time + lifetime
      else (c.get now key).1 = some v := by
  rw [set]
  by_cases hpos : 0 < lifetime
  · have hsets : TimeScale.atMost lifetime TimeScale.zero ≠ true :=
      fun h => not_le.2 hpos (of_decide_eq_true h)
    rw [if_neg hsets, get_eq_some_iff]
    by_cases hkey : key = written
    · simp [Fields.lookup_set, hkey, hpos, TimeScale.add, and_assoc]
    · simp [Fields.lookup_set, hkey, get_eq_some_iff]
  · have hidle : TimeScale.atMost lifetime TimeScale.zero = true := decide_eq_true (not_lt.1 hpos)
    rw [if_pos hidle, if_neg fun h => hpos h.2]

theorem get_clear_eq_some_iff {c : Cache ℚ α} {now : ℚ} {beginning key : String} {v : α} :
    ((c.clear beginning).get now key).1 = some v ↔
      (c.get now key).1 = some v ∧ ¬beginning.toList <+: key.toList := by
  rw [get_eq_some_iff, lookup_clear, get_eq_some_iff, Text.beginsWith, ← List.isPrefixOf_iff_prefix]
  split_ifs with h <;> simp [h]

/-- What one event that is not ahead changes about the answers at a time. -/
theorem get_on_eq_some_iff {c : Cache ℚ α} {e : Event α} {now : ℚ} (h : e.time ≤ now)
    {key : String} {v : α} : ((e.on c).get now key).1 = some v ↔
      (∃ ends, e.Sets key v ends ∧ now ≤ ends) ∨ (c.get now key).1 = some v ∧ e.Spares key := by
  obtain ⟨time, use⟩ := e
  cases use with
  | get read =>
    have hspares : Event.Spares (⟨time, .get read⟩ : Event α) key :=
      Event.spares_of_isIdle rfl key
    have hsets : ¬∃ ends, Event.Sets ⟨time, .get read⟩ key v ends ∧ now ≤ ends :=
      fun ⟨ends, hends, _⟩ => hspares.1 v ends hends
    rw [Event.on, get_of_get h]
    exact ⟨fun h => .inr ⟨h, hspares⟩, fun h => (h.resolve_left hsets).1⟩
  | set written w lifetime =>
    rw [Event.on, get_set_eq_some_iff]
    simp only [Event.sets_set, Event.spares_set]
    split_ifs with hwrites <;> simp [hwrites]
  | clear beginning =>
    rw [Event.on, get_clear_eq_some_iff]
    simp [Event.Spares, Event.Sets, Event.Clears]

theorem answer_concat {es : List (Event α)} {e : Event α} {now : ℚ} (h : e.time ≤ now)
    {key : String} {v : α} : answer (es ++ [e]) now key = some v ↔
      (∃ ends, e.Sets key v ends ∧ now ≤ ends) ∨ answer es now key = some v ∧ e.Spares key := by
  rw [answer, after, List.foldl_append]
  exact get_on_eq_some_iff h

/-- After a history none of which is ahead, a key answers with what stands and is not over. -/
theorem answer_eq_some_iff {es : List (Event α)} {now : ℚ} (h : ∀ e ∈ es, e.time ≤ now)
    {key : String} {v : α} :
    answer es now key = some v ↔ ∃ ends, Standing es key v ends ∧ now ≤ ends := by
  induction es using List.reverseRecOn with
  | nil =>
    refine ⟨fun hnone => (Option.some_ne_none v hnone.symm).elim, ?_⟩
    rintro ⟨ends, ⟨before, e, later, hes, -⟩, -⟩
    cases before <;> cases hes
  | append_singleton es e ih =>
    have hpast : ∀ x ∈ es, x.time ≤ now := fun x hx => h x (List.mem_append_left [e] hx)
    rw [answer_concat (h e (List.mem_append_right es List.mem_cons_self)), ih hpast]
    simp only [standing_concat, or_and_right, exists_or, and_right_comm, exists_and_right]

/-- What is idle is left out of a history without any answer changing. -/
theorem answer_filter {es : List (Event α)} {now : ℚ} (h : ∀ e ∈ es, e.time ≤ now) (key : String) :
    answer (es.filter fun e => !e.isIdle) now key = answer es now key := by
  have hkept : ∀ e ∈ es.filter fun e => !e.isIdle, e.time ≤ now :=
    fun e he => h e (List.mem_filter.1 he).1
  refine Option.ext fun v => ?_
  rw [answer_eq_some_iff hkept, answer_eq_some_iff h]
  simp only [standing_filter]

/--
A key answers with the value that was set last, if it was set for a while that is not over and has
not been cleared since, and with nothing if not. Histories that differ in readings and in what was
set for no time answer alike.
-/
theorem answers_by_history (es : List (Event α)) (now : ℚ) (key : String)
    (h : ∀ e ∈ es, e.time ≤ now) :
    (∀ v, answer es now key = some v ↔ ∃ ends, Standing es key v ends ∧ now ≤ ends) ∧
    (answer es now key = none ↔ ¬∃ v ends, Standing es key v ends ∧ now ≤ ends) ∧
    ∀ fs : List (Event α), (∀ e ∈ fs, e.time ≤ now) →
      (fs.filter fun e => !e.isIdle) = (es.filter fun e => !e.isIdle) →
      answer fs now key = answer es now key := by
  refine ⟨fun v => answer_eq_some_iff h, ?_, fun fs hfs hsame => ?_⟩
  · simp only [Option.eq_none_iff_forall_ne_some, ne_eq, answer_eq_some_iff h, not_exists]
  · rw [← answer_filter hfs, hsame, answer_filter h]

/-- A rate is set for a minute, set again for no time, and read between. -/
def minute : List (Event Nat) :=
  [⟨0, .set "rates" 1 60⟩, ⟨30, .get "rates"⟩, ⟨45, .set "rates" 2 0⟩, ⟨50, .clear "ratios"⟩]

/-- In the last moment of the minute the first rate is still there. -/
theorem minute_answers_to_the_end :
    (∀ e ∈ minute, e.time ≤ 60) ∧ answer minute 60 "rates" = some 1 ∧
    ∃ ends, Standing minute "rates" 1 ends ∧ 60 ≤ ends := by
  have hpast : ∀ e ∈ minute, e.time ≤ 60 := by decide +kernel
  have hanswer : answer minute 60 "rates" = some 1 := by decide +kernel
  exact ⟨hpast, hanswer, ((answers_by_history minute 60 "rates" hpast).1 1).1 hanswer⟩

end Cache

end CurrencyLedger
