import CurrencyLedger.Proofs.Pages
import CurrencyLedger.Proofs.Timestamps

/-!
Listing the transactions of some days.

A range of days is bounded by the first microsecond of its first day and the last one of its last.
As the bounds are written, they let every second of these days pass but the very first: a row of
that second is written shorter than the bound and so counts as before it. Listed day by day, rows
are therefore found once, unless they were written at midnight.
-/

namespace CurrencyLedger

/-! ### Days in a range -/

namespace Date

instance (a b : Date) : Decidable (a.Precedes b) := inferInstanceAs (Decidable (_ ∨ _))

/-- A day is neither before the first nor after the last of a range, whose ends may be open. -/
def Among (first last : Option Date) (d : Date) : Prop :=
  (∀ a ∈ first, ¬d.Precedes a) ∧ ∀ b ∈ last, ¬b.Precedes d

instance (first last : Option Date) (d : Date) : Decidable (d.Among first last) :=
  inferInstanceAs (Decidable (_ ∧ _))

/-- The second in which a day begins. -/
def midnight (d : Date) : Moment := ⟨d, 0, 0, 0⟩

section

variable {a b d : Date}

theorem not_precedes_self (d : Date) : ¬d.Precedes d := by
  rw [Precedes]
  omega

/-- A range of one day has that day. -/
theorem among_one_iff : d.Among (some a) (some a) ↔ d = a := by
  simp only [Among, Option.mem_some_iff, forall_eq']
  constructor
  · rintro ⟨hfirst, hlast⟩
    rcases precedes_trichotomy d a with hda | heq | had
    · exact absurd hda hfirst
    · exact heq
    · exact absurd had hlast
  · rintro rfl
    exact ⟨not_precedes_self d, not_precedes_self d⟩

end

end Date

/-! ### The bounds of a day -/

section

variable {d : Date} {m : Moment}

theorem Date.OnCalendar.start (h : d.OnCalendar) : d.start.moment.OnClock :=
  ⟨h, by simp [Date.start], by simp [Date.start], by simp [Date.start]⟩

theorem Date.OnCalendar.finish (h : d.OnCalendar) : d.finish.moment.OnClock :=
  ⟨h, by simp [Date.finish], by simp [Date.finish], by simp [Date.finish]⟩

/-- The start of a day lets no earlier day pass, and not its own midnight. -/
theorem start_text_le_iff (hd : d.OnCalendar) (hm : m.OnClock) :
    d.start.text ≤ m.text ↔ ¬m.date.Precedes d ∧ m ≠ d.midnight := by
  have hmidnight : m = d.midnight ↔ m.sinceEpoch = d.start.moment.sinceEpoch :=
    ⟨congrArg Moment.sinceEpoch, Moment.eq_of_sinceEpoch_eq hm hd.start⟩
  -- The bound admits what is later than its second, and its second is the midnight itself.
  have hstart : d.start.moment.sinceEpoch = d.sinceEpoch * 86400 := by
    simp [Date.start, Moment.sinceEpoch]
  rw [Bound.text_le_text_iff hd.start hm, ← Date.count_lt_count_iff hm.date hd, ne_eq, hmidnight,
    hstart, Moment.sinceEpoch_eq, Date.sinceEpoch, Date.sinceEpoch]
  have := hm.sinceMidnight_lt
  omega

/-- The end of a day lets no later day pass. -/
theorem text_le_finish_iff (hd : d.OnCalendar) (hm : m.OnClock) :
    m.text ≤ d.finish.text ↔ ¬d.Precedes m.date := by
  have hfinish : d.finish.moment.sinceEpoch = d.sinceEpoch * 86400 + 86399 := by
    simp only [Date.finish, Moment.sinceEpoch]
    omega
  rw [Bound.text_le_text_iff' hd.finish hm, ← Date.count_lt_count_iff hd hm.date, hfinish,
    Moment.sinceEpoch_eq, Date.sinceEpoch, Date.sinceEpoch]
  have := hm.sinceMidnight_lt
  omega

end

namespace History

open Http.Listing (withDays)

/-! ### What a range of days selects -/

/-- The rows that meet the other filters and were written on the days of a range. -/
def onDays (f : Filter) (first last : Option Date) (t : Tables) : List Transaction :=
  (selected (withDays f none none) t).filter fun x => decide (x.createdAt.date.Among first last)

/-- Those of them that do not stand on the first second of the range. -/
def listedOnDays (f : Filter) (first last : Option Date) (t : Tables) : List Transaction :=
  (onDays f first last t).filter fun x => decide (∀ a ∈ first, x.createdAt ≠ a.midnight)

/-- Whether a row was written at midnight. -/
def AtMidnight (x : Transaction) : Prop := x.createdAt = x.createdAt.date.midnight

instance (x : Transaction) : Decidable (AtMidnight x) := inferInstanceAs (Decidable (_ = _))

section

variable {f : Filter} {first last : Option Date} {x : Transaction} {t : Tables}

/-- The bounds of a filter narrow what it would select without them. -/
theorem selects_withDays_iff : (withDays f first last).Selects x ↔
    (withDays f none none).Selects x ∧ (∀ a ∈ first, a.start.text ≤ x.createdAt.text) ∧
      ∀ b ∈ last, x.createdAt.text ≤ b.finish.text := by
  constructor
  · intro h
    refine ⟨{ h with start := by simp [withDays], finish := by simp [withDays] },
      fun a ha => ?_, fun b hb => ?_⟩
    · exact h.start a.start (congrArg (Option.map Date.start) ha)
    · exact h.finish b.finish (congrArg (Option.map Date.finish) hb)
  · rintro ⟨h, hfirst, hlast⟩
    refine { h with start := fun b hb => ?_, finish := fun b hb => ?_ }
    · obtain ⟨a, ha, rfl⟩ := Option.map_eq_some_iff.1 hb
      exact hfirst a ha
    · obtain ⟨a, ha, rfl⟩ := Option.map_eq_some_iff.1 hb
      exact hlast a ha

/-- What a range of days selects of rows that the clock has dated. -/
theorem selected_withDays (hclock : ∀ x ∈ t.transactions, x.createdAt.OnClock)
    (hfirst : ∀ a ∈ first, a.OnCalendar) (hlast : ∀ b ∈ last, b.OnCalendar) :
    selected (withDays f first last) t = listedOnDays f first last t := by
  rw [listedOnDays, onDays, selected, selected, List.filter_filter, List.filter_filter]
  refine List.filter_congr fun x hx => ?_
  have hstart : (∀ a ∈ first, a.start.text ≤ x.createdAt.text) ↔
      ∀ a ∈ first, ¬x.createdAt.date.Precedes a ∧ x.createdAt ≠ a.midnight :=
    forall₂_congr fun a ha => start_text_le_iff (hfirst a ha) (hclock x hx)
  have hfinish : (∀ b ∈ last, x.createdAt.text ≤ b.finish.text) ↔
      ∀ b ∈ last, ¬b.Precedes x.createdAt.date :=
    forall₂_congr fun b hb => text_le_finish_iff (hlast b hb) (hclock x hx)
  simp only [← Bool.decide_and, decide_eq_decide]
  rw [selects_withDays_iff, hstart, hfinish, Date.Among]
  simp only [forall₂_and]
  tauto

/-- A session lists some rows for a filter, on pages of any size. -/
def Shows (s : Session) (f : Filter) (rows : List Transaction) : Prop :=
  ∃ shown : List Transaction, shown.Perm rows ∧ ∀ page limit n m,
    StandsFor 1 page n → StandsFor 20 limit m → InReach f n (pageSize m) →
      (list page limit (.ok f)).on s = (.ok (pageOf shown (pageSize m) n, rows.length), s)

theorem shows_selected {s : Session} (hs : Lists s) (f : Filter) :
    Shows s f (selected f s.working) :=
  ⟨select f s.working, select_perm f s.working, fun _ _ _ _ => on_list hs⟩

end

/-! ### Day by day -/

section

variable {α β : Type}

/-- Rows of one kind or of another, if none is of both. -/
theorem filter_append_filter_perm {p q : α → Bool} (l : List α)
    (h : ∀ a ∈ l, p a = true → q a = false) :
    (l.filter p ++ l.filter q).Perm (l.filter fun a => p a || q a) := by
  induction l with
  | nil => simp
  | cons a l ih =>
    have hrest := ih fun b hb => h b (List.mem_cons_of_mem a hb)
    cases hp : p a with
    | true =>
      have hq := h a List.mem_cons_self hp
      simpa [hp, hq] using hrest
    | false =>
      cases hq : q a with
      | true => simpa [hp, hq] using List.perm_middle.trans (hrest.cons a)
      | false => simpa [hp, hq] using hrest

/-- Rows taken key by key are the rows of these keys. -/
theorem flatMap_filter_perm [DecidableEq β] (key : α → β) (l : List α) {ks : List β}
    (h : ks.Nodup) : (ks.flatMap fun k => l.filter fun a => decide (key a = k)).Perm
      (l.filter fun a => decide (key a ∈ ks)) := by
  induction ks with
  | nil => simp
  | cons k ks ih =>
    obtain ⟨hnew, hrest⟩ := List.nodup_cons.1 h
    rw [List.flatMap_cons]
    refine ((ih hrest).append_left _).trans ((filter_append_filter_perm l ?_).trans ?_)
    · intro a _ ha
      rw [decide_eq_true_iff] at ha
      rw [decide_eq_false_iff_not, ha]
      exact hnew
    · simp only [List.mem_cons, Bool.decide_or]
      exact .refl _

end

section

variable {s : Session} {first last : Option Date}

/-- Of the rows of a range those that were not written at midnight are listed. -/
theorem filter_listedOnDays (f : Filter) (first last : Option Date) (t : Tables) :
    (listedOnDays f first last t).filter (fun x => decide ¬AtMidnight x) =
      (onDays f first last t).filter fun x => decide ¬AtMidnight x := by
  rw [listedOnDays, List.filter_filter]
  refine List.filter_congr fun x _ => ?_
  have hfirst (h : ¬AtMidnight x) : ∀ a ∈ first, x.createdAt ≠ a.midnight := by
    rintro a - heq
    exact h (heq.trans (congrArg Date.midnight (congrArg Moment.date heq).symm))
  rw [← Bool.decide_and, decide_eq_decide]
  exact ⟨And.left, fun h => ⟨h, hfirst h⟩⟩

/-- Listed for a day are its rows that were not written at midnight. -/
theorem listedOnDays_one (f : Filter) (d : Date) (t : Tables) :
    listedOnDays f (some d) (some d) t =
      ((selected (withDays f none none) t).filter fun x => decide ¬AtMidnight x).filter fun x =>
        decide (x.createdAt.date = d) := by
  rw [listedOnDays, onDays, List.filter_filter, List.filter_filter]
  refine List.filter_congr fun x _ => ?_
  simp only [← Bool.decide_and, decide_eq_decide, Date.among_one_iff, Option.mem_some_iff,
    forall_eq']
  rw [and_comm]
  refine and_congr_right ?_
  rintro rfl
  exact Iff.rfl

/-- The days of a range show its rows once each, but for those of a midnight. -/
theorem flatMap_listedOnDays_perm (hclock : ∀ x ∈ s.working.transactions, x.createdAt.OnClock)
    (f : Filter) {days : List Date} (hnodup : days.Nodup)
    (hdays : ∀ d, d ∈ days ↔ d.OnCalendar ∧ d.Among first last) :
    (days.flatMap fun d => listedOnDays f (some d) (some d) s.working).Perm
      ((listedOnDays f first last s.working).filter fun x => decide ¬AtMidnight x) := by
  -- Every row has its day on the calendar, so the days of the range miss none of them.
  have hday (x : Transaction) (hx : x ∈ selected (withDays f none none) s.working) :
      x.createdAt.date ∈ days ↔ x.createdAt.date.Among first last := by
    rw [hdays]
    exact and_iff_right (hclock x (List.mem_filter.1 hx).1).date
  have hrows : (listedOnDays f first last s.working).filter (fun x => decide ¬AtMidnight x) =
      ((selected (withDays f none none) s.working).filter fun x => decide ¬AtMidnight x).filter
        fun x => decide (x.createdAt.date ∈ days) := by
    rw [filter_listedOnDays, onDays, List.filter_filter, List.filter_filter]
    refine List.filter_congr fun x hx => ?_
    rw [Bool.and_comm, decide_eq_decide.2 (hday x hx)]
  rw [hrows]
  simp only [listedOnDays_one]
  exact flatMap_filter_perm (fun x : Transaction => x.createdAt.date) _ hnodup

theorem shows_listedOnDays (hs : Lists s)
    (hclock : ∀ x ∈ s.working.transactions, x.createdAt.OnClock) (f : Filter)
    (hfirst : ∀ a ∈ first, a.OnCalendar) (hlast : ∀ b ∈ last, b.OnCalendar) :
    Shows s (withDays f first last) (listedOnDays f first last s.working) := by
  rw [← selected_withDays hclock hfirst hlast]
  exact shows_selected hs _

/--
A listing of some days shows the rows that were written on these days, but for those of the very
first second. Listed day by day, the rows of that listing are found once each, but for those of a
midnight, which are not found.
-/
theorem days_listed_but_midnight (hs : Lists s)
    (hclock : ∀ x ∈ s.working.transactions, x.createdAt.OnClock) (f : Filter)
    (hfirst : ∀ a ∈ first, a.OnCalendar) (hlast : ∀ b ∈ last, b.OnCalendar) :
    Shows s (withDays f first last) (listedOnDays f first last s.working) ∧
    ∀ days : List Date, days.Nodup → (∀ d, d ∈ days ↔ d.OnCalendar ∧ d.Among first last) →
      (∀ d ∈ days, Shows s (withDays f (some d) (some d))
        (listedOnDays f (some d) (some d) s.working)) ∧
      (days.flatMap fun d => listedOnDays f (some d) (some d) s.working).Perm
        ((listedOnDays f first last s.working).filter fun x => decide ¬AtMidnight x) := by
  refine ⟨shows_listedOnDays hs hclock f hfirst hlast, fun days hnodup hdays => ⟨?_, ?_⟩⟩
  · intro d hd
    have honCalendar : ∀ a ∈ some d, a.OnCalendar := by
      simpa using ((hdays d).1 hd).1
    exact shows_listedOnDays hs hclock f honCalendar honCalendar
  · exact flatMap_listedOnDays_perm hclock f hnodup hdays

end

/-- The fifteenth of January 2024. -/
def midJanuary : Date := ⟨2024, 1, 15⟩

/-- The day after. -/
def nextDay : Date := ⟨2024, 1, 16⟩

/-- A store with a cent of a midnight, one of the last second of that day, and one of the next. -/
def nightCents : Session :=
  .ofTables
    { transactions :=
        [cent "A" midJanuary.midnight, cent "B" midJanuary.finish.moment,
          cent "C" nextDay.midnight] }
    ⟨nextDay, 12, 0, 0⟩

theorem two_days_listed_but_midnight :
    (listedOnDays {} (some midJanuary) (some nextDay) nightCents.working).map (·.reference) =
      ["FND_B", "FND_C"] ∧
    Shows nightCents (withDays {} (some midJanuary) (some nextDay))
      (listedOnDays {} (some midJanuary) (some nextDay) nightCents.working) ∧
    ([midJanuary, nextDay].flatMap fun d =>
      listedOnDays {} (some d) (some d) nightCents.working).Perm
        ((listedOnDays {} (some midJanuary) (some nextDay) nightCents.working).filter fun x =>
          decide ¬AtMidnight x) := by
  have hclock : ∀ x ∈ nightCents.working.transactions, x.createdAt.OnClock := by decide +kernel
  have hfirst : ∀ a ∈ some midJanuary, a.OnCalendar := by decide +kernel
  have hlast : ∀ b ∈ some nextDay, b.OnCalendar := by decide +kernel
  have hdays (d : Date) : d ∈ [midJanuary, nextDay] ↔
      d.OnCalendar ∧ d.Among (some midJanuary) (some nextDay) := by
    simp only [List.mem_cons, List.not_mem_nil, or_false]
    constructor
    · rintro (rfl | rfl) <;> decide +kernel
    · rintro ⟨-, hamong⟩
      obtain ⟨y, m, n⟩ := d
      simp only [Date.Among, Date.Precedes, midJanuary, nextDay, Option.mem_some_iff,
        forall_eq', Date.mk.injEq] at hamong ⊢
      omega
  obtain ⟨hshows, hdaily⟩ := days_listed_but_midnight ⟨rfl, rfl⟩ hclock {} hfirst hlast
  exact ⟨by decide +kernel, hshows, (hdaily _ (by decide +kernel) hdays).2⟩

/-- It is not so that all rows of a day are listed for it. -/
theorem midnight_is_left_out : ¬∀ (s : Session) (f : Filter) (first last : Option Date), Lists s →
    (∀ x ∈ s.working.transactions, x.createdAt.OnClock) → (∀ a ∈ first, a.OnCalendar) →
    (∀ b ∈ last, b.OnCalendar) → Date.inOrder first last = true →
    Shows s (withDays f first last) (onDays f first last s.working) := by
  intro h
  have hready : Lists nightCents := ⟨rfl, rfl⟩
  have hclock : ∀ x ∈ nightCents.working.transactions, x.createdAt.OnClock := by decide +kernel
  have hday : ∀ a ∈ some midJanuary, a.OnCalendar := by decide +kernel
  obtain ⟨shown, -, hpages⟩ :=
    h nightCents {} (some midJanuary) (some midJanuary) hready hclock hday hday (by decide +kernel)
  have hfirst : StandsFor 1 .null 1 := .usual rfl
  have hlimit : StandsFor 20 .null 20 := .usual rfl
  have hreach : InReach (withDays {} (some midJanuary) (some midJanuary)) 1 (pageSize 20) :=
    ⟨rfl, by simp [withDays]⟩
  have hanswers := (on_list hready hfirst hlimit hreach).symm.trans
    (hpages .null .null 1 20 hfirst hlimit hreach)
  have htotals : (selected (withDays {} (some midJanuary) (some midJanuary))
      nightCents.working).length =
        (onDays {} (some midJanuary) (some midJanuary) nightCents.working).length :=
    congrArg Prod.snd (Except.ok.inj (congrArg Prod.fst hanswers))
  exact absurd htotals (by decide +kernel)

end History

end CurrencyLedger
