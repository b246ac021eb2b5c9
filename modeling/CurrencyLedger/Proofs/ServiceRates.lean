import CurrencyLedger.Proofs.Answers
import CurrencyLedger.Proofs.Providers

/-!
Rates of the running service.

The service keeps the table that its provider asked for last, and requests price from it as long as
it lasts. Whatever has been requested, a table that is kept may be priced from: only a request that
needs a rate asks for another, and what is stored then is sound. So such a request always gets a
positive rate or is refused one, but for replies that are no tables and quotients out of reach.
-/

namespace CurrencyLedger

namespace Rate

variable {τ : Type} [TimeScale τ] {m : Market τ} {p : Provider} {reply : Reply}

/-! ### One request for a rate -/

/-- To look for the table leaves it as it was, or removes it. -/
theorem Market.Swept.sound {m' : Market τ} (h : m.Swept m'.cache) (hm : m.Sound) : m'.Sound := by
  intro entry hentry
  generalize m'.cache = cache at h hentry
  cases h with
  | same => exact hm entry hentry
  | expired _ _ =>
    rw [Fields.lookup_erase, if_pos rfl] at hentry
    cases hentry

/-- What is stored is sound. -/
theorem Market.sound_set {m' : Market τ} (hm : m.Sound) {table : Table} (h : table.Sound)
    (now lifetime : τ) (hcache : m'.cache = m.cache.set now cacheKey table lifetime) :
    m'.Sound := by
  intro entry hentry
  rw [hcache, Cache.set] at hentry
  split_ifs at hentry
  · exact hm entry hentry
  · rw [Fields.lookup_set, if_pos rfl] at hentry
    cases hentry
    exact h

theorem Provider.Priced.sound {outcome : Except Failure Table × Market τ}
    (h : p.Priced m reply outcome) (hm : m.Sound) : outcome.2.Sound := by
  cases h with
  | old _ hcache => exact hcache.sound hm
  | new _ hreceived _ hcache =>
    have hlooked : (Online.looked m).Sound := m.swept_looked.sound hm
    exact Market.sound_set hlooked (Online.sound_of_received hreceived) _ _ hcache
  | refused _ hcache => exact hcache.sound hm
  | baffled _ _ hcache => exact hcache.sound hm

theorem Provider.sound_rate (hp : p.Supplied m reply) (hm : m.Sound) (base target : Value) :
    ((p.rate base target).on m).2.Sound := by
  by_cases hsame : Currency.spelling base = Currency.spelling target
  · rw [on_rate_of_eq hsame]
    exact hm
  · rw [on_rate_of_ne hsame]
    exact (priced hp).sound hm

/-- What settles has been replied to. -/
theorem Provider.Settled.replied {base target : String}
    {outcome : Except Failure Decimal × Market τ} (h : p.Settled m reply base target outcome) :
    outcome.1 ≠ .error .noReply := by
  cases h with
  | answered h =>
    cases h with
    | rate _ => exact nofun
    | refused hrefused _ =>
      obtain ⟨e, rfl, -⟩ := hrefused
      exact nofun
    | unpriced _ _ _ _ _ => exact nofun
  | baffled _ hbaffles _ => cases hbaffles <;> exact nofun
  | vanished _ _ => exact nofun
  | beyond _ _ => exact nofun

/-- A provider that is configured prices from a configured table, or from a service's. -/
theorem Provider.ofSettings_cases {settings : Settings}
    (h : Provider.ofSettings settings = .ok p) :
    (∃ s table, Table.ofConfiguration s = .ok table ∧ p = .fixed table.withDollar) ∨
      ∃ service, p = .online service := by
  obtain ⟨chosen, -, h⟩ := bind_eq_ok.1 h
  generalize Text.asciiLower (if chosen = "" then "currencyapi" else chosen) = name at h
  dsimp only at h
  split_ifs at h
  · obtain ⟨s, -, h⟩ := bind_eq_ok.1 h
    obtain ⟨table, htable, h⟩ := bind_eq_ok.1 h
    exact .inl ⟨s, table, htable, (Except.ok.inj h).symm⟩
  · exact .inr ⟨_, (Except.ok.inj h).symm⟩

end Rate

namespace Http

/-- If an online service is configured, it can be asked and its tables can be kept. -/
def Configuration.Connected (c : Configuration) : Prop :=
  ∀ service, Rate.Provider.ofSettings c.rates = .ok (.online service) → service.Configured ℚ

/-- The table that the service keeps, if it keeps one, may be priced from. -/
def Service.Stocked (s : Service) : Prop :=
  ∀ entry, s.rates.entries.lookup Rate.cacheKey = some entry → entry.value.Sound

/-- A handler after which a table may still be priced from. -/
def Restocks (h : Handler α) : Prop := ∀ s : Service, s.Stocked → (h.on s).2.Stocked

namespace Restocks

variable {α β : Type}

theorem bind {h : Handler α} {f : α → Handler β} (hh : Restocks h) (hf : ∀ x, Restocks (f x)) :
    Restocks (h >>= f) := by
  intro s hs
  have hnext := hh s hs
  rw [Handler.on_bind]
  rcases hr : h.on s with ⟨a | x, t⟩
  all_goals rw [hr] at hnext
  · exact hnext
  · exact hf x t hnext

theorem of_steady {h : Handler α} (hh : Steady Service.rates h) : Restocks h := by
  intro s hs
  rw [Service.Stocked, (hh s).1]
  exact hs

theorem withBody {r : Request} {f : Option Value → Handler Answer} (hf : ∀ v, Restocks (f v)) :
    Restocks (withBody r f) := by
  rw [Http.withBody]
  cases hbody : readDocument r with
  | ok v => exact hf v
  | error a => exact of_steady (.stop (refused_of_readDocument hbody))

end Restocks

section

variable {c : Configuration} {p : Rate.Provider} {s : Service}

/-- Whatever the reply that comes with a request, the provider is supplied with it. -/
theorem supplied_market (hc : c.Connected) (hp : Rate.Provider.ofSettings c.rates = .ok p)
    (hs : s.Stocked) (r : Request) : p.Supplied (s.market r) r.rateReply := by
  rcases Rate.Provider.ofSettings_cases hp with ⟨text, table, htable, rfl⟩ | ⟨service, rfl⟩
  · exact .fixed htable
  · exact .online (hc service hp) hs rfl

/-- A request for a rate is followed by one that may be priced from. -/
theorem restocks_askRate (hc : c.Connected) (hp : Rate.Provider.ofSettings c.rates = .ok p)
    (r : Request) (ends : String × String) : Restocks (askRate r p ends) := by
  intro s hs
  have hsound := Rate.Provider.sound_rate (supplied_market hc hp hs r) hs (.text ends.1)
    (.text ends.2)
  rw [on_askRate]
  generalize (p.rate (.text ends.1) (.text ends.2)).on (s.market r) = outcome at hsound ⊢
  exact hsound

/-- Without a provider nothing is priced. -/
theorem restocks_rateProvider {f : Rate.Provider → Handler Answer}
    (hf : ∀ p, Rate.Provider.ofSettings c.rates = .ok p → Restocks (f p)) :
    Restocks (rateProvider c >>= f) := by
  rw [rateProvider]
  cases hp : Rate.Provider.ofSettings c.rates with
  | ok p => exact hf p hp
  | error e => exact .of_steady (.stop (isSuccess_ofFailure e))

theorem restocks_handle (hc : c.Connected) (r : Request) : Restocks (handle c r) := by
  rcases handle_cases c r with hroute | ⟨e, -, he, hhandle⟩
  · exact .of_steady (steady_handle c hroute)
  rw [hhandle]
  have hcounted : Restocks (countRequest c r) :=
    .of_steady (steady_countRequest (fun _ _ => rfl) c r)
  have hdone {α : Type} (a : Action Session α) (f : α → Answer) : Restocks (do
      let x ← Handler.act a
      Handler.recordAnnounced
      return f x) := .of_steady (steady_carriedOut (fun _ _ => rfl) a f)
  have hsender := Restocks.of_steady (steady_authenticate r)
  cases e with
  | fund =>
    refine .withBody fun body => .bind hsender fun u => ?_
    refine .bind (.of_steady (steady_takeOrder _ _)) fun order => .bind hcounted fun _ => ?_
    exact hdone _ _
  | fundUser => exact .of_steady (.withBody fun v => steady_fundUser (fun _ _ => rfl) c r v)
  | convert =>
    refine .withBody fun body => .bind hsender fun u => restocks_rateProvider fun p hp => ?_
    refine .bind (.of_steady (steady_takeOrder _ _)) fun order => .bind hcounted fun _ => ?_
    exact .bind (restocks_askRate hc hp r _) fun rates => hdone _ _
  | trade =>
    refine .withBody fun body => .bind hsender fun u => restocks_rateProvider fun p hp => ?_
    refine .bind (.of_steady (steady_takeOrder _ _)) fun order => .bind hcounted fun _ => ?_
    exact .bind (restocks_askRate hc hp r _) fun rates => hdone _ _
  | _ => cases he

/-- A table that is kept after a request may be priced from. -/
theorem stocked_serve (hc : c.Connected) (hs : s.Stocked) (r : Request) :
    (serve c r s).2.Stocked := by
  rw [serve_eq_trimBody]
  exact restocks_handle hc r s hs

/-- So may one that is kept after any number of requests. -/
theorem stocked_serveAll (hc : c.Connected) (hs : s.Stocked) (rs : List Request) :
    (serveAll c rs s).Stocked := by
  induction rs generalizing s with
  | nil => exact hs
  | cons r rs ih => exact ih (stocked_serve hc hs r)

/--
Rates settle. Whatever has been requested before, a request that asks for a rate is priced from what
its provider makes of the table that is kept, or of the reply if none is: that is a positive rate or
a refusal, unless the reply is of another shape or the quotient is out of reach.
-/
theorem rates_settle (hc : c.Connected) (hp : Rate.Provider.ofSettings c.rates = .ok p)
    (hs : s.Stocked) (rs : List Request) (r : Request) (ends : String × String) :
    let t := serveAll c rs s
    ∃ rates outcome, (askRate r p ends).on t = (.ok rates, { t with rates := outcome.2.cache }) ∧
      p.Settled (t.market r) r.rateReply (Currency.spelling (.text ends.1))
        (Currency.spelling (.text ends.2)) outcome ∧
      rates ends.1 ends.2 = Value.decimal <$> outcome.1 ∧
      rates ends.1 ends.2 ≠ .error .noReply := by
  intro t
  have hsupplied := supplied_market hc hp (stocked_serveAll hc hs rs) r
  have hsettled := Rate.Provider.rate_settles hsupplied (.text ends.1) (.text ends.2)
  refine ⟨_, _, on_askRate r p ends t, hsettled, rfl, fun hlacking => ?_⟩
  exact hsettled.replied (map_eq_error.1 hlacking)

/-- The online service can be asked where it is by default. -/
example : askingOnline.Connected := by
  rintro service ⟨⟩
  exact ⟨⟨⟨"https".toList, [], "api.currencyapi.com".toList, none, "/v3/latest".toList, none, none⟩,
    by decide +kernel⟩, fun _ => rfl, 3600, rfl⟩

/-- A table is kept for the next request, even if the online service cannot be reached by then. -/
example :
    let later := serveAll askingOnline [quotedRequest] counter
    (serve askingOnline exchangeRequest later).1.isSuccess = true ∧
      (serve askingOnline exchangeRequest counter).1.isSuccess = false := by
  decide +kernel

end

end Http

end CurrencyLedger
