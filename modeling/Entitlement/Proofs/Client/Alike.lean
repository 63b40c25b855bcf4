import Entitlement.Proofs.Client.Waiting

/-!
Clients to which the same happens. What a client knows after an event follows from what it knew, from its window and
from its providers, and so does who waits afterwards, for what. Clients that agree in these agree after the same
event (`Alike.step`), however far apart their ledgers and their reports may be; and they go on agreeing when in one
of them a caller gives up (`Alike.cancel`).
-/

namespace Entitlement.Client

variable {App : Type} {c c' : Client App}

/-! ### Knowledge -/

theorem need?_congr (closed : c'.closed = c.closed) (window : c'.window = c.window)
    (providers : c'.providers = c.providers) (request : CallRequest) (m : Moment App) :
    c'.need? request m = c.need? request m := by
  simp only [need?, recordAttempt, closed, window, providers]

theorem Unmoved.congr {e : ClientEvent App} (same : c'.knowledge = c.knowledge)
    (needs : ∀ request m, c'.need? request m = c.need? request m) (why : Unmoved c e) : Unmoved c' e := by
  obtain ⟨cache, inFlight, queries, _, _, closed⟩ := Knowledge.mk.injEq .. ▸ same
  cases why with
  | aside aside => exact .aside aside
  | call served =>
    refine .call fun key purpose need stale => ?_
    rw [needs] at need
    rw [cache] at stale
    rw [inFlight]
    exact served key purpose need stale
  | ask unfit => exact .ask fun key => queries ▸ unfit key
  | reply unfit => exact .reply fun key => queries ▸ unfit key
  | panic unfit => exact .panic fun key => queries ▸ unfit key
  | shut shut => exact .shut (closed.trans shut)

theorem Learns.of_unmoved {e : ClientEvent App} {k : Knowledge} (learns : Learns c e k) (why : Unmoved c e) :
    k = c.knowledge := by
  cases why with
  | aside aside =>
    cases learns with
    | unmoved => rfl
    | _ => exact aside.elim
  | call served =>
    cases learns with
    | unmoved => rfl
    | begun need stale free => exact (served _ _ need stale free).elim
  | ask unfit =>
    cases learns with
    | unmoved => rfl
    | asked queued => exact (unfit _ queued).elim
  | reply unfit =>
    cases learns with
    | unmoved => rfl
    | answered asked => exact (unfit _ asked).elim
  | panic unfit =>
    cases learns with
    | unmoved => rfl
    | panicked asked => exact (unfit _ asked).elim
  | shut shut =>
    cases learns with
    | unmoved => rfl
    | closed opened => cases opened.symm.trans shut

theorem abortQueries_congr (same : c'.knowledge = c.knowledge) :
    c'.abortQueries.knowledge = c.abortQueries.knowledge :=
  congrArg (fun k : Knowledge => { k with
    queries := k.queries.mapValues fun q query =>
      if k.inFlight.find? query.key = some q then { query with status := query.status.abort } else query
    inFlight := .empty }) same

/-- What an event teaches follows from what was known and what is needed. -/
theorem Learns.unique {e : ClientEvent App} {k k' : Knowledge} (same : c'.knowledge = c.knowledge)
    (needs : ∀ request m, c'.need? request m = c.need? request m) (learns : Learns c e k)
    (learns' : Learns c' e k') : k' = k := by
  by_cases still : Unmoved c e
  · rw [learns.of_unmoved still, learns'.of_unmoved (still.congr same needs), same]
  have moved (why : Unmoved c' e) : k' = k :=
    (still (why.congr same.symm fun request m => (needs request m).symm)).elim
  have aborted := abortQueries_congr same
  obtain ⟨cache, inFlight, queries, nextQuery, asks, closed⟩ := Knowledge.mk.injEq .. ▸ same
  cases learns with
  | unmoved why => exact (still why).elim
  | begun need =>
    cases learns' with
    | unmoved why => exact moved why
    | begun need' =>
      rw [needs] at need'
      cases need.symm.trans need'
      rw [same, inFlight, queries, nextQuery]
  | asked queued =>
    cases learns' with
    | unmoved why => exact moved why
    | asked queued' =>
      rw [queries] at queued'
      cases queued.symm.trans queued'
      rw [same, queries, asks]
  | answered asked =>
    cases learns' with
    | unmoved why => exact moved why
    | answered asked' =>
      rw [queries] at asked'
      cases asked.symm.trans asked'
      simp only [cacheAfter]
      rw [same, inFlight, queries, cache, closed]
  | panicked asked =>
    cases learns' with
    | unmoved why => exact moved why
    | panicked asked' =>
      rw [queries] at asked'
      cases asked.symm.trans asked'
      rw [same, queries]
  | invalidated | cleared =>
    cases learns' with
    | unmoved why => exact moved why
    | _ => rw [same, cache]
  | closed =>
    cases learns' with
    | unmoved why => exact moved why
    | closed => rw [aborted, cache]
  | abandoned =>
    cases learns' with
    | unmoved why => exact moved why
    | abandoned => exact aborted

/-! ### The window and the providers -/

theorem step_measures (closed : c'.closed = c.closed) (window : c'.window = c.window)
    (providers : c'.providers = c.providers) (e : ClientEvent App) :
    (c'.step e).window = (c.step e).window ∧ (c'.step e).providers = (c.step e).providers := by
  have starts (t : Client App) (request : CallRequest) (m : Moment App) :
      (t.start request m).providers = t.providers := by
    obtain ⟨_, _, entered, same⟩ := t.start_entered request m
    obtain ⟨_, _, _, _, _, _, rfl⟩ := entered.frame
    rw [same]
  by_cases plain : e.IsPlain
  · obtain ⟨_, _, _, _, _, _, _, frame⟩ := c.step_frame plain
    obtain ⟨_, _, _, _, _, _, _, frame'⟩ := c'.step_frame plain
    rw [frame, frame']
    exact ⟨window, providers⟩
  cases e with
  | call request m =>
    refine ⟨by rw [step, step, start_window, start_window, closed, window, providers], ?_⟩
    rw [step, starts, providers, ← starts]
    rfl
  | readRate now => exact ⟨by simp only [step, internalRate, RateWindow.currentRate, window], providers⟩
  | registerProviders p =>
    simp only [step, registerProviders, closed, providers]
    split
    · exact ⟨window, providers⟩
    · cases c.providers.register p with
      | ok => exact ⟨window, rfl⟩
      | error => exact ⟨window, providers⟩
  | close =>
    simp only [step, close, closed]
    split
    · exact ⟨window, providers⟩
    · exact ⟨congrArg RateWindow.reset window, congrArg ProviderRegistry.clear providers⟩
  | _ => exact (plain trivial).elim

/-! ### Waiting -/

theorem phase?_waiting_iff {i : CallId} (old : i < c.nextCall) (e : ClientEvent App) {q : QueryId} {key : CheckKey}
    {purpose : Purpose} :
    (c.step e).phase? i = some (.waiting q key purpose) ↔
      c.phase? i = some (.waiting q key purpose) ∧ e ≠ .cancel i ∧ ∀ m, e = .resume i m → c.outcome? q = none := by
  constructor
  · intro after
    by_cases past : c.Past i
    · exact ((past.step e).2 q key purpose after).elim
    obtain ⟨q', key', purpose', waiting⟩ := waits_of_not_past old past
    rcases phase?_waiting old waiting e with ⟨m, result, rfl, _, goes⟩ | ⟨_, gone⟩ | ⟨wanted, pending, same⟩
    · exact (c.proceed_not_waiting key' purpose' result m q key purpose (Option.some.inj (goes.symm.trans after))).elim
    · cases gone.symm.trans after
    · cases same.symm.trans after
      exact ⟨waiting, wanted, pending⟩
  · rintro ⟨waiting, wanted, pending⟩
    rcases phase?_waiting old waiting e with ⟨m, result, rfl, ended, _⟩ | ⟨rfl, _⟩ | ⟨_, _, same⟩
    · cases (pending m rfl).symm.trans ended
    · exact (wanted rfl).elim
    · exact same

theorem start_waiting_iff {request : CallRequest} {m : Moment App} {q : QueryId} {key : CheckKey}
    {purpose : Purpose} :
    (c.start request m).phase? c.nextCall = some (.waiting q key purpose) ↔
      c.need? request m = some (key, purpose) ∧ c.heard? key m.now = none ∧
        (c.start request m).inFlight.find? key = some q := by
  have stale {key : CheckKey} (unheard : c.heard? key m.now = none) : c.cache.get? key m.now = none := by
    unfold heard? at unheard
    split at unheard
    · cases unheard
    · assumption
  constructor
  · intro waits
    cases need : c.need? request m with
    | none => exact ((start_past need).2 q key purpose waits).elim
    | some needed =>
      obtain ⟨key', purpose'⟩ := needed
      cases heard : c.heard? key' m.now with
      | some result =>
        obtain ⟨window, _, goes⟩ := start_hears need heard
        have waits' := Option.some.inj (goes.symm.trans waits)
        exact (proceed_not_waiting _ key' purpose' result m q key purpose waits').elim
      | none =>
        obtain ⟨q', flying, ⟨waits', _⟩ | ⟨_, heard', _⟩⟩ := start_misses need (stale heard)
        · cases waits.symm.trans waits'
          exact ⟨rfl, heard, flying⟩
        · cases heard.symm.trans heard'
  · rintro ⟨need, unheard, flying⟩
    obtain ⟨q', flying', ⟨waits, _⟩ | ⟨_, heard, _⟩⟩ := start_misses need (stale unheard)
    · cases flying.symm.trans flying'
      exact waits
    · cases unheard.symm.trans heard

/-! ### Clients that agree -/

/-- `c'` knows what `c` knows, and the same calls wait for the same, except for those that have gone. -/
structure Alike (gone : CallId → Prop) (c c' : Client App) : Prop where
  knowledge : c'.knowledge = c.knowledge
  window : c'.window = c.window
  providers : c'.providers = c.providers
  nextCall : c'.nextCall = c.nextCall
  waiting : ∀ i < c.nextCall, ¬ gone i → ∀ q key purpose,
    c'.phase? i = some (.waiting q key purpose) ↔ c.phase? i = some (.waiting q key purpose)
  forgotten : ∀ i, gone i → i < c'.nextCall ∧ c'.phase? i = none

namespace Alike

variable {gone : CallId → Prop}

theorem need? (alike : Alike gone c c') (request : CallRequest) (m : Moment App) :
    c'.need? request m = c.need? request m :=
  need?_congr (congrArg Knowledge.closed alike.knowledge) alike.window alike.providers request m

theorem outcome? (alike : Alike gone c c') (q : QueryId) : c'.outcome? q = c.outcome? q := by
  have queries : c'.queries = c.queries := congrArg Knowledge.queries alike.knowledge
  simp only [Client.outcome?, queryStatus?, queries]

theorem heard? (alike : Alike gone c c') (key : CheckKey) (now : Instant) :
    c'.heard? key now = c.heard? key now := by
  have cache : c'.cache = c.cache := congrArg Knowledge.cache alike.knowledge
  have inFlight : c'.inFlight = c.inFlight := congrArg Knowledge.inFlight alike.knowledge
  have queries : c'.queries = c.queries := congrArg Knowledge.queries alike.knowledge
  simp only [Client.heard?, queryStatus?, cache, inFlight, queries]

theorem step_knowledge (alike : Alike gone c c') (e : ClientEvent App) :
    (c'.step e).knowledge = (c.step e).knowledge :=
  (c.step_learns e).unique alike.knowledge alike.need? (c'.step_learns e)

theorem step_nextCall (alike : Alike gone c c') (e : ClientEvent App) :
    (c'.step e).nextCall = (c.step e).nextCall := by
  have called (request : CallRequest) (m : Moment App) :
      (c'.start request m).nextCall = (c.start request m).nextCall := by
    rw [start_numbered, start_numbered, alike.nextCall]
  rcases c.step_nextCall e with ⟨request, m, rfl⟩ | ⟨number, _⟩
  · exact called request m
  · rcases c'.step_nextCall e with ⟨request, m, rfl⟩ | ⟨number', _⟩
    · exact called request m
    · rw [number, number', alike.nextCall]

theorem step_forgotten (alike : Alike gone c c') (e : ClientEvent App) {i : CallId} (left : gone i) :
    i < (c'.step e).nextCall ∧ (c'.step e).phase? i = none := by
  obtain ⟨old, absent⟩ := alike.forgotten i left
  exact ⟨Nat.lt_of_lt_of_le old (c'.step_numbered e).2, phase?_forgotten old absent e⟩

theorem step (alike : Alike gone c c') (e : ClientEvent App) : Alike gone (c.step e) (c'.step e) := by
  have known := alike.step_knowledge e
  obtain ⟨window, providers⟩ :=
    step_measures (congrArg Knowledge.closed alike.knowledge) alike.window alike.providers e
  refine ⟨known, window, providers, alike.step_nextCall e, ?_, fun i left => alike.step_forgotten e left⟩
  intro i came stays q key purpose
  by_cases old : i < c.nextCall
  · have old' : i < c'.nextCall := alike.nextCall ▸ old
    rw [phase?_waiting_iff old, phase?_waiting_iff old', alike.waiting i old stays, alike.outcome?]
  -- The call comes in this very event.
  · rcases c.step_nextCall e with ⟨request, m, rfl⟩ | ⟨number, _⟩
    · have new : i = c.nextCall := by
        rw [Client.step, start_numbered] at came
        exact Nat.le_antisymm (Nat.le_of_lt_succ came) (Nat.le_of_not_lt old)
      have inFlight : (c'.start request m).inFlight = (c.start request m).inFlight :=
        congrArg Knowledge.inFlight known
      subst new
      rw [Client.step, Client.step, start_waiting_iff, ← alike.nextCall, start_waiting_iff, alike.need?, alike.heard?,
        inFlight]
    · rw [number] at came
      exact (old came).elim

theorem cancel (alike : Alike gone c c') {i : CallId} (came : i < c'.nextCall) :
    Alike (fun j => gone j ∨ j = i) c (c'.step (.cancel i)) := by
  have aside : (ClientEvent.cancel i : ClientEvent App).IsAside := trivial
  refine ⟨(c'.aside_knowledge aside).trans alike.knowledge, alike.window, alike.providers, alike.nextCall, ?_, ?_⟩
  · intro j old stays q key purpose
    obtain ⟨stays, other⟩ := not_or.mp stays
    have old' : j < c'.nextCall := alike.nextCall ▸ old
    have unnamed : (ClientEvent.cancel i : ClientEvent App).call? ≠ some j := by
      rintro ⟨⟩
      exact other rfl
    rw [phase?_others unnamed old']
    exact alike.waiting j old stays q key purpose
  · rintro j (left | rfl)
    · exact alike.step_forgotten _ left
    · exact ⟨came, phase?_erase j⟩

theorem hears? (alike : Alike gone c c') {e : ClientEvent App} {x : Hearing App} (stays : ¬ gone x.call)
    (came : ∀ m, e = .resume x.call m → x.call < c.nextCall) : c'.hears? e = some x ↔ c.hears? e = some x := by
  cases e with
  | call request m => simp only [Client.hears?, alike.need?, alike.heard?, alike.nextCall]
  | resume i m =>
    constructor
    · intro hears
      rcases hears?_cases hears with ⟨_, ⟨⟩, _⟩ | ⟨q, same, waiting, ended⟩
      have before := (alike.waiting x.call (came _ same) stays q x.key x.purpose).mp waiting
      rw [same]
      exact hears?_resume before ((alike.outcome? q).symm.trans ended) x.moment
    · intro hears
      rcases hears?_cases hears with ⟨_, ⟨⟩, _⟩ | ⟨q, same, waiting, ended⟩
      have after := (alike.waiting x.call (came _ same) stays q x.key x.purpose).mpr waiting
      rw [same]
      exact hears?_resume after ((alike.outcome? q).trans ended) x.moment
  | _ => rfl

end Alike

end Entitlement.Client
