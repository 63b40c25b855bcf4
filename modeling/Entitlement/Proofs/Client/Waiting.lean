import Entitlement.Proofs.Client.Usage

/-!
Calls that share a query. A call that finds no fresh snapshot goes by the query that is in flight for its key from
then on, whether it has begun that query or joined it (`Joins`). What such a call hears is what the query has ended
in (`Joins.hears`), so all of them hear the same; and until it hears, it waits, unless nobody wants its result any
more (`Joins.fate`).
-/

namespace Entitlement

namespace Client

variable {App : Type} {c : Client App}

def outcome? (c : Client App) (q : QueryId) : Option (Except ClientError Snapshot) :=
  (c.queryStatus? q).bind QueryStatus.result?

theorem outcome?_some {q : QueryId} {result : Except ClientError Snapshot} :
    c.outcome? q = some result ↔ ∃ query, c.queries.find? q = some query ∧ query.status.result? = some result := by
  simp only [outcome?, queryStatus?, Option.bind_eq_some_iff, Option.map_eq_some_iff]
  constructor
  · rintro ⟨_, ⟨query, found, rfl⟩, ended⟩
    exact ⟨query, found, ended⟩
  · rintro ⟨query, found, ended⟩
    exact ⟨query.status, ⟨query, found, rfl⟩, ended⟩

theorem outcome?_eq_none {q : QueryId} {key : CheckKey} {status : QueryStatus}
    (found : c.queries.find? q = some ⟨key, status⟩) : c.outcome? q = none ↔ status.isFinished = false := by
  rw [outcome?, queryStatus?, found, Option.map_some, Option.bind_some, QueryStatus.isFinished,
    Option.isSome_eq_false_iff, Option.isNone_iff_eq_none]

theorem hears?_resume {i : CallId} {q : QueryId} {key : CheckKey} {purpose : Purpose}
    {result : Except ClientError Snapshot} (waiting : c.phase? i = some (.waiting q key purpose))
    (ended : c.outcome? q = some result) (m : Moment App) :
    c.hears? (.resume i m) = some ⟨i, key, purpose, result, m⟩ := by
  rw [outcome?] at ended
  simp only [hears?, waiting, ended, Option.map_some]

/-- Who finds no fresh snapshot waits for the query that is in flight afterwards, or hears at once what that has
ended in. -/
theorem start_misses {request : CallRequest} {m : Moment App} {key : CheckKey} {purpose : Purpose}
    (need : c.need? request m = some (key, purpose)) (stale : c.cache.get? key m.now = none) :
    ∃ q, (c.start request m).inFlight.find? key = some q ∧
      (((c.start request m).phase? c.nextCall = some (.waiting q key purpose) ∧ c.heard? key m.now = none) ∨
        ∃ result, c.heard? key m.now = some result ∧ c.outcome? q = some result) := by
  obtain ⟨phase, after, entered, same⟩ := c.start_entered request m
  rw [phase?_start same, same]
  cases entered with
  | idle _ noNeed => cases noNeed.symm.trans need
  | hit _ need' fresh =>
    cases need'.symm.trans need
    cases fresh.symm.trans stale
  | @told _ _ q result window need' _ flying ended =>
    cases need'.symm.trans need
    obtain ⟨_, _, _, frame⟩ := { c with window }.proceed_frame key purpose result m
    refine ⟨q, ?_, Or.inr ⟨result, ?_, ended⟩⟩
    · rw [frame]
      exact flying
    · rw [heard?, stale, flying, Option.bind_some, ended]
  | @joined _ _ q _ need' _ flying pending =>
    cases need'.symm.trans need
    exact ⟨q, flying, Or.inl ⟨rfl, by rw [heard?, stale, flying, Option.bind_some, pending]⟩⟩
  | begun _ need' _ free =>
    cases need'.symm.trans need
    exact ⟨c.nextQuery, Table.find?_insert_self .., Or.inl ⟨rfl, by rw [heard?, stale, free, Option.bind_none]⟩⟩

end Client

namespace ClientHistory
open History

variable {App : Type} {h : ClientHistory App}

/-- In the `n`th event the call `i` finds no fresh snapshot of `key` and goes by the query `q` from then on, which it
begins or finds in flight. -/
def Joins (h : ClientHistory App) (n : Nat) (i : CallId) (q : QueryId) (key : CheckKey) (purpose : Purpose) : Prop :=
  h.Misses n key purpose ∧ i = (h.state n).nextCall ∧ (h.state (n + 1)).inFlight.find? key = some q

theorem outcome_kept {m n : Nat} (later : m ≤ n) {q : QueryId} {result : Except ClientError Snapshot}
    (ended : (h.state m).outcome? q = some result) : (h.state n).outcome? q = some result := by
  obtain ⟨query, found, ended⟩ := Client.outcome?_some.mp ended
  have finished : query.status.isFinished = true := by rw [QueryStatus.isFinished, ended, Option.isSome_some]
  exact Client.outcome?_some.mpr ⟨query, finished_kept later found finished, ended⟩

theorem outcome_unique {m n : Nat} {q : QueryId} {result result' : Except ClientError Snapshot}
    (ended : (h.state m).outcome? q = some result) (ended' : (h.state n).outcome? q = some result') :
    result = result' := by
  rcases Nat.le_total m n with later | sooner
  · exact Option.some.inj ((outcome_kept later ended).symm.trans ended')
  · exact Option.some.inj (ended.symm.trans (outcome_kept sooner ended'))

/-! ### Waiting -/

/-- A call that waits has looked for a snapshot when it came, and has waited for the same query ever since. -/
theorem waited_since {k : Nat} {i : CallId} {q : QueryId} {key : CheckKey} {purpose : Purpose}
    (waiting : (h.state k).phase? i = some (.waiting q key purpose)) :
    ∃ l < k, ∃ request m, h.Calls l i request m ∧ (h.state l).need? request m = some (key, purpose) ∧
      (h.state l).cache.get? key m.now = none ∧
      (h.state (l + 1)).phase? i = some (.waiting q key purpose) ∧
      ∃ status, (h.state (l + 1)).queries.find? q = some ⟨key, status⟩ ∧ status.isFinished = false := by
  obtain ⟨request, found⟩ := Client.phase?_some waiting
  cases h.story k found with
  | idle idle => cases idle
  | waiting awaits =>
    obtain ⟨_, l, sooner, ⟨request, m, happened, need, stale⟩, number, since⟩ := awaits
    exact ⟨l, sooner, request, m, ⟨happened, number⟩, need, stale, since⟩

theorem phase?_lt {k : Nat} {i : CallId} {phase : Phase} (has : (h.state k).phase? i = some phase) :
    i < (h.state k).nextCall := by
  obtain ⟨request, found⟩ := Client.phase?_some has
  refine h.invariant (P := fun c => ∀ i call, c.calls.find? i = some call → i < c.nextCall) ?_ ?_ k i _ found
  · intro i call found
    rw [h.start_blank.2.1] at found
    cases found
  · intro j e _ before i call found
    have more := ((h.state j).step_numbered e).2
    cases Client.step_goes found with
    | comes new =>
      rw [Client.step, Client.start_numbered]
      exact Nat.lt_succ_of_le (Nat.le_of_eq new)
    | stays before' | resumes _ before' | reported _ before' | registered _ _ before' =>
      exact Nat.lt_of_lt_of_le (before i _ before') more

/-- A call that waits is told what its query has ended in, is given up, or goes on waiting. -/
theorem waiting_succ {k : Nat} {i : CallId} {q : QueryId} {key : CheckKey} {purpose : Purpose}
    (waiting : (h.state k).phase? i = some (.waiting q key purpose)) :
    (∃ m result, h.events[k]? = some (.resume i m) ∧ (h.state k).outcome? q = some result) ∨
    h.events[k]? = some (.cancel i) ∨ (h.state (k + 1)).phase? i = some (.waiting q key purpose) := by
  rcases h.next k with ⟨e, happened, moved⟩ | ⟨_, same⟩
  · rcases Client.phase?_waiting (phase?_lt waiting) waiting e with
      ⟨m, result, rfl, ended, _⟩ | ⟨rfl, _⟩ | ⟨_, _, still⟩
    · exact Or.inl ⟨m, result, happened, ended⟩
    · exact Or.inr (Or.inl happened)
    · exact Or.inr (Or.inr (moved ▸ still))
  · exact Or.inr (Or.inr (same ▸ waiting))

/-- Between its coming and the moment at which it still waits a call waits for the same. -/
theorem waiting_throughout {l j k : Nat} {i : CallId} {request : CallRequest} {m : Moment App}
    (called : h.Calls l i request m) (after : l < j) (before : j ≤ k) {q : QueryId} {key : CheckKey}
    {purpose : Purpose} (waiting : (h.state k).phase? i = some (.waiting q key purpose)) :
    (h.state j).phase? i = some (.waiting q key purpose) := by
  by_cases past : (h.state j).Past i
  · exact ((past_later before past).2 q key purpose waiting).elim
  obtain ⟨q', key', purpose', waiting'⟩ := Client.waits_of_not_past (number_lt after called) past
  -- Both say what the call has waited for since it came.
  obtain ⟨l₁, _, _, _, called₁, _, _, since, _⟩ := waited_since waiting
  obtain ⟨l₂, _, _, _, called₂, _, _, since', _⟩ := waited_since waiting'
  obtain ⟨rfl, _⟩ := called₁.unique called₂
  rw [waiting', ← since', since]

theorem resumed_lt {k : Nat} {e : ClientEvent App} {x : Hearing App} (hears : (h.state k).hears? e = some x)
    {m : Moment App} (resumed : e = .resume x.call m) : x.call < (h.state k).nextCall := by
  rcases Client.hears?_cases hears with ⟨_, called, _⟩ | ⟨q, _, waiting, _⟩
  · cases resumed.symm.trans called
  · exact phase?_lt waiting

/-! ### Joining -/

theorem Joins.calls {l : Nat} {i : CallId} {q : QueryId} {key : CheckKey} {purpose : Purpose}
    (joins : h.Joins l i q key purpose) :
    ∃ request m, h.Calls l i request m ∧ (h.state l).need? request m = some (key, purpose) ∧
      (((h.state (l + 1)).phase? i = some (.waiting q key purpose) ∧ (h.state l).heard? key m.now = none) ∨
        ∃ result, (h.state l).heard? key m.now = some result ∧ (h.state l).outcome? q = some result) := by
  obtain ⟨⟨request, m, happened, need, stale⟩, number, flying⟩ := joins
  subst number
  rw [state_succ happened] at flying ⊢
  obtain ⟨q', flying', goes⟩ := Client.start_misses need stale
  cases flying.symm.trans flying'
  exact ⟨request, m, ⟨happened, rfl⟩, need, goes⟩

theorem Joins.hears {l : Nat} {i : CallId} {q : QueryId} {key : CheckKey} {purpose : Purpose}
    (joins : h.Joins l i q key purpose) {n : Nat} {m : Moment App} {result : Except ClientError Snapshot}
    (hears : h.Hears n i m result) : (h.state n).outcome? q = some result := by
  obtain ⟨request, moment, called, need, goes⟩ := joins.calls
  obtain ⟨e, key', purpose', happened, heard⟩ := hears
  rcases Client.hears?_cases heard with ⟨request', rfl, number, need', told⟩ | ⟨q', rfl, waiting, ended⟩
  · obtain ⟨rfl, rfl⟩ := called.unique ⟨happened, number⟩
    cases called.1.symm.trans happened
    cases need.symm.trans need'
    rcases goes with ⟨_, unheard⟩ | ⟨result', told', ended⟩
    · cases unheard.symm.trans told
    · cases told'.symm.trans told
      exact ended
  · obtain ⟨l', _, _, _, called', _, _, since, _⟩ := waited_since waiting
    obtain ⟨rfl, _⟩ := called.unique called'
    rcases goes with ⟨waits, _⟩ | ⟨result', told, _⟩
    · cases waits.symm.trans since
      exact ended
    -- Who is told at once does not wait.
    · exact ((hearing_past called.1 (called.hears? need told)).2 _ _ _ since).elim

/-- A snapshot that the call hears is the authority's answer to the query, and was put in the cache. -/
theorem Joins.granted {l : Nat} {i : CallId} {q : QueryId} {key : CheckKey} {purpose : Purpose}
    (joins : h.Joins l i q key purpose) {n : Nat} {m : Moment App} {s : Snapshot} (hears : h.Hears n i m (.ok s)) :
    ∃ a < n, ∃ grant now, h.Answers a q key grant now ∧ grant.snapshot = s ∧
      (h.state (a + 1)).cache.entries.find? key = some (.storedAt s (h.lifetime grant) now) := by
  obtain ⟨⟨key', status⟩, found, ended⟩ := Client.outcome?_some.mp (joins.hears hears)
  cases QueryStatus.result?_ok ended
  -- The query is in flight for the key of the call, so that is the key that the authority was asked about.
  obtain ⟨status, flown, _⟩ := (h.sound (l + 1)).flown key q joins.2.2
  obtain ⟨_, present, _⟩ := key_kept (Nat.le_max_left (l + 1) n) flown
  obtain ⟨_, present', _⟩ := key_kept (Nat.le_max_right (l + 1) n) found
  cases Option.some.inj (present.symm.trans present')
  obtain ⟨a, sooner, grant, now, answers, rfl⟩ := h.answered_before n found
  exact ⟨a, sooner, grant, now, answers, rfl, answers.cached⟩

end ClientHistory

end Entitlement
