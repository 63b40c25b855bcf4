import Entitlement.Proofs.Client.SingleFlight

/-!
What the end of a query leaves behind. A query that was answered is out of flight at once, one without a
snapshot leaves the cache as it was, and the next call that misses the cache begins a new query. A query
that broke down is the exception: it stays in flight, and whoever misses the cache is told of the breakdown
(`ended_query`, `panicked_query_stays`).
-/

namespace Entitlement

def QueryStatus.IsPanic (s : QueryStatus) : Prop := ∃ message, s = .panicked message

namespace Client

variable {App : Type} {c : Client App}

/-- On an open client a query ends by an answer, which takes it out of flight, or by a breakdown, which
does not. -/
theorem Learns.ended {e : ClientEvent App} {k : Knowledge} (learns : Learns c e k)
    (opened : e ≠ .close ∧ e ≠ .abandon) {q : QueryId} {key : CheckKey} {before status : QueryStatus}
    (found : c.queries.find? q = some ⟨key, before⟩) (running : before.isFinished = false)
    (present : k.queries.find? q = some ⟨key, status⟩) (ended : status.isFinished = true) :
    (∃ reply now, status = .answered (reply.map Grant.snapshot) ∧ k.cache = c.cacheAfter key reply now ∧
      k.inFlight = landed c.inFlight key q) ∨
    (status.IsPanic ∧ k.cache = c.cache ∧ k.inFlight = c.inFlight) := by
  have unchanged (same : c.queries.find? q = some ⟨key, status⟩) : False := by
    cases Option.some.inj (found.symm.trans same)
    cases running.symm.trans ended
  cases learns with
  | unmoved | invalidated | cleared => exact (unchanged present).elim
  | asked | begun =>
    simp only [Table.find?_insert] at present
    split at present
    · cases Option.some.inj present
      cases ended
    · exact (unchanged present).elim
  | @answered q' key' reply now asked =>
    simp only [Table.find?_insert] at present
    split at present
    · next same =>
      subst same
      cases Option.some.inj present
      exact Or.inl ⟨reply, now, rfl, rfl, rfl⟩
    · exact (unchanged present).elim
  | @panicked q' key' message asked =>
    simp only [Table.find?_insert] at present
    split at present
    · cases Option.some.inj present
      exact Or.inr ⟨⟨message, rfl⟩, rfl, rfl⟩
    · exact (unchanged present).elim
  | closed => exact (opened.1 rfl).elim
  | abandoned => exact (opened.2 rfl).elim

/-- A query that broke down stays in flight while the client is open. -/
theorem Learns.stuck {e : ClientEvent App} {k : Knowledge} (learns : Learns c e k)
    (opened : e ≠ .close ∧ e ≠ .abandon) {q : QueryId} {key : CheckKey} {message : String}
    (found : c.queries.find? q = some ⟨key, .panicked message⟩) (flying : c.inFlight.find? key = some q) :
    k.inFlight.find? key = some q := by
  cases learns with
  | unmoved | invalidated | cleared | asked | panicked => exact flying
  | begun need stale free =>
    simp only [Table.find?_insert]
    split
    · next same =>
      subst same
      cases free.symm.trans flying
    · exact flying
  | answered asked =>
    simp only [Knowledge.find?_landed]
    split
    · next lands =>
      obtain ⟨rfl, flying'⟩ := lands
      cases Option.some.inj (flying'.symm.trans flying)
      cases asked.symm.trans found
    · exact flying
  | closed => exact (opened.1 rfl).elim
  | abandoned => exact (opened.2 rfl).elim

/-- Only a call that misses the cache puts a query in flight for its key. -/
theorem Learns.stays_free {e : ClientEvent App} {k : Knowledge} (learns : Learns c e k) {key : CheckKey}
    (noMiss : ∀ request m purpose, e = .call request m → c.need? request m = some (key, purpose) →
      c.cache.get? key m.now ≠ none)
    (free : c.inFlight.find? key = none) : k.inFlight.find? key = none := by
  cases learns with
  | unmoved | invalidated | cleared | asked | panicked => exact free
  | begun need stale =>
    simp only [Table.find?_insert]
    split
    · next same =>
      subst same
      exact (noMiss _ _ _ rfl need stale).elim
    · exact free
  | answered =>
    simp only [Knowledge.find?_landed]
    split
    · rfl
    · exact free
  | closed | abandoned => rfl

/-- Who finds neither a fresh snapshot nor a query in flight begins one query. -/
theorem start_begun {request : CallRequest} {m : Moment App} {key : CheckKey} {purpose : Purpose}
    (need : c.need? request m = some (key, purpose)) (stale : c.cache.get? key m.now = none)
    (free : c.inFlight.find? key = none) :
    (c.start request m).queries = c.queries.insert c.nextQuery ⟨key, .queued⟩ ∧
      (c.start request m).phase? c.nextCall = some (.waiting c.nextQuery key purpose) := by
  obtain ⟨phase, after, entered, same⟩ := c.start_entered request m
  have known := phase?_start same
  rw [same] at known ⊢
  cases entered with
  | idle _ noNeed => cases noNeed.symm.trans need
  | hit _ need' fresh =>
    cases need'.symm.trans need
    cases fresh.symm.trans stale
  | told _ need' _ flying | joined _ need' _ flying =>
    cases need'.symm.trans need
    cases flying.symm.trans free
  | begun _ need' =>
    cases need'.symm.trans need
    exact ⟨rfl, known⟩

/-- Who finds a query in flight that has ended in an error gets that error, and nothing begins. -/
theorem start_told {request : CallRequest} {m : Moment App} {key : CheckKey} {purpose : Purpose}
    {q : QueryId} {e : ClientError} (need : c.need? request m = some (key, purpose))
    (stale : c.cache.get? key m.now = none) (flying : c.inFlight.find? key = some q)
    (ended : (c.queryStatus? q).bind QueryStatus.result? = some (.error e)) :
    (c.start request m).knowledge = c.knowledge ∧
      (c.start request m).phase? c.nextCall = some (.finished (.error e)) := by
  obtain ⟨phase, after, entered, same⟩ := c.start_entered request m
  have known := phase?_start same
  rw [same] at known ⊢
  cases entered with
  | idle _ noNeed => cases noNeed.symm.trans need
  | hit _ need' fresh =>
    cases need'.symm.trans need
    cases fresh.symm.trans stale
  | told _ need' _ flying' ended' =>
    cases need'.symm.trans need
    cases flying'.symm.trans flying
    cases ended'.symm.trans ended
    exact ⟨rfl, known⟩
  | joined _ need' _ flying' pending =>
    cases need'.symm.trans need
    cases flying'.symm.trans flying
    cases pending.symm.trans ended
  | begun _ need' _ free =>
    cases need'.symm.trans need
    cases free.symm.trans flying

end Client

namespace ClientHistory
open History

variable {App : Type} {h : ClientHistory App}

def StaysOpen (h : ClientHistory App) : Prop := ∀ e ∈ h.events, e ≠ .close ∧ e ≠ .abandon

/-- In the `n`th event the query `q` for `key` ends, as `status` says. -/
def Ends (h : ClientHistory App) (n : Nat) (q : QueryId) (key : CheckKey) (status : QueryStatus) : Prop :=
  (∃ before, (h.state n).queries.find? q = some ⟨key, before⟩ ∧ before.isFinished = false) ∧
    (h.state (n + 1)).queries.find? q = some ⟨key, status⟩ ∧ status.isFinished = true

/-- The first call after the `n`th event that misses the cache. -/
def NextMiss (h : ClientHistory App) (n m : Nat) (key : CheckKey) (purpose : Purpose) : Prop :=
  n < m ∧ h.Misses m key purpose ∧ ∀ j, n < j → j < m → ∀ purpose', ¬ h.Misses j key purpose'

/-- The `n`th event begins exactly one query, which is new and for `key`, and the call waits for it. -/
def StartsQuery (h : ClientHistory App) (n : Nat) (key : CheckKey) (purpose : Purpose) : Prop :=
  (h.state n).queries.find? (h.state n).nextQuery = none ∧
    (h.state (n + 1)).queries = (h.state n).queries.insert (h.state n).nextQuery ⟨key, .queued⟩ ∧
    (h.state (n + 1)).phase? (h.state n).nextCall = some (.waiting (h.state n).nextQuery key purpose)

theorem StaysOpen.event (opened : h.StaysOpen) {n : Nat} {e : ClientEvent App}
    (happened : h.events[n]? = some e) : e ≠ .close ∧ e ≠ .abandon :=
  opened e (List.mem_of_getElem? happened)

theorem Ends.event {n : Nat} {q : QueryId} {key : CheckKey} {status : QueryStatus}
    (ended : h.Ends n q key status) : ∃ e, h.events[n]? = some e := by
  obtain ⟨⟨before, found, running⟩, present, finished⟩ := ended
  rcases h.next n with ⟨e, happened, _⟩ | ⟨_, same⟩
  · exact ⟨e, happened⟩
  · rw [same] at present
    cases Option.some.inj (found.symm.trans present)
    cases running.symm.trans finished

theorem panic_flies (opened : h.StaysOpen) {n : Nat} {q : QueryId} {key : CheckKey} {message : String}
    (ended : h.Ends n q key (.panicked message)) {m : Nat} (later : n < m) :
    (h.state m).inFlight.find? key = some q := by
  obtain ⟨e, happened⟩ := ended.event
  obtain ⟨⟨before, found, running⟩, present, finished⟩ := ended
  have flying := (h.sound n).pending q key before found running
  have stays : (h.state (n + 1)).inFlight.find? key = some q := by
    rcases (learns happened).ended (opened.event happened) found running present finished with
      ⟨_, _, answered, _⟩ | ⟨_, _, same⟩
    · cases answered
    · exact (congrArg (Table.find? · key) same).trans flying
  refine induction (P := fun _ (c : Client App) => c.inFlight.find? key = some q) later stays ?_ (fun _ _ _ => id)
  intro k e reached happened flying
  have kept := finished_kept reached present rfl
  exact ((h.state k).step_learns e).stuck (opened.event happened) kept flying

theorem answer_lands (h : ClientHistory App) {n : Nat} {q : QueryId} {key : CheckKey} {status : QueryStatus}
    (ended : h.Ends n q key status) (answered : ¬ status.IsPanic) {m : Nat} (later : n < m)
    (key' : CheckKey) : (h.state m).inFlight.find? key' ≠ some q := by
  intro flying
  obtain ⟨_, present, finished⟩ := ended
  have kept := finished_kept later present finished
  obtain ⟨status', found, fits⟩ := (h.sound m).flown key' q flying
  cases Option.some.inj (kept.symm.trans found)
  rcases fits with running | panic
  · cases finished.symm.trans running
  · exact answered panic

/-- After an answer nothing is in flight for the key until a call misses the cache. -/
theorem free_until_miss (opened : h.StaysOpen) {n : Nat} {q : QueryId} {key : CheckKey}
    {status : QueryStatus} (ended : h.Ends n q key status) (answered : ¬ status.IsPanic) {m : Nat}
    (later : n < m) (noMiss : ∀ j, n < j → j < m → ∀ purpose, ¬ h.Misses j key purpose) :
    (h.state m).inFlight.find? key = none := by
  obtain ⟨e, happened⟩ := ended.event
  obtain ⟨⟨before, found, running⟩, present, finished⟩ := ended
  have lands : (h.state (n + 1)).inFlight.find? key = none := by
    rcases (learns happened).ended (opened.event happened) found running present finished with
      ⟨_, _, _, _, same⟩ | ⟨panic, _⟩
    · have flying := (h.sound n).pending q key before found running
      refine (congrArg (Table.find? · key) same).trans ?_
      simp only [Knowledge.find?_landed]
      exact if_pos ⟨trivial, flying⟩
    · exact (answered panic).elim
  -- The induction stops at `m`, for only up to there no call has missed the cache.
  refine induction (P := fun k (c : Client App) => k ≤ m → c.inFlight.find? key = none) later (fun _ => lands) ?_ ?_
    (Nat.le_refl m)
  · intro k e reached happened free sooner
    refine ((h.state k).step_learns e).stays_free ?_ (free (Nat.le_of_succ_le sooner))
    rintro request moment purpose rfl need stale
    exact noMiss k reached sooner purpose ⟨request, moment, happened, need, stale⟩
  · intro k _ _ free sooner
    exact free (Nat.le_of_succ_le sooner)

theorem failure_keeps_cache (opened : h.StaysOpen) {n : Nat} {q : QueryId} {key : CheckKey}
    {status : QueryStatus} (ended : h.Ends n q key status) (failed : ∀ s, status ≠ .answered (.ok s)) :
    (h.state (n + 1)).cache = (h.state n).cache := by
  obtain ⟨e, happened⟩ := ended.event
  obtain ⟨⟨before, found, running⟩, present, finished⟩ := ended
  rcases (learns happened).ended (opened.event happened) found running present finished with
    ⟨reply, now, answered, same, _⟩ | ⟨_, same, _⟩
  · cases reply with
    | ok grant => exact (failed _ answered).elim
    | error e => exact same
  · exact same

/-- A query that has ended is out of flight, and the next call that misses the cache begins one new query, exactly if
it did not break down. -/
theorem ended_query (h : ClientHistory App) (opened : h.StaysOpen) {n : Nat} {q : QueryId} {key : CheckKey}
    {status : QueryStatus} (ended : h.Ends n q key status) :
    (∀ m, n < m → ((∀ key', (h.state m).inFlight.find? key' ≠ some q) ↔ ¬ status.IsPanic)) ∧
    ((∀ s, status ≠ .answered (.ok s)) → (h.state (n + 1)).cache = (h.state n).cache) ∧
    (∀ m purpose, h.NextMiss n m key purpose → (h.StartsQuery m key purpose ↔ ¬ status.IsPanic)) ∧
    (∀ m purpose message, h.NextMiss n m key purpose → status = .panicked message →
      (h.state (m + 1)).queries = (h.state m).queries ∧
      (h.state (m + 1)).phase? (h.state m).nextCall =
        some (.finished (.error (.taskFailed (.panicked message))))) := by
  -- The last part is shown first: the one before it refutes a new query by what the call is told.
  have told (m : Nat) (purpose : Purpose) (message : String) (next : h.NextMiss n m key purpose)
      (panic : status = .panicked message) :
      (h.state (m + 1)).queries = (h.state m).queries ∧
      (h.state (m + 1)).phase? (h.state m).nextCall =
        some (.finished (.error (.taskFailed (.panicked message)))) := by
    subst panic
    obtain ⟨later, ⟨request, moment, happened, need, stale⟩, _⟩ := next
    have flying := panic_flies opened ended later
    have kept := finished_kept later ended.2.1 rfl
    have result : ((h.state m).queryStatus? q).bind QueryStatus.result? =
        some (.error (.taskFailed (.panicked message))) := by
      simp only [Client.queryStatus?, kept, Option.map_some, Option.bind_some, QueryStatus.result?]
    obtain ⟨known, phase⟩ := Client.start_told need stale flying result
    rw [state_succ happened]
    exact ⟨congrArg Knowledge.queries known, phase⟩
  refine ⟨?_, failure_keeps_cache opened ended, ?_, told⟩
  · intro m later
    constructor
    · rintro gone ⟨message, rfl⟩
      exact gone key (panic_flies opened ended later)
    · intro answered key'
      exact h.answer_lands ended answered later key'
  · intro m purpose next
    constructor
    · rintro ⟨_, _, waits⟩ ⟨message, panic⟩
      obtain ⟨_, phase⟩ := told m purpose message next panic
      cases phase.symm.trans waits
    · intro answered
      obtain ⟨later, ⟨request, moment, happened, need, stale⟩, noMiss⟩ := next
      have free := free_until_miss opened ended answered later noMiss
      obtain ⟨queries, phase⟩ := Client.start_begun need stale free
      rw [StartsQuery, state_succ happened]
      exact ⟨(h.sound m).fresh, queries, phase⟩

/-- Two checks of the product, and how the query that the first of them begins ends. -/
def checkedTwice (ending : ClientEvent Unit) : ClientHistory Unit :=
  ofEvents [.call (.check .product) ⟨⟨0⟩, 0, ()⟩, .ask 0, ending, .resume 0 ⟨⟨1⟩, 0, ()⟩,
    .call (.check .product) ⟨⟨2⟩, 0, ()⟩]

theorem checkedTwice_opened {ending : ClientEvent Unit} (going : ending ≠ .close ∧ ending ≠ .abandon) :
    (checkedTwice ending).StaysOpen := by
  intro e member
  simp only [checkedTwice, ofEvents, List.mem_cons, List.not_mem_nil, or_false] at member
  rcases member with rfl | rfl | rfl | rfl | rfl
  · exact ⟨nofun, nofun⟩
  · exact ⟨nofun, nofun⟩
  · exact going
  · exact ⟨nofun, nofun⟩
  · exact ⟨nofun, nofun⟩

def timedOut : ClientHistory Unit := checkedTwice (.queryReply 0 (.error .timeout) ⟨1⟩)

def brokenDown : ClientHistory Unit := checkedTwice (.queryPanic 0 "boom")

theorem timedOut_query_leaves :
    timedOut.StaysOpen ∧ timedOut.Ends 2 0 .product (.answered (.error .timeout)) ∧
    ∀ key, (timedOut.state 3).inFlight.find? key ≠ some 0 := by
  have opened : timedOut.StaysOpen := checkedTwice_opened ⟨nofun, nofun⟩
  have ended : timedOut.Ends 2 0 .product (.answered (.error .timeout)) :=
    ⟨⟨.asked, rfl, rfl⟩, rfl, rfl⟩
  have gone := (ended_query timedOut opened ended).1 3 (by decide)
  exact ⟨opened, ended, gone.mpr nofun⟩

/-- A query that broke down stays in flight, and the next check begins none: it is told of the breakdown. -/
theorem panicked_query_stays :
    brokenDown.StaysOpen ∧ brokenDown.Ends 2 0 .product (.panicked "boom") ∧
    (brokenDown.state 3).inFlight.find? .product = some 0 ∧
    brokenDown.NextMiss 2 4 .product .show ∧ ¬ brokenDown.StartsQuery 4 .product .show ∧
    (brokenDown.state 5).nextQuery = 1 ∧
    (brokenDown.state 5).phase? 1 = some (.finished (.error (.taskFailed (.panicked "boom")))) := by
  have next : brokenDown.NextMiss 2 4 .product .show := by
    refine ⟨by decide, ⟨.check .product, ⟨⟨2⟩, 0, ()⟩, rfl, rfl, rfl⟩, ?_⟩
    intro j after sooner purpose misses
    obtain rfl : j = 3 := by omega
    obtain ⟨_, _, happened, _⟩ := misses
    cases happened
  have phase : (brokenDown.state 5).phase? 1 =
      some (.finished (.error (.taskFailed (.panicked "boom")))) := rfl
  have none_begun : ¬ brokenDown.StartsQuery 4 .product .show := by
    rintro ⟨_, _, waits⟩
    cases phase.symm.trans waits
  exact ⟨checkedTwice_opened ⟨nofun, nofun⟩, ⟨⟨.asked, rfl, rfl⟩, rfl, rfl⟩, rfl, next, none_begun, rfl,
    phase⟩

end ClientHistory

end Entitlement
