import Entitlement.Proofs.Client.Thinning

/-!
Events and what is about one key. An event about the key `k`, or about no key, happens in a client and in what is
left of it for `k` in the same way (`Thinned.step`); an event about another key changes nothing that is about `k`
(`Thinned.step_other`).
-/

namespace Entitlement.Client

variable {App : Type}

/-- A sign of life is about no key. -/
theorem heartbeatTick_aside (c : Client App) (now : Instant) (k : CheckKey) :
    ∃ heartbeat sent, c.heartbeatTick now = { c with heartbeat, sent } ∧
      (c.heartbeatTick now).sentFor k = c.sentFor k := by
  unfold heartbeatTick
  simp only
  split
  · refine ⟨_, _, rfl, ?_⟩
    rw [sentFor_send, AuthorityRequest.key?, if_neg (Option.some_ne_none k).symm, List.append_nil]
    rfl
  · exact ⟨_, _, rfl, rfl⟩

theorem registerProviders_eq (c : Client App) (p : MeasurementProviders App) :
    (c.registerProviders p).toOption.getD c =
      { c with
        providers := if c.closed then c.providers else (c.providers.register p).toOption.getD c.providers } := by
  unfold registerProviders
  split
  · rfl
  · cases c.providers.register p <;> rfl

namespace Thinned

variable {t : Labels} {k : CheckKey} {c d : Client App}

/-! ### Calls that have come -/

theorem phase? (thinned : Thinned t k c d) {i : CallId} (keeps : k.Keeps (t.call i)) :
    (c.phase? i = none ∧ d.phase? ((t.ranks k).call i) = none) ∨
      ∃ request phase phase', c.calls.find? i = some ⟨request, phase⟩ ∧ c.phase? i = some phase ∧
        d.phase? ((t.ranks k).call i) = some phase' ∧ phase.Like request.ReadsRate (t.ranks k) phase' := by
  unfold Client.phase?
  cases found : c.calls.find? i with
  | none =>
    have absent : d.calls.find? ((t.ranks k).call i) = none := thinned.calls.none_of_none keeps found
    exact Or.inl ⟨rfl, by rw [absent]; rfl⟩
  | some x =>
    obtain ⟨y, found', like⟩ := thinned.calls.some_of_some keeps found
    have present : d.calls.find? ((t.ranks k).call i) = some y := found'
    exact Or.inr ⟨x.request, x.phase, y.phase, rfl, rfl, by rw [present]; rfl, like.phase⟩

theorem resume (thinned : Thinned t k c d) (fits : t.Fits c) {i : CallId} (keeps : k.Keeps (t.call i)) (m : Moment App)
    (after : t.Fits (c.resume i m)) : Thinned t k (c.resume i m) (d.resume ((t.ranks k).call i) m) := by
  rcases thinned.phase? keeps with ⟨absent, absent'⟩ | ⟨request, phase, phase', found, present, present', like⟩
  · simp only [Client.resume, absent, absent']
    exact thinned
  simp only [Client.resume, present, present'] at after ⊢
  cases like with
  | waiting q key like =>
    -- The call is kept, so it is for `k`, and so is the query that it waits for.
    obtain ⟨own, asked⟩ := fits.waiting i q key _ present
    rw [own] at keeps
    obtain rfl := keeps.eq
    have outcome := thinned.outcome? (asked ▸ key.keeps_self)
    simp only [Client.outcome?] at outcome
    simp only [outcome]
    cases ended : (c.queryStatus? q).bind QueryStatus.result? with
    | none => exact thinned
    | some result =>
      simp only [ended] at after
      obtain ⟨thinned', like'⟩ := thinned.proceed like result m ⟨after.query, after.guard⟩
      refine thinned'.setPhase (own ▸ key.keeps_self) fun x found' => ?_
      rw [proceed_calls, found] at found'
      cases Option.some.inj found'
      exact like'
  | reporting | registering | finished => exact thinned

theorem resume_other (thinned : Thinned t k c d) (fits : t.Fits c) {i : CallId} (other : ¬ k.Keeps (t.call i))
    (m : Moment App) (after : t.Fits (c.resume i m)) : Thinned t k (c.resume i m) d := by
  rcases c.resume_settled i m with same | ⟨q, key, purpose, result, waiting, ended, same⟩
  · rw [same]
    exact thinned
  · have apart : key ≠ k := by
      rintro rfl
      exact other (Or.inr (fits.waiting i q key purpose waiting).1)
    rw [same] at after ⊢
    exact (thinned.proceed_other apart purpose result m ⟨after.query, after.guard⟩).setPhase_other other _

theorem reportReplied (thinned : Thinned t k c d) {i : CallId} (keeps : k.Keeps (t.call i))
    (reply : Except ClientError Unit) :
    Thinned t k (c.reportReplied i reply) (d.reportReplied ((t.ranks k).call i) reply) := by
  rcases thinned.phase? keeps with ⟨absent, absent'⟩ | ⟨request, phase, phase', found, present, present', like⟩
  · simp only [Client.reportReplied, absent, absent']
    exact thinned
  simp only [Client.reportReplied, present, present']
  cases like with
  | reporting outcome =>
    refine thinned.setPhase keeps fun _ _ => .finished ?_
    rcases outcome with _ | outcome <;> rcases reply with e | _
    · exact .renumbered (.error e)
    · exact .renumbered (.ok .done)
    · exact .renumbered (.error _)
    · exact .renumbered (.ok (.consumed outcome))
  | waiting | registering | finished => exact thinned

theorem reportReplied_other (thinned : Thinned t k c d) {i : CallId} (other : ¬ k.Keeps (t.call i))
    (reply : Except ClientError Unit) : Thinned t k (c.reportReplied i reply) d := by
  unfold Client.reportReplied
  split
  · exact thinned.setPhase_other other _
  · exact thinned

theorem heartbeat (thinned : Thinned t k c d) (loop loop' : HeartbeatLoop) :
    Thinned t k { c with heartbeat := loop } { d with heartbeat := loop' } :=
  { thinned with }

theorem registerReplied (thinned : Thinned t k c d) {i : CallId} (keeps : k.Keeps (t.call i))
    (reply : Except ClientError Unit) (now : Instant) :
    Thinned t k (c.registerReplied i reply now) (d.registerReplied ((t.ranks k).call i) reply now) := by
  rcases thinned.phase? keeps with ⟨absent, absent'⟩ | ⟨request, phase, phase', found, present, present', like⟩
  · simp only [Client.registerReplied, absent, absent']
    exact thinned
  simp only [Client.registerReplied, present, present']
  cases like with
  | registering =>
    cases reply with
    | error e => exact thinned.setPhase keeps fun _ _ => .failed e
    | ok => exact (thinned.heartbeat _ _).setPhase keeps fun _ _ => .finished (.renumbered (.ok .done))
  | waiting | reporting | finished => exact thinned

theorem registerReplied_other (thinned : Thinned t k c d) {i : CallId} (other : ¬ k.Keeps (t.call i))
    (reply : Except ClientError Unit) (now : Instant) : Thinned t k (c.registerReplied i reply now) d := by
  unfold Client.registerReplied
  split
  · cases reply with
    | error e => exact thinned.setPhase_other other _
    | ok => exact (thinned.heartbeat _ d.heartbeat).setPhase_other other _
  · exact thinned

theorem forget (thinned : Thinned t k c d) {i : CallId} (keeps : k.Keeps (t.call i)) :
    Thinned t k { c with calls := c.calls.erase i } { d with calls := d.calls.erase ((t.ranks k).call i) } :=
  { thinned with calls := thinned.calls.erase keeps }

theorem forget_other (thinned : Thinned t k c d) {i : CallId} (other : ¬ k.Keeps (t.call i)) :
    Thinned t k { c with calls := c.calls.erase i } d :=
  { thinned with calls := thinned.calls.erase_other other }

theorem take (thinned : Thinned t k c d) {i : CallId} (keeps : k.Keeps (t.call i)) :
    Thinned t k (c.take i) (d.take ((t.ranks k).call i)) := by
  rcases thinned.phase? keeps with ⟨absent, absent'⟩ | ⟨request, phase, phase', found, present, present', like⟩
  · simp only [Client.take, absent, absent']
    exact thinned
  simp only [Client.take, present, present']
  cases like with
  | finished => exact thinned.forget keeps
  | waiting | reporting | registering => exact thinned

theorem take_other (thinned : Thinned t k c d) {i : CallId} (other : ¬ k.Keeps (t.call i)) :
    Thinned t k (c.take i) d := by
  unfold Client.take
  split
  · exact thinned.forget_other other
  · exact thinned

theorem dropSlot (thinned : Thinned t k c d) {g : GuardId} (keeps : k.Keeps (t.guard g)) :
    Thinned t k (c.dropSlot g) (d.dropSlot ((t.ranks k).guard g)) :=
  { thinned with ledger := thinned.ledger.drop keeps }

theorem dropSlot_other (thinned : Thinned t k c d) (names : t.Names c) {g : GuardId} (other : ¬ k.Keeps (t.guard g)) :
    Thinned t k (c.dropSlot g) d :=
  { thinned with ledger := thinned.ledger.drop_other other (names.guard_other other) }

theorem releaseSlot (thinned : Thinned t k c d) {g : GuardId} (keeps : k.Keeps (t.guard g)) :
    Thinned t k (c.releaseSlot g) (d.releaseSlot ((t.ranks k).guard g)) :=
  { thinned with ledger := thinned.ledger.release keeps }

theorem releaseSlot_other (thinned : Thinned t k c d) (names : t.Names c) {g : GuardId}
    (other : ¬ k.Keeps (t.guard g)) : Thinned t k (c.releaseSlot g) d :=
  { thinned with ledger := thinned.ledger.release_other other (names.guard_other other) }

theorem cancel (thinned : Thinned t k c d) (fits : t.Fits c) {i : CallId} (keeps : k.Keeps (t.call i)) :
    Thinned t k (c.cancel i) (d.cancel ((t.ranks k).call i)) := by
  have guards : (d.phase? ((t.ranks k).call i)).bind Phase.guard? =
      ((c.phase? i).bind Phase.guard?).map (t.ranks k).guard := by
    rcases thinned.phase? keeps with ⟨absent, absent'⟩ | ⟨_, _, _, _, present, present', like⟩
    · rw [absent, absent']
      rfl
    · rw [present, present']
      exact like.guard?
  unfold Client.cancel
  rw [guards]
  cases held : (c.phase? i).bind Phase.guard? with
  | none => exact thinned.forget keeps
  | some g =>
    -- The guard of a call has the key of the call.
    have named : k.Keeps (t.guard g) := fits.held held ▸ keeps
    exact (thinned.dropSlot named).forget keeps

theorem cancel_other (thinned : Thinned t k c d) (fits : t.Fits c) {i : CallId} (other : ¬ k.Keeps (t.call i)) :
    Thinned t k (c.cancel i) d := by
  unfold Client.cancel
  cases held : (c.phase? i).bind Phase.guard? with
  | none => exact thinned.forget_other other
  | some g =>
    have named : ¬ k.Keeps (t.guard g) := fits.held held ▸ other
    exact (thinned.dropSlot_other fits.toNames named).forget_other other

/-! ### Queries -/

theorem setStatus (thinned : Thinned t k c d) {q : QueryId} (keeps : k.Keeps (t.query q)) (status : QueryStatus) :
    Thinned t k (c.setStatus q status) (d.setStatus ((t.ranks k).query q) status) where
  __ := thinned
  queries := thinned.queries.modify keeps fun _ _ _ same => by rw [same]

theorem setStatus_other (thinned : Thinned t k c d) {q : QueryId} (other : ¬ k.Keeps (t.query q))
    (status : QueryStatus) : Thinned t k (c.setStatus q status) d where
  __ := thinned
  queries := thinned.queries.modify_other other _

theorem ask (thinned : Thinned t k c d) {q : QueryId} (keeps : k.Keeps (t.query q)) :
    Thinned t k (c.ask q) (d.ask ((t.ranks k).query q)) := by
  unfold Client.ask
  rw [thinned.query? keeps]
  split
  · exact (thinned.setStatus keeps _).send _
  · exact thinned

theorem ask_other (thinned : Thinned t k c d) (names : t.Names c) {q : QueryId} (other : ¬ k.Keeps (t.query q)) :
    Thinned t k (c.ask q) d := by
  unfold Client.ask
  split
  · next found =>
    refine (thinned.setStatus_other other _).send_other fun same => ?_
    exact names.query_other other found (Option.some.inj same)
  · exact thinned

theorem queryPanicked (thinned : Thinned t k c d) {q : QueryId} (keeps : k.Keeps (t.query q)) (message : String) :
    Thinned t k (c.queryPanicked q message) (d.queryPanicked ((t.ranks k).query q) message) := by
  unfold Client.queryPanicked queryStatus?
  rw [thinned.query? keeps]
  split
  · exact thinned.setStatus keeps _
  · exact thinned

theorem queryPanicked_other (thinned : Thinned t k c d) {q : QueryId} (other : ¬ k.Keeps (t.query q))
    (message : String) : Thinned t k (c.queryPanicked q message) d := by
  unfold Client.queryPanicked
  split
  · exact thinned.setStatus_other other _
  · exact thinned

/-- The query in flight for `k` is the same in both. -/
theorem flies_iff (thinned : Thinned t k c d) (flying : ∀ q, c.inFlight.find? k = some q → t.query q = some k)
    {q : QueryId} (keeps : k.Keeps (t.query q)) :
    d.inFlight.find? k = some ((t.ranks k).query q) ↔ c.inFlight.find? k = some q := by
  rw [thinned.flight, Option.map_eq_some_iff]
  constructor
  · rintro ⟨q', flown, same⟩
    have keeps' : k.Keeps (t.query q') := flying q' flown ▸ k.keeps_self
    have number : q' = q := Nat.count_injective (p := fun q => k.Keeps (t.query q)) keeps' keeps same
    rw [flown, number]
  · intro flown
    exact ⟨q, flown, rfl⟩

theorem land (thinned : Thinned t k c d) (flying : ∀ q, c.inFlight.find? k = some q → t.query q = some k)
    {q : QueryId} (keeps : k.Keeps (t.query q)) : Thinned t k (c.land k q) (d.land k ((t.ranks k).query q)) := by
  unfold Client.land
  simp only [thinned.flies_iff flying keeps]
  split
  · exact { thinned with flight := by simp only [Table.find?_erase_self, Option.map_none] }
  · exact thinned

theorem land_other (thinned : Thinned t k c d) {key : CheckKey} (other : key ≠ k) (q : QueryId) :
    Thinned t k (c.land key q) d := by
  unfold Client.land
  split
  · exact { thinned with flight := by simp only [Table.find?_erase_of_ne other.symm, thinned.flight] }
  · exact thinned

theorem cacheAfter (thinned : Thinned t k c d) (reply : Except ClientError Grant) (now : Instant) :
    Thinned t k { c with cache := c.cacheAfter k reply now } { d with cache := d.cacheAfter k reply now } := by
  have same : (d.cacheAfter k reply now).defaultTtl = (c.cacheAfter k reply now).defaultTtl ∧
      (d.cacheAfter k reply now).entries.find? k = (c.cacheAfter k reply now).entries.find? k := by
    cases reply with
    | error e => exact ⟨thinned.defaultTtl, thinned.cached⟩
    | ok grant =>
      simp only [Client.cacheAfter, thinned.closed]
      split
      · exact ⟨thinned.defaultTtl, thinned.cached⟩
      · refine ⟨thinned.defaultTtl, ?_⟩
        simp only [Cache.find?_put, ↓reduceIte, Cache.effectiveTtl, thinned.defaultTtl]
  exact { thinned with defaultTtl := same.1, cached := same.2 }

theorem cacheAfter_other (thinned : Thinned t k c d) {key : CheckKey} (other : key ≠ k)
    (reply : Except ClientError Grant) (now : Instant) :
    Thinned t k { c with cache := c.cacheAfter key reply now } d := by
  cases reply with
  | error e => exact thinned
  | ok grant =>
    simp only [Client.cacheAfter]
    split
    · exact thinned
    · refine { thinned with cached := ?_ }
      simp only [Cache.find?_put, other.symm, ↓reduceIte, thinned.cached]

theorem queryReplied (thinned : Thinned t k c d) (fits : t.Fits c) {q : QueryId} (keeps : k.Keeps (t.query q))
    (reply : Except ClientError Grant) (now : Instant) :
    Thinned t k (c.queryReplied q reply now) (d.queryReplied ((t.ranks k).query q) reply now) := by
  unfold Client.queryReplied
  rw [thinned.query? keeps]
  split
  · next found =>
    obtain rfl := fits.query_kept keeps found
    exact ((thinned.cacheAfter reply now).setStatus keeps _).land (fits.flight _) keeps
  · exact thinned

theorem queryReplied_other (thinned : Thinned t k c d) (names : t.Names c) {q : QueryId}
    (other : ¬ k.Keeps (t.query q)) (reply : Except ClientError Grant) (now : Instant) :
    Thinned t k (c.queryReplied q reply now) d := by
  unfold Client.queryReplied
  split
  · next found =>
    have apart := names.query_other other found
    exact ((thinned.cacheAfter_other apart reply now).setStatus_other other _).land_other apart q
  · exact thinned

theorem abortQueries (thinned : Thinned t k c d) (fits : t.Fits c) :
    Thinned t k c.abortQueries d.abortQueries where
  __ := thinned
  flight := rfl
  queries := by
    refine Table.Thinned.eq_iff.mpr fun q keeps => ?_
    have aborted := find?_abortQueries d ((t.ranks k).query q)
    rw [thinned.query? keeps] at aborted
    refine aborted.trans ((Option.map_congr fun query found => ?_).trans (find?_abortQueries c q).symm)
    rw [fits.query_kept keeps found]
    simp only [thinned.flies_iff (fits.flight k) keeps]

/-! ### Everything else -/

theorem invalidate (thinned : Thinned t k c d) : Thinned t k (c.invalidate k).2 (d.invalidate k).2 where
  __ := thinned
  cached := by simp only [Client.invalidate, Cache.find?_invalidate, ↓reduceIte]

theorem invalidate_other (thinned : Thinned t k c d) {key : CheckKey} (other : key ≠ k) :
    Thinned t k (c.invalidate key).2 d where
  __ := thinned
  cached := by simp only [Client.invalidate, Cache.find?_invalidate, other.symm, ↓reduceIte, thinned.cached]

theorem clearCache (thinned : Thinned t k c d) : Thinned t k c.clearCache d.clearCache :=
  { thinned with cached := rfl }

theorem registerProviders (thinned : Thinned t k c d) (p : MeasurementProviders App) :
    Thinned t k ((c.registerProviders p).toOption.getD c) ((d.registerProviders p).toOption.getD d) := by
  rw [registerProviders_eq, registerProviders_eq]
  exact { thinned with providers := by simp only [thinned.closed, thinned.providers] }

theorem heartbeatTick (thinned : Thinned t k c d) (now : Instant) :
    Thinned t k (c.heartbeatTick now) (d.heartbeatTick now) := by
  obtain ⟨_, sent, same, aside⟩ := c.heartbeatTick_aside now k
  obtain ⟨_, sent', same', aside'⟩ := d.heartbeatTick_aside now k
  rw [same] at aside ⊢
  rw [same'] at aside' ⊢
  exact { thinned with sent := aside'.trans (thinned.sent.trans aside.symm) }

theorem close (thinned : Thinned t k c d) (fits : t.Fits c) : Thinned t k c.close d.close := by
  unfold Client.close
  rw [thinned.closed]
  split
  · exact thinned
  · exact { thinned.abortQueries fits with
      closed := rfl
      cached := rfl
      ledger := thinned.ledger.clear
      providers := rfl }

theorem abandon (thinned : Thinned t k c d) (fits : t.Fits c) : Thinned t k c.abandon d.abandon :=
  (thinned.abortQueries fits).heartbeat _ _

/-! ### Events -/

/-- What is about `k`, or about no key, happens in both. -/
theorem step (thinned : Thinned t k c d) (fits : t.Fits c) {e : ClientEvent App} (after : t.Fits (c.step e))
    (keeps : k.Keeps (t.key? e)) : Thinned t k (c.step e) (d.step (e.renumber (t.ranks k))) := by
  cases e with
  | call request m => exact thinned.start fits keeps m after
  | resume i m => exact thinned.resume fits keeps m after
  | take i => exact thinned.take keeps
  | cancel i => exact thinned.cancel fits keeps
  | ask q => exact thinned.ask keeps
  | queryReply q reply now => exact thinned.queryReplied fits keeps reply now
  | queryPanic q message => exact thinned.queryPanicked keeps message
  | reportReply i reply => exact thinned.reportReplied keeps reply
  | registerReply i reply now => exact thinned.registerReplied keeps reply now
  | invalidate key =>
    obtain rfl := keeps.eq
    exact thinned.invalidate
  | clearCache => exact thinned.clearCache
  | registerProviders p => exact thinned.registerProviders p
  | releaseSlot g => exact thinned.releaseSlot keeps
  | dropSlot g => exact thinned.dropSlot keeps
  | readRate now => exact thinned.window _ _
  | heartbeatTick now => exact thinned.heartbeatTick now
  | heartbeatReply | heartbeatPanic => exact thinned.heartbeat _ _
  | close => exact thinned.close fits
  | abandon => exact thinned.abandon fits

/-- What is about another key concerns one of the two only. -/
theorem step_other (thinned : Thinned t k c d) (fits : t.Fits c) {e : ClientEvent App} (after : t.Fits (c.step e))
    (other : ¬ k.Keeps (t.key? e)) : Thinned t k (c.step e) d := by
  cases e with
  | call request m => exact thinned.start_other other m after
  | resume i m => exact thinned.resume_other fits other m after
  | take i => exact thinned.take_other other
  | cancel i => exact thinned.cancel_other fits other
  | ask q => exact thinned.ask_other fits.toNames other
  | queryReply q reply now => exact thinned.queryReplied_other fits.toNames other reply now
  | queryPanic q message => exact thinned.queryPanicked_other other message
  | reportReply i reply => exact thinned.reportReplied_other other reply
  | registerReply i reply now => exact thinned.registerReplied_other other reply now
  | invalidate key =>
    refine thinned.invalidate_other ?_
    rintro rfl
    exact other key.keeps_self
  | releaseSlot g => exact thinned.releaseSlot_other fits.toNames other
  | dropSlot g => exact thinned.dropSlot_other fits.toNames other
  | _ => exact (other (Or.inl rfl)).elim

end Thinned

end Entitlement.Client
