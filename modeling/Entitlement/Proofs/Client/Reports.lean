import Entitlement.Proofs.Client.SingleFlight
import Entitlement.Proofs.Client.Calls

/-!
What an event tells the authority of usage. A call that hears the result of its check goes on with it (`Hearing`,
`step_hears`); an event sends the report that `report?` names, or none, and nothing else sends any
(`step_usages`).
-/

namespace Entitlement

def AuthorityRequest.usage? : AuthorityRequest → Option UsageReport
  | .usage report => some report
  | .check _ | .register _ | .heartbeat _ => none

namespace ClientEvent

variable {App : Type}

/-- When a call comes or goes on. -/
def moment? : ClientEvent App → Option (Moment App)
  | .call _ m | .resume _ m => some m
  | _ => none

/-- The system clock shows no time before the epoch. -/
def SinceEpoch (e : ClientEvent App) : Prop := ∀ m ∈ e.moment?, 0 ≤ m.wallSeconds

instance (e : ClientEvent App) : Decidable e.SinceEpoch :=
  inferInstanceAs (Decidable (∀ m ∈ e.moment?, 0 ≤ m.wallSeconds))

end ClientEvent

/-- A call gets the result of its check. -/
structure Hearing (App : Type) where
  call : CallId
  key : CheckKey
  purpose : Purpose
  result : Except ClientError Snapshot
  moment : Moment App

/-- As much as a call is to consume and its snapshot admits. -/
def admitted? : Purpose → Except ClientError Snapshot → Option UInt64
  | .consume amount, .ok s => if s.admitted then some amount else none
  | _, _ => none

theorem admitted?_eq_some {purpose : Purpose} {result : Except ClientError Snapshot} {amount : UInt64} :
    admitted? purpose result = some amount ↔
      purpose = .consume amount ∧ ∃ s, result = .ok s ∧ s.admitted = true := by
  cases purpose with
  | consume amount' =>
    cases result with
    | error e => simp [admitted?]
    | ok s => simp [admitted?, and_comm]
  | _ => simp [admitted?]

namespace Client

variable {App : Type} {c : Client App}

/-- The usage reports that have been sent, the latest last. -/
def usages (c : Client App) : List UsageReport := c.sent.filterMap AuthorityRequest.usage?

theorem usages_send (c : Client App) (r : AuthorityRequest) :
    (c.send r).usages = c.usages ++ r.usage?.toList := by
  cases r <;> simp [usages, send, AuthorityRequest.usage?]

def usageReport (c : Client App) (key : CheckKey) (amount : UInt64) (m : Moment App) : UsageReport :=
  ⟨c.identity, key.text, amount, Int64.ofInt m.wallSeconds⟩

/-- What a caller is told who needs a snapshot, if there is something to be told at once. -/
def heard? (c : Client App) (key : CheckKey) (now : Instant) : Option (Except ClientError Snapshot) :=
  match c.cache.get? key now with
  | some s => some (.ok s)
  | none => (c.inFlight.find? key).bind fun q => (c.queryStatus? q).bind QueryStatus.result?

def hears? (c : Client App) : ClientEvent App → Option (Hearing App)
  | .call request m =>
    (c.need? request m).bind fun (key, purpose) =>
      (c.heard? key m.now).map fun result => ⟨c.nextCall, key, purpose, result, m⟩
  | .resume i m =>
    match c.phase? i with
    | some (.waiting q key purpose) =>
      ((c.queryStatus? q).bind QueryStatus.result?).map fun result => ⟨i, key, purpose, result, m⟩
    | _ => none
  | _ => none

/-- The report that an event makes a call send. -/
def report? (c : Client App) (e : ClientEvent App) : Option (CallId × UsageReport) :=
  if c.closed then none
  else match e with
    | .call (.report key amount) m => some (c.nextCall, c.usageReport key amount m)
    | e =>
      (c.hears? e).bind fun x =>
        (admitted? x.purpose x.result).map fun amount => (x.call, c.usageReport x.key amount x.moment)

theorem need?_consume {request : CallRequest} {m : Moment App} {key : CheckKey} {amount : UInt64} :
    c.need? request m = some (key, .consume amount) ↔
      c.closed = false ∧ (request = .consume key amount ∨
        ∃ context, request = .consumeFor context ∧ key = .product ∧ amount = c.providers.amount context) := by
  unfold need?
  cases c.closed with
  | true => simp
  | false =>
    cases request with
    | checkCapacityCounted => simp
    | _ => simp [eq_comm]

/-! ### Deciding -/

theorem sendReport_open (opened : c.closed = false) (key : CheckKey) (amount : UInt64) {m : Moment App}
    (epoch : 0 ≤ m.wallSeconds) :
    c.sendReport key amount m = .ok (c.send (.usage (c.usageReport key amount m))) := by
  simp only [sendReport, opened, unixTime, Int.not_lt.mpr epoch, usageReport, ↓reduceIte, Bool.false_eq_true]

theorem proceed_admitted (c : Client App) (key : CheckKey) {s : Snapshot} (admitted : s.admitted = true)
    (amount : UInt64) {m : Moment App} (epoch : 0 ≤ m.wallSeconds) :
    c.proceed key (.consume amount) (.ok s) m =
      if c.closed then
        (.finished (.error (.usageNotRecorded (Saturating.subUInt64 s.remainingQuota amount) .closed)), c)
      else
        (.reporting (some ⟨true, Saturating.subUInt64 s.remainingQuota amount, none⟩),
          c.send (.usage (c.usageReport key amount m))) := by
  simp only [proceed, decide, Snapshot.consume, admitted, ↓reduceIte, Bool.not_true, Bool.false_eq_true]
  cases opened : c.closed with
  | true => simp only [sendReport, opened, ↓reduceIte]
  | false => simp only [sendReport_open opened key amount epoch, ↓reduceIte, Bool.false_eq_true]

theorem proceed_silent (key : CheckKey) {purpose : Purpose} {result : Except ClientError Snapshot}
    (silent : admitted? purpose result = none) (m : Moment App) :
    (c.proceed key purpose result m).2.usages = c.usages := by
  cases result with
  | error e => rfl
  | ok s =>
    cases purpose with
    | «show» | rate | capacity | slot => rfl
    | consume amount =>
      have refused : s.admitted = false := by
        cases state : s.admitted with
        | false => rfl
        | true => simp [admitted?, state] at silent
      simp [proceed, decide, Snapshot.consume_admitted, refused]

theorem proceed_usages (c : Client App) (key : CheckKey) (purpose : Purpose)
    (result : Except ClientError Snapshot) {m : Moment App} (epoch : 0 ≤ m.wallSeconds) :
    (c.proceed key purpose result m).2.usages =
      c.usages ++ if c.closed then [] else
        ((admitted? purpose result).map fun amount => c.usageReport key amount m).toList := by
  cases grant : admitted? purpose result with
  | none => simp [proceed_silent key grant]
  | some amount =>
    obtain ⟨rfl, s, rfl, admitted⟩ := admitted?_eq_some.mp grant
    rw [c.proceed_admitted key admitted amount epoch]
    cases c.closed with
    | true => simp
    | false => exact usages_send ..

/-! ### Hearing -/

/-- A call hears at once if there is something to be told when it comes, else when the query that it waits for
has ended. -/
theorem hears?_cases {e : ClientEvent App} {x : Hearing App} (hears : c.hears? e = some x) :
    (∃ request, e = .call request x.moment ∧ x.call = c.nextCall ∧
      c.need? request x.moment = some (x.key, x.purpose) ∧ c.heard? x.key x.moment.now = some x.result) ∨
    (∃ q, e = .resume x.call x.moment ∧ c.phase? x.call = some (.waiting q x.key x.purpose) ∧
      (c.queryStatus? q).bind QueryStatus.result? = some x.result) := by
  cases e with
  | call request m =>
    obtain ⟨⟨key, purpose⟩, need, hears⟩ := Option.bind_eq_some_iff.mp hears
    obtain ⟨result, heard, rfl⟩ := Option.map_eq_some_iff.mp hears
    exact Or.inl ⟨request, rfl, rfl, need, heard⟩
  | resume i m =>
    simp only [hears?] at hears
    split at hears
    · next q key purpose waited =>
      obtain ⟨result, ended, rfl⟩ := Option.map_eq_some_iff.mp hears
      exact Or.inr ⟨q, rfl, waited, ended⟩
    · cases hears
  | _ => cases hears

theorem hears?_call {request : CallRequest} {m : Moment App} {key : CheckKey} {purpose : Purpose}
    {result : Except ClientError Snapshot} (need : c.need? request m = some (key, purpose))
    (heard : c.heard? key m.now = some result) :
    c.hears? (.call request m) = some ⟨c.nextCall, key, purpose, result, m⟩ := by
  simp only [hears?, need, Option.bind_some, heard, Option.map_some]

/-- A new call that needs a snapshot goes on with what it is told, or is told nothing and waits. -/
theorem Entered.heard {request : CallRequest} {m : Moment App} {phase : Phase} {after : Client App}
    {key : CheckKey} {purpose : Purpose} (entered : Entered c request m phase after)
    (need : c.need? request m = some (key, purpose)) :
    (∃ window result, c.heard? key m.now = some result ∧
      phase = ({ c with window }.proceed key purpose result m).1 ∧
      after = ({ c with window }.proceed key purpose result m).2) ∨
    (c.heard? key m.now = none ∧ (∃ q, phase = .waiting q key purpose) ∧
      after.usages = c.usages ∧ after.ledger = c.ledger) := by
  cases entered with
  | idle _ noNeed => cases noNeed.symm.trans need
  | hit window need' fresh =>
    cases need'.symm.trans need
    exact Or.inl ⟨window, _, by rw [heard?, fresh], rfl, rfl⟩
  | told window need' stale flying ended =>
    cases need'.symm.trans need
    exact Or.inl ⟨window, _, by rw [heard?, stale, flying, Option.bind_some, ended], rfl, rfl⟩
  | joined _ need' stale flying pending =>
    cases need'.symm.trans need
    exact Or.inr ⟨by rw [heard?, stale, flying, Option.bind_some, pending], ⟨_, rfl⟩, rfl, rfl⟩
  | begun _ need' stale free =>
    cases need'.symm.trans need
    exact Or.inr ⟨by rw [heard?, stale, free, Option.bind_none], ⟨_, rfl⟩, rfl, rfl⟩

theorem usages_start {request : CallRequest} {m : Moment App} {phase : Phase} {after : Client App}
    (same : c.start request m =
      { after with
        calls := after.calls.insert c.nextCall ⟨request, phase⟩
        nextCall := c.nextCall + 1 }) : (c.start request m).usages = after.usages := by
  rw [same]
  rfl

theorem start_hears {request : CallRequest} {m : Moment App} {key : CheckKey} {purpose : Purpose}
    {result : Except ClientError Snapshot} (need : c.need? request m = some (key, purpose))
    (heard : c.heard? key m.now = some result) :
    ∃ window, (c.start request m).usages = ({ c with window }.proceed key purpose result m).2.usages ∧
      (c.start request m).phase? c.nextCall = some ({ c with window }.proceed key purpose result m).1 := by
  obtain ⟨phase, after, entered, same⟩ := c.start_entered request m
  rw [usages_start same, phase?_start same]
  rcases entered.heard need with ⟨window, result', heard', rfl, rfl⟩ | ⟨unheard, _⟩
  · cases heard.symm.trans heard'
    exact ⟨window, rfl, rfl⟩
  · cases heard.symm.trans unheard

theorem start_unheard {request : CallRequest} {m : Moment App} {key : CheckKey} {purpose : Purpose}
    (need : c.need? request m = some (key, purpose)) (unheard : c.heard? key m.now = none) :
    (c.start request m).usages = c.usages := by
  obtain ⟨phase, after, entered, same⟩ := c.start_entered request m
  rw [usages_start same]
  rcases entered.heard need with ⟨_, _, heard, _⟩ | ⟨_, _, silent, _⟩
  · cases heard.symm.trans unheard
  · exact silent

/-- What a call hears it goes on with in the same event. -/
theorem step_hears {e : ClientEvent App} {x : Hearing App} (hears : c.hears? e = some x) :
    e.moment? = some x.moment ∧
    ∃ window, (c.step e).usages = ({ c with window }.proceed x.key x.purpose x.result x.moment).2.usages ∧
      (c.step e).phase? x.call = some ({ c with window }.proceed x.key x.purpose x.result x.moment).1 := by
  obtain ⟨call, key, purpose, result, m⟩ := x
  rcases hears?_cases hears with ⟨request, rfl, rfl, need, heard⟩ | ⟨q, rfl, waited, ended⟩
  · exact ⟨rfl, start_hears need heard⟩
  · refine ⟨rfl, c.window, ?_, phase?_resume waited ended⟩
    simp only [step, resume, waited, ended]
    rfl

/-! ### Reporting -/

theorem report?_others {e : ClientEvent App} (others : ∀ key amount m, e ≠ .call (.report key amount) m) :
    c.report? e = if c.closed then none else
      (c.hears? e).bind fun x =>
        (admitted? x.purpose x.result).map fun amount => (x.call, c.usageReport x.key amount x.moment) := by
  cases e with
  | call request m =>
    cases request with
    | report key amount => exact (others key amount m rfl).elim
    | _ => rfl
  | _ => rfl

theorem report?_hears {e : ClientEvent App} {x : Hearing App} (hears : c.hears? e = some x) :
    c.report? e = if c.closed then none else
      (admitted? x.purpose x.result).map fun amount => (x.call, c.usageReport x.key amount x.moment) := by
  have others (key : CheckKey) (amount : UInt64) (m : Moment App) : e ≠ .call (.report key amount) m := by
    rintro rfl
    simp [hears?, need?] at hears
  rw [report?_others others, hears, Option.bind_some]

theorem report?_unheard {e : ClientEvent App} (unheard : c.hears? e = none)
    (others : ∀ key amount m, e ≠ .call (.report key amount) m) : c.report? e = none := by
  rw [report?_others others, unheard, Option.bind_none, ite_self]

theorem report?_cases {e : ClientEvent App} {i : CallId} {report : UsageReport}
    (reports : c.report? e = some (i, report)) :
    c.closed = false ∧
      ((∃ key amount m, e = .call (.report key amount) m ∧ i = c.nextCall ∧
        report = c.usageReport key amount m) ∨
      (∃ x amount, c.hears? e = some x ∧ x.call = i ∧ admitted? x.purpose x.result = some amount ∧
        report = c.usageReport x.key amount x.moment)) := by
  unfold report? at reports
  split at reports
  · cases reports
  · next opened =>
    refine ⟨Bool.eq_false_iff.mpr opened, ?_⟩
    split at reports
    · next key amount m =>
      cases reports
      exact Or.inl ⟨key, amount, m, rfl, rfl, rfl⟩
    · obtain ⟨x, hears, grant⟩ := Option.bind_eq_some_iff.mp reports
      obtain ⟨amount, admitted, same⟩ := Option.map_eq_some_iff.mp grant
      obtain ⟨rfl, rfl⟩ := Prod.mk.inj same
      exact Or.inr ⟨x, amount, hears, rfl, admitted, rfl⟩

theorem start_noNeed {request : CallRequest} {m : Moment App} (noNeed : c.need? request m = none)
    (epoch : 0 ≤ m.wallSeconds) :
    (c.start request m).usages = c.usages ++ ((c.report? (.call request m)).map Prod.snd).toList := by
  have unheard : c.hears? (.call request m) = none := by rw [hears?, noNeed, Option.bind_none]
  cases opened : c.closed with
  | true => simp [start, report?, opened, usages]
  | false =>
    cases request with
    | report key amount =>
      have sent : (c.start (.report key amount) m).usages = (c.send (.usage (c.usageReport key amount m))).usages := by
        simp only [start, enter, opened, sendReport_open opened key amount epoch, Bool.false_eq_true, ↓reduceIte]
        rfl
      simp only [sent, usages_send, report?, opened, Bool.false_eq_true, ↓reduceIte, AuthorityRequest.usage?,
        Option.map_some]
    | register =>
      have sent : (c.start .register m).usages = (c.send (.register c.registration)).usages := by
        simp only [start, enter, opened, Bool.false_eq_true, ↓reduceIte]
        rfl
      rw [sent, usages_send, report?_unheard unheard (by rintro _ _ _ ⟨⟩)]
      rfl
    -- Such a call needs no snapshot only where the counter is missing that it depends on.
    | checkCapacityCounted key =>
      rw [report?_unheard unheard (by rintro _ _ _ ⟨⟩)]
      cases counted : c.providers.capacityUsage m.app with
      | ok used => simp [need?, opened, counted, Except.toOption] at noNeed
      | error e => simp [start, enter, opened, counted, usages]
    | _ => simp [need?, opened] at noNeed

/-- Only calls send reports, and only when they come or go on. -/
theorem step_timeless (c : Client App) {e : ClientEvent App} (timeless : e.moment? = none) :
    (c.step e).usages = c.usages := by
  cases e with
  | call | resume => cases timeless
  | take i => simp only [step, take]; split <;> rfl
  | ask q =>
    simp only [step, ask]
    split
    · exact (usages_send ..).trans (List.append_nil _)
    · rfl
  | queryReply q reply now =>
    simp only [step, queryReplied]
    split
    · next key _ =>
      obtain ⟨_, same⟩ := land_frame _ key q
      rw [same]
      rfl
    · rfl
  | queryPanic q message => simp only [step, queryPanicked]; split <;> rfl
  | reportReply i reply => simp only [step, reportReplied]; split <;> rfl
  | registerReply i reply now =>
    simp only [step, registerReplied]
    split
    · cases reply <;> rfl
    · rfl
  | registerProviders p =>
    simp only [step, registerProviders]
    split
    · rfl
    · cases c.providers.register p <;> rfl
  | heartbeatTick now =>
    simp only [step, heartbeatTick]
    split
    · exact (usages_send ..).trans (List.append_nil _)
    · rfl
  | close => simp only [step, close]; split <;> rfl
  | _ => rfl

/-- An event sends what `report?` says and nothing else, as long as the clock is right. -/
theorem step_usages {e : ClientEvent App} (since : e.SinceEpoch) :
    (c.step e).usages = c.usages ++ ((c.report? e).map Prod.snd).toList := by
  cases hears : c.hears? e with
  | some x =>
    obtain ⟨moment, window, usages, _⟩ := step_hears hears
    rw [usages, proceed_usages _ _ _ _ (since x.moment moment), report?_hears hears]
    refine congrArg (c.usages ++ ·) ?_
    cases opened : c.closed with
    | true => rfl
    | false => cases admitted? x.purpose x.result <;> rfl
  | none =>
    cases e with
    | call request m =>
      cases need : c.need? request m with
      | none => exact start_noNeed need (since m rfl)
      -- The call joins a query or begins one, and sends nothing before that has ended.
      | some needed =>
        have unheard : c.heard? needed.1 m.now = none := by
          rw [hears?, need, Option.bind_some] at hears
          exact Option.map_eq_none_iff.mp hears
        have others (key : CheckKey) (amount : UInt64) (m' : Moment App) :
            ClientEvent.call request m ≠ .call (.report key amount) m' := by
          rintro ⟨⟩
          simp [need?] at need
        rw [report?_unheard hears others]
        exact (start_unheard need unheard).trans (List.append_nil _).symm
    | resume i m =>
      rw [report?_unheard hears (by rintro _ _ _ ⟨⟩)]
      rcases c.resume_settled i m with same | ⟨q, key, purpose, result, waited, ended, _⟩
      · rw [step, same]
        exact (List.append_nil _).symm
      · simp [hears?, waited, ended] at hears
    | _ =>
      rw [report?_unheard hears (by rintro _ _ _ ⟨⟩), c.step_timeless rfl]
      exact (List.append_nil _).symm

/-! ### Numbers -/

theorem start_numbered (c : Client App) (request : CallRequest) (m : Moment App) :
    (c.start request m).nextCall = c.nextCall + 1 := by
  obtain ⟨_, _, _, same⟩ := c.start_entered request m
  rw [same]

/-- Only a call takes a number. -/
theorem step_nextCall (c : Client App) (e : ClientEvent App) :
    (∃ request m, e = .call request m) ∨
      ((c.step e).nextCall = c.nextCall ∧ (c.step e).identity = c.identity) := by
  by_cases plain : e.IsPlain
  · obtain ⟨_, _, _, _, _, _, _, same⟩ := c.step_frame plain
    rw [same]
    exact Or.inr ⟨rfl, rfl⟩
  cases e with
  | call request m => exact Or.inl ⟨request, m, rfl⟩
  | readRate => exact Or.inr ⟨rfl, rfl⟩
  | registerProviders p =>
    simp only [step, registerProviders]
    split
    · exact Or.inr ⟨rfl, rfl⟩
    · cases c.providers.register p <;> exact Or.inr ⟨rfl, rfl⟩
  | close => simp only [step, close]; split <;> exact Or.inr ⟨rfl, rfl⟩
  | _ => exact (plain trivial).elim

/-- No event changes who the client is, and none takes a number back. -/
theorem step_numbered (c : Client App) (e : ClientEvent App) :
    (c.step e).identity = c.identity ∧ c.nextCall ≤ (c.step e).nextCall := by
  rcases c.step_nextCall e with ⟨request, m, rfl⟩ | ⟨number, identity⟩
  · obtain ⟨_, _, entered, same⟩ := c.start_entered request m
    obtain ⟨_, _, _, _, _, _, rfl⟩ := entered.frame
    rw [step, same]
    exact ⟨rfl, Nat.le_succ _⟩
  · exact ⟨identity, Nat.le_of_eq number.symm⟩

/-- The call has come, and waits for no query any more. -/
def Past (c : Client App) (i : CallId) : Prop :=
  i < c.nextCall ∧ ∀ q key purpose, c.phase? i ≠ some (.waiting q key purpose)

theorem waits_of_not_past {i : CallId} (came : i < c.nextCall) (past : ¬ c.Past i) :
    ∃ q key purpose, c.phase? i = some (.waiting q key purpose) := by
  simpa [Past, came] using past

theorem Past.unheard {i : CallId} (past : c.Past i) {e : ClientEvent App} {x : Hearing App}
    (hears : c.hears? e = some x) : x.call ≠ i := by
  rintro rfl
  rcases hears?_cases hears with ⟨_, _, new, _⟩ | ⟨q, _, waited, _⟩
  · exact Nat.ne_of_lt past.1 new
  · exact past.2 q x.key x.purpose waited

theorem Past.unreported {i : CallId} (past : c.Past i) {e : ClientEvent App} {j : CallId} {report : UsageReport}
    (reports : c.report? e = some (j, report)) : j ≠ i := by
  obtain ⟨_, ⟨_, _, _, _, rfl, _⟩ | ⟨x, _, hears, rfl, _⟩⟩ := report?_cases reports
  · exact (Nat.ne_of_lt past.1).symm
  · exact past.unheard hears

theorem Past.step {i : CallId} (past : c.Past i) (e : ClientEvent App) : (c.step e).Past i := by
  refine ⟨Nat.lt_of_lt_of_le past.1 (c.step_numbered e).2, ?_⟩
  intro q key purpose waits
  obtain ⟨request, found⟩ := phase?_some waits
  have goes := step_goes found
  generalize call_eq : (⟨request, .waiting q key purpose⟩ : Call) = call at goes
  cases goes with
  | stays before =>
    subst call_eq
    exact past.2 q key purpose (congrArg (Option.map Call.phase) before)
  | comes new => exact Nat.ne_of_lt past.1 new
  | @resumes _ _ key' purpose' result m =>
    exact c.proceed_not_waiting key' purpose' result m q key purpose (congrArg Call.phase call_eq).symm
  | reported | registered => cases congrArg Call.phase call_eq

theorem start_past {request : CallRequest} {m : Moment App} (noNeed : c.need? request m = none) :
    (c.start request m).Past c.nextCall := by
  refine ⟨Nat.lt_of_lt_of_eq (Nat.lt_succ_self _) (c.start_numbered request m).symm, ?_⟩
  intro q key purpose waits
  obtain ⟨phase, after, entered, same⟩ := c.start_entered request m
  rw [phase?_start same] at waits
  cases entered with
  | idle _ _ idle =>
    cases waits
    cases idle
  | hit _ need | told _ need | joined _ need | begun _ need => cases noNeed.symm.trans need

end Client

end Entitlement
