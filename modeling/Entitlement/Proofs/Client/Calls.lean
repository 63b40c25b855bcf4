import Entitlement.Proofs.Client.Entry
import Entitlement.Client.Event

/-!
What an event does to one call. `Goes` lists where a call can be afterwards, and `step_goes` shows that the
list is complete: a call comes, goes on when its query has ended, is told of its report or of its
registration, and otherwise stays as it was until it is forgotten. The number of a call is its own: no later
call gets it, and an event that names another leaves the call alone.
-/

namespace Entitlement

def reportResult (outcome : Option ConsumeOutcome) (reply : Except ClientError Unit) : CallResult :=
  match outcome, reply with
  | none, .ok _ => .ok .done
  | none, .error e => .error e
  | some outcome, .ok _ => .ok (.consumed outcome)
  | some outcome, .error e => .error (.usageNotRecorded outcome.remaining e)

/-- The call that an event is about, if it is one that has come before. -/
def ClientEvent.call? {App : Type} : ClientEvent App → Option CallId
  | .resume i _ | .take i | .cancel i | .reportReply i _ | .registerReply i _ _ => some i
  | _ => none

/-- Events that neither read nor set what a client measures by, and do not close it. -/
def ClientEvent.IsPlain {App : Type} : ClientEvent App → Prop
  | .call .. | .readRate _ | .registerProviders _ | .close => False
  | _ => True

namespace Client

variable {App : Type} {c : Client App}

theorem setPhase_calls (c : Client App) (i j : CallId) (phase : Phase) :
    (c.setPhase i phase).calls.find? j =
      if j = i then (c.calls.find? j).map (fun call => { call with phase }) else c.calls.find? j :=
  Table.find?_modify ..

theorem proceed_calls (c : Client App) (key : CheckKey) (purpose : Purpose)
    (result : Except ClientError Snapshot) (m : Moment App) :
    (c.proceed key purpose result m).2.calls = c.calls := by
  obtain ⟨_, _, _, same⟩ := c.proceed_frame key purpose result m
  rw [same]

theorem land_frame (c : Client App) (key : CheckKey) (q : QueryId) :
    ∃ inFlight, c.land key q = { c with inFlight } := by
  unfold land
  split <;> exact ⟨_, rfl⟩

theorem Entered.calls {request : CallRequest} {m : Moment App} {phase : Phase} {after : Client App}
    (entered : Entered c request m phase after) : after.calls = c.calls := by
  obtain ⟨_, _, _, _, _, _, rfl⟩ := entered.frame
  rfl

theorem phase?_some {i : CallId} {phase : Phase} (at_ : c.phase? i = some phase) :
    ∃ request, c.calls.find? i = some ⟨request, phase⟩ := by
  obtain ⟨⟨request, _⟩, found, rfl⟩ := Option.map_eq_some_iff.mp at_
  exact ⟨request, found⟩

theorem phase?_resume {i : CallId} {m : Moment App} {q : QueryId} {key : CheckKey} {purpose : Purpose}
    {result : Except ClientError Snapshot} (waited : c.phase? i = some (.waiting q key purpose))
    (ended : (c.queryStatus? q).bind QueryStatus.result? = some result) :
    (c.resume i m).phase? i = some (c.proceed key purpose result m).1 := by
  obtain ⟨request, found⟩ := phase?_some waited
  simp only [resume, waited, ended]
  rw [phase?, setPhase_calls, proceed_calls, if_pos rfl, found]
  rfl

/-- Where an event leaves the call `i`. -/
inductive Goes (c : Client App) (i : CallId) : ClientEvent App → Call → Prop
  | stays {e : ClientEvent App} {call : Call} (before : c.calls.find? i = some call) : Goes c i e call
  | comes {request : CallRequest} {m : Moment App} {phase : Phase} {after : Client App}
      (new : i = c.nextCall) (entered : Entered c request m phase after)
      (same : c.start request m =
        { after with
          calls := after.calls.insert c.nextCall ⟨request, phase⟩
          nextCall := c.nextCall + 1 }) :
      Goes c i (.call request m) ⟨request, phase⟩
  | resumes {request : CallRequest} {q : QueryId} {key : CheckKey} {purpose : Purpose}
      {result : Except ClientError Snapshot} (m : Moment App)
      (waited : c.calls.find? i = some ⟨request, .waiting q key purpose⟩)
      (ended : (c.queryStatus? q).bind QueryStatus.result? = some result) :
      Goes c i (.resume i m) ⟨request, (c.proceed key purpose result m).1⟩
  | reported {request : CallRequest} {outcome : Option ConsumeOutcome} (reply : Except ClientError Unit)
      (before : c.calls.find? i = some ⟨request, .reporting outcome⟩) :
      Goes c i (.reportReply i reply) ⟨request, .finished (reportResult outcome reply)⟩
  | registered {request : CallRequest} (reply : Except ClientError Unit) (now : Instant)
      (before : c.calls.find? i = some ⟨request, .registering⟩) :
      Goes c i (.registerReply i reply now) ⟨request, .finished (reply.map fun _ => .done)⟩

theorem start_goes {request : CallRequest} {m : Moment App} {i : CallId} {call : Call}
    (found : (c.start request m).calls.find? i = some call) : Goes c i (.call request m) call := by
  obtain ⟨phase, after, entered, same⟩ := c.start_entered request m
  rw [same] at found
  simp only [Table.find?_insert, entered.calls] at found
  split at found
  · next new =>
    cases Option.some.inj found
    exact .comes new entered same
  · exact .stays found

/-- A call that is given a phase by an event of its own. -/
theorem setPhase_goes {e : ClientEvent App} {after : Client App} {i j : CallId} {request : CallRequest}
    {before phase : Phase} {call : Call} (kept : after.calls = c.calls)
    (was : c.calls.find? i = some ⟨request, before⟩) (goes : Goes c i e ⟨request, phase⟩)
    (found : (after.setPhase i phase).calls.find? j = some call) : Goes c j e call := by
  rw [setPhase_calls, kept] at found
  split at found
  · next same =>
    subst same
    rw [was] at found
    cases Option.some.inj found
    exact goes
  · exact .stays found

theorem resume_goes {i j : CallId} {m : Moment App} {call : Call}
    (found : (c.resume i m).calls.find? j = some call) : Goes c j (.resume i m) call := by
  rcases c.resume_settled i m with same | ⟨q, key, purpose, result, phase, ended, same⟩
  · rw [same] at found
    exact .stays found
  · obtain ⟨request, was⟩ := phase?_some phase
    rw [same] at found
    exact setPhase_goes (proceed_calls ..) was (.resumes m was ended) found

theorem reportReplied_goes {i j : CallId} {reply : Except ClientError Unit} {call : Call}
    (found : (c.reportReplied i reply).calls.find? j = some call) : Goes c j (.reportReply i reply) call := by
  unfold reportReplied at found
  split at found
  · next outcome phase =>
    obtain ⟨request, was⟩ := phase?_some phase
    exact setPhase_goes rfl was (.reported reply was) found
  · exact .stays found

theorem registerReplied_goes {i j : CallId} {reply : Except ClientError Unit} {now : Instant} {call : Call}
    (found : (c.registerReplied i reply now).calls.find? j = some call) :
    Goes c j (.registerReply i reply now) call := by
  unfold registerReplied at found
  split at found
  · next phase =>
    obtain ⟨request, was⟩ := phase?_some phase
    cases reply with
    | error e => exact setPhase_goes rfl was (.registered (.error e) now was) found
    | ok => exact setPhase_goes rfl was (.registered (.ok ()) now was) found
  · exact .stays found

theorem erase_goes {e : ClientEvent App} {i j : CallId} {call : Call}
    (found : (c.calls.erase i).find? j = some call) : Goes c j e call := by
  rw [Table.find?_erase] at found
  split at found
  · cases found
  · exact .stays found

/-- An event that neither is a call nor names one leaves the calls alone. -/
theorem step_calls {e : ClientEvent App} (unnamed : e.call? = none) (others : ∀ request m, e ≠ .call request m) :
    (c.step e).calls = c.calls := by
  cases e with
  | call request m => exact (others request m rfl).elim
  | resume | take | cancel | reportReply | registerReply => cases unnamed
  | ask q => simp only [step, ask]; split <;> rfl
  | queryReply q reply now =>
    simp only [step, queryReplied]
    split
    · next key _ =>
      obtain ⟨_, same⟩ := land_frame _ key q
      rw [same]
      rfl
    · rfl
  | queryPanic q message => simp only [step, queryPanicked]; split <;> rfl
  | registerProviders p =>
    simp only [step, registerProviders]
    split
    · rfl
    · cases c.providers.register p <;> rfl
  | heartbeatTick now => simp only [step, heartbeatTick]; split <;> rfl
  | close => simp only [step, close]; split <;> rfl
  | _ => rfl

/-- An event leaves a call in one of the places on the list. -/
theorem step_goes {e : ClientEvent App} {i : CallId} {call : Call}
    (found : (c.step e).calls.find? i = some call) : Goes c i e call := by
  cases e with
  | call request m => exact start_goes found
  | resume j m => exact resume_goes found
  | reportReply j reply => exact reportReplied_goes found
  | registerReply j reply now => exact registerReplied_goes found
  | cancel j => exact erase_goes found
  | take j =>
    simp only [step, take] at found
    split at found
    · exact erase_goes found
    · exact .stays found
  | _ =>
    rw [step_calls rfl (by rintro _ _ ⟨⟩)] at found
    exact .stays found

theorem step_frame (c : Client App) {e : ClientEvent App} (plain : e.IsPlain) :
    ∃ cache inFlight queries calls ledger heartbeat sent,
      c.step e = { c with cache, inFlight, queries, calls, ledger, heartbeat, sent } := by
  cases e with
  | call | readRate | registerProviders | close => exact plain.elim
  | resume i m =>
    obtain ⟨_, _, _, same⟩ := c.resume_frame i m
    exact ⟨_, _, _, _, _, _, _, same⟩
  | queryReply q reply now =>
    simp only [step, queryReplied]
    split
    · next key _ =>
      obtain ⟨_, same⟩ := land_frame _ key q
      rw [same]
      exact ⟨_, _, _, _, _, _, _, rfl⟩
    · exact ⟨_, _, _, _, _, _, _, rfl⟩
  | registerReply i reply now =>
    simp only [step, registerReplied]
    split
    · cases reply <;> exact ⟨_, _, _, _, _, _, _, rfl⟩
    · exact ⟨_, _, _, _, _, _, _, rfl⟩
  | take i => simp only [step, take]; split <;> exact ⟨_, _, _, _, _, _, _, rfl⟩
  | ask q => simp only [step, ask]; split <;> exact ⟨_, _, _, _, _, _, _, rfl⟩
  | queryPanic q message => simp only [step, queryPanicked]; split <;> exact ⟨_, _, _, _, _, _, _, rfl⟩
  | reportReply i reply => simp only [step, reportReplied]; split <;> exact ⟨_, _, _, _, _, _, _, rfl⟩
  | heartbeatTick now => simp only [step, heartbeatTick]; split <;> exact ⟨_, _, _, _, _, _, _, rfl⟩
  | _ => exact ⟨_, _, _, _, _, _, _, rfl⟩

/-! ### A call that has come -/

theorem setPhase_others {i j : CallId} (other : j ≠ i) (phase : Phase) :
    (c.setPhase i phase).calls.find? j = c.calls.find? j :=
  (setPhase_calls ..).trans (if_neg other)

theorem step_others {e : ClientEvent App} {i : CallId} (other : e.call? ≠ some i) (old : i < c.nextCall) :
    (c.step e).calls.find? i = c.calls.find? i := by
  have apart {j : CallId} (named : e.call? = some j) : i ≠ j := by
    rintro rfl
    exact other named
  cases e with
  | call request m =>
    obtain ⟨phase, after, entered, same⟩ := c.start_entered request m
    rw [step, same, ← entered.calls]
    exact Table.find?_insert_of_ne _ (Nat.ne_of_lt old)
  | resume j m =>
    rcases c.resume_settled j m with same | ⟨q, key, purpose, result, _, _, same⟩
    · rw [step, same]
    · rw [step, same, setPhase_others (apart rfl), proceed_calls]
  | reportReply j reply =>
    simp only [step, reportReplied]
    split
    · exact setPhase_others (apart rfl) _
    · rfl
  | registerReply j reply now =>
    simp only [step, registerReplied]
    split
    · cases reply with
      | error e => exact setPhase_others (apart rfl) _
      | ok => exact setPhase_others (apart rfl) _
    · rfl
  | cancel j => exact Table.find?_erase_of_ne (apart rfl)
  | take j =>
    simp only [step, take]
    split
    · exact Table.find?_erase_of_ne (apart rfl)
    · rfl
  | _ => rw [step_calls rfl (by rintro _ _ ⟨⟩)]

theorem phase?_others {e : ClientEvent App} {i : CallId} (other : e.call? ≠ some i) (old : i < c.nextCall) :
    (c.step e).phase? i = c.phase? i :=
  congrArg (Option.map Call.phase) (step_others other old)

theorem phase?_erase (i : CallId) : ((c.calls.erase i).find? i).map Call.phase = none := by
  rw [Table.find?_erase_self, Option.map_none]

theorem phase?_setPhase {i : CallId} {before : Phase} (was : c.phase? i = some before) (phase : Phase) :
    (c.setPhase i phase).phase? i = some phase := by
  obtain ⟨request, found⟩ := phase?_some was
  rw [phase?, setPhase_calls, if_pos rfl, found]
  rfl

/-- A call that has been forgotten never comes back. -/
theorem phase?_forgotten {i : CallId} (old : i < c.nextCall) (forgotten : c.phase? i = none)
    (e : ClientEvent App) : (c.step e).phase? i = none := by
  have absent := Option.map_eq_none_iff.mp forgotten
  refine Option.map_eq_none_iff.mpr (Option.eq_none_iff_forall_ne_some.mpr fun call found => ?_)
  cases step_goes found with
  | comes new => exact Nat.ne_of_lt old new
  | stays before | resumes _ before | reported _ before | registered _ _ before =>
    cases absent.symm.trans before

/-- A call that has finished keeps its result until that is taken or nobody wants it any more. -/
theorem phase?_finished {i : CallId} {result : CallResult} (old : i < c.nextCall)
    (finished : c.phase? i = some (.finished result)) (e : ClientEvent App) :
    (c.step e).phase? i = some (.finished result) ∨
      ((c.step e).phase? i = none ∧ (e = .take i ∨ e = .cancel i)) := by
  by_cases own : e.call? = some i
  · cases e with
    | resume j m | reportReply j reply | registerReply j reply now =>
      cases own
      refine Or.inl ?_
      simp only [step, resume, reportReplied, registerReplied, finished]
    | take j =>
      cases own
      refine Or.inr ⟨?_, Or.inl rfl⟩
      simp only [step, take, finished]
      exact phase?_erase i
    | cancel j =>
      cases own
      exact Or.inr ⟨phase?_erase i, Or.inr rfl⟩
    | _ => cases own
  · exact Or.inl ((phase?_others own old).trans finished)

/-- A call that waits goes on with the result of its query once that has ended, or nobody wants its result any
more; nothing else moves it. -/
theorem phase?_waiting {i : CallId} {q : QueryId} {key : CheckKey} {purpose : Purpose} (old : i < c.nextCall)
    (waiting : c.phase? i = some (.waiting q key purpose)) (e : ClientEvent App) :
    (∃ m result, e = .resume i m ∧ (c.queryStatus? q).bind QueryStatus.result? = some result ∧
      (c.step e).phase? i = some (c.proceed key purpose result m).1) ∨
    (e = .cancel i ∧ (c.step e).phase? i = none) ∨
    (e ≠ .cancel i ∧ (∀ m, e = .resume i m → (c.queryStatus? q).bind QueryStatus.result? = none) ∧
      (c.step e).phase? i = some (.waiting q key purpose)) := by
  by_cases own : e.call? = some i
  · cases e with
    | resume j m =>
      cases own
      cases ended : (c.queryStatus? q).bind QueryStatus.result? with
      | some result => exact Or.inl ⟨m, result, rfl, rfl, phase?_resume waiting ended⟩
      | none =>
        refine Or.inr (Or.inr ⟨nofun, fun _ _ => rfl, ?_⟩)
        simp only [step, resume, waiting, ended]
    | reportReply j reply | registerReply j reply now | take j =>
      cases own
      refine Or.inr (Or.inr ⟨nofun, nofun, ?_⟩)
      simp only [step, reportReplied, registerReplied, take, waiting]
    | cancel j =>
      cases own
      exact Or.inr (Or.inl ⟨rfl, phase?_erase i⟩)
    | _ => cases own
  · refine Or.inr (Or.inr ⟨?_, ?_, (phase?_others own old).trans waiting⟩)
    · rintro rfl
      exact own rfl
    · rintro m rfl
      exact (own rfl).elim

/-- A call whose usage report is on its way hears of it, or nobody wants its result any more; nothing else
moves it. -/
theorem phase?_reporting {i : CallId} {outcome : Option ConsumeOutcome} (old : i < c.nextCall)
    (reporting : c.phase? i = some (.reporting outcome)) (e : ClientEvent App) :
    (∃ reply, e = .reportReply i reply ∧
      (c.step e).phase? i = some (.finished (reportResult outcome reply))) ∨
    (e = .cancel i ∧ (c.step e).phase? i = none) ∨
    ((∀ reply, e ≠ .reportReply i reply) ∧ (c.step e).phase? i = some (.reporting outcome)) := by
  by_cases own : e.call? = some i
  · cases e with
    | resume j m | registerReply j reply now | take j =>
      cases own
      refine Or.inr (Or.inr ⟨nofun, ?_⟩)
      simp only [step, resume, registerReplied, take, reporting]
    | reportReply j reply =>
      cases own
      refine Or.inl ⟨reply, rfl, ?_⟩
      simp only [step, reportReplied, reporting]
      exact phase?_setPhase reporting _
    | cancel j =>
      cases own
      exact Or.inr (Or.inl ⟨rfl, phase?_erase i⟩)
    | _ => cases own
  · refine Or.inr (Or.inr ⟨?_, (phase?_others own old).trans reporting⟩)
    rintro reply rfl
    exact own rfl

end Client

end Entitlement
