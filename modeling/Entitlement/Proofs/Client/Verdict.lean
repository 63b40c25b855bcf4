import Entitlement.Proofs.Client.Closing
import Entitlement.Proofs.HttpReply
import Entitlement.Proofs.Outcome

/-!
What the failure policy leaves of a decision. The result of a consumption says what the snapshot has decided
whenever the call got one, whatever became of the usage report; so the policy is asked only where there was nothing
to decide on (`policy_decides_undecided`).
-/

namespace Entitlement

def ClientError.isUnrecorded : ClientError → Bool
  | usageNotRecorded .. => true
  | _ => false

/-- What a result says of the decision. Who was not recorded was admitted before. -/
def verdict? (result : Except ClientError ConsumeOutcome) : Option Bool :=
  match result with
  | .ok outcome => some outcome.admitted
  | .error e => if e.isUnrecorded then some true else none

theorem FailurePolicy.admitOr_verdict (p : FailurePolicy) (result : Except ClientError ConsumeOutcome) :
    p.admitOr result (·.admitted) = (verdict? result).getD (p = opened) := by
  cases result with
  | ok outcome => rfl
  | error e => cases e <;> rfl

/-! ### Checks over HTTP -/

namespace HttpAuthority

/-- What a check comes to if the authority replies so. -/
def check (a : HttpAuthority) (moment : SigningMoment) (key : CheckKey) (reply : HttpReply) :
    Except ClientError Grant :=
  a.message moment (.check key) >>= fun _ => reply.toGrant

theorem endpoint_error {a : HttpAuthority} {path : String} {e : ClientError} (failed : a.endpoint path = .error e) :
    ∃ text, e = .config text := by
  unfold endpoint at failed
  split at failed
  · cases failed
  · cases failed
    exact ⟨_, rfl⟩

theorem checkUrl_error {a : HttpAuthority} {key : CheckKey} {e : ClientError} (failed : a.checkUrl key = .error e) :
    ∃ text, e = .config text := by
  rcases error_of_bind failed with missing | ⟨endpoint, _, failed⟩
  · exact endpoint_error missing
  · split at failed
    · cases failed
    · cases failed
      exact ⟨_, rfl⟩

theorem check_error {a : HttpAuthority} {moment : SigningMoment} {key : CheckKey} {reply : HttpReply}
    {e : ClientError} (failed : a.check moment key reply = .error e) : e.isUnrecorded = false := by
  rcases error_of_bind failed with unsent | ⟨_, _, refused⟩
  · rcases error_of_bind unsent with missing | ⟨url, _, unsigned⟩
    · obtain ⟨text, rfl⟩ := checkUrl_error missing
      rfl
    · rcases error_of_bind unsigned with refused | ⟨_, _, sent⟩
      · obtain ⟨e', _, rfl⟩ := error_of_mapError refused
        rfl
      · cases sent
  · have transport := HttpReply.toGrant_error refused
    cases e with
    | usageNotRecorded => cases transport
    | _ => rfl

end HttpAuthority

namespace ClientHistory
open History

variable {App : Type} {h : ClientHistory App}

/-- The authority never answers a check with an error that is about a usage report. -/
def ChecksOnly (h : ClientHistory App) : Prop :=
  ∀ q e now, .queryReply q (.error e) now ∈ h.events → e.isUnrecorded = false

/-- The call `i` gets a snapshot, and the snapshot says this. -/
def Ruled (h : ClientHistory App) (i : CallId) (admitted : Bool) : Prop :=
  ∃ n m s, h.Hears n i m (.ok s) ∧ s.admitted = admitted

/-! ### What a call that hears an error hears -/

theorem outcome_recorded (checks : h.ChecksOnly) (n : Nat) {q : QueryId} {e : ClientError}
    (ended : (h.state n).outcome? q = some (.error e)) : e.isUnrecorded = false := by
  obtain ⟨⟨key, status⟩, found, ended⟩ := Client.outcome?_some.mp ended
  refine h.invariant (P := fun c => ∀ key status, c.queries.find? q = some ⟨key, status⟩ →
    status.result? = some (.error e) → e.isUnrecorded = false) ?_ ?_ n key status found ended
  · intro key status found
    rw [h.start_blank.1] at found
    cases found
  · intro k event happened before key status found ended
    rcases ((h.state k).step_learns event).turns found with present | turn
    · exact before key status present ended
    · cases turn with
      | begun | asked => cases ended
      | panicked message =>
        cases ended
        rfl
      | aborted =>
        cases ended
        rfl
      | answered reply now =>
        cases reply with
        | ok => cases ended
        | error e' =>
          cases ended
          exact checks q e now (List.mem_of_getElem? happened)

theorem heard_recorded (checks : h.ChecksOnly) {n : Nat} {i : CallId} {m : Moment App} {e : ClientError}
    (hears : h.Hears n i m (.error e)) : e.isUnrecorded = false := by
  obtain ⟨_, key, _, _, heard⟩ := hears
  rcases Client.hears?_cases heard with ⟨_, _, _, _, told⟩ | ⟨q, _, _, ended⟩
  · simp only [Client.heard?] at told
    split at told
    · cases told
    · obtain ⟨q, _, ended⟩ := Option.bind_eq_some_iff.mp told
      exact outcome_recorded checks n ended
  · exact outcome_recorded checks n ended

/-! ### Up to the result -/

/-- Where the consuming call `i` can be: before the decision, between the decision and the reply to its report, at
the end with a result that says what the snapshot said, or forgotten. -/
inductive Stands (h : ClientHistory App) (i : CallId) : Option Phase → Prop
  | waiting (q : QueryId) (key : CheckKey) (purpose : Purpose) : h.Stands i (some (.waiting q key purpose))
  | reporting {outcome : ConsumeOutcome} (ruled : h.Ruled i true) (admitted : outcome.admitted = true) :
      h.Stands i (some (.reporting (some outcome)))
  | finished {result : Except ClientError ConsumeOutcome} (ruled : ∀ b, verdict? result = some b ↔ h.Ruled i b) :
      h.Stands i (some (.finished (result.map .consumed)))
  | forgotten : h.Stands i none

theorem Hears.ruled {n : Nat} {i : CallId} {m : Moment App} {result : Except ClientError Snapshot}
    (hears : h.Hears n i m result) (b : Bool) : h.Ruled i b ↔ ∃ s, result = .ok s ∧ s.admitted = b := by
  constructor
  · rintro ⟨_, _, s, hears', admitted⟩
    exact ⟨s, hears.unique hears', admitted⟩
  · rintro ⟨s, rfl, admitted⟩
    exact ⟨n, m, s, hears, admitted⟩

theorem Ruled.finished {i : CallId} {b : Bool} (ruled : h.Ruled i b) {result : Except ClientError ConsumeOutcome}
    (tells : verdict? result = some b) : h.Stands i (some (.finished (result.map .consumed))) := by
  obtain ⟨n, m, s, hears, admitted⟩ := ruled
  refine .finished fun b' => ?_
  rw [tells, hears.ruled, Option.some.injEq]
  constructor
  · rintro rfl
    exact ⟨s, rfl, admitted⟩
  · rintro ⟨s', same, admitted'⟩
    cases same
    exact admitted.symm.trans admitted'

/-- A call that hears of its check goes on to stand so. -/
theorem hears_stands (checks : h.ChecksOnly) {l n : Nat} {i : CallId} {key : CheckKey} {amount : UInt64}
    {m : Moment App} {result : Except ClientError Snapshot} (consumes : h.Consumes l i key amount)
    (hears : h.Hears n i m result) : h.Stands i ((h.state (n + 1)).phase? i) := by
  obtain ⟨e, key', purpose, happened, heard⟩ := id hears
  obtain ⟨rfl, rfl⟩ := consumes.purpose happened heard
  obtain ⟨_, window, _, phase⟩ := Client.step_hears heard
  have settled := { h.state n with window }.proceed_settled key' (.consume amount) result m
  rw [state_succ happened, phase]
  generalize ({ h.state n with window }.proceed key' (.consume amount) result m).1 = phase at settled
  cases settled with
  | failed _ e =>
    have recorded := heard_recorded checks hears
    have ruled (b : Bool) : verdict? (.error e) = some b ↔ h.Ruled i b := by
      simp [hears.ruled, verdict?, recorded]
    exact .finished ruled
  | @denied s _ refused =>
    have ruled : h.Ruled i false := ⟨n, m, s, hears, refused⟩
    have tells : verdict? (.ok (s.consume amount)) = some false :=
      congrArg some ((s.consume_admitted amount).trans refused)
    exact ruled.finished tells
  | @reporting s _ admitted =>
    exact .reporting ⟨n, m, s, hears, admitted⟩ ((s.consume_admitted amount).trans admitted)
  | @unreported s _ e admitted =>
    have ruled : h.Ruled i true := ⟨n, m, s, hears, admitted⟩
    have tells : verdict? (.error (.usageNotRecorded (s.consume amount).remaining e)) = some true := rfl
    exact ruled.finished tells

/-- A call that comes when the client is closed never hears of a check. -/
theorem came_closed {l : Nat} {i : CallId} {request : CallRequest} {m : Moment App}
    (called : h.Calls l i request m) (closed : (h.state l).closed = true) (b : Bool) : ¬ h.Ruled i b := by
  rintro ⟨n, _, _, ⟨e, key, purpose, happened, heard⟩, _⟩
  obtain ⟨l', _, request', m', called', need⟩ := hearing_called happened heard
  obtain ⟨rfl, _⟩ := called.unique called'
  cases closed.symm.trans (Client.need?_open need)

theorem Consumes.stands (checks : h.ChecksOnly) {l : Nat} {i : CallId} {key : CheckKey} {amount : UInt64}
    (consumes : h.Consumes l i key amount) : h.Stands i ((h.state (l + 1)).phase? i) := by
  obtain ⟨request, m, called, asked⟩ := id consumes
  cases state : (h.state l).closed with
  | true =>
    have turned : (h.state (l + 1)).phase? i = some (.finished (.error .closed)) := by
      rw [state_succ called.1, called.2, Client.step, Client.start_closed state]
      exact congrArg (Option.map Call.phase) (Table.find?_insert_self ..)
    have ruled (b : Bool) : verdict? (.error .closed) = some b ↔ h.Ruled i b := by
      simp [verdict?, ClientError.isUnrecorded, came_closed called state b]
    rw [turned]
    exact .finished ruled
  | false =>
    have need : (h.state l).need? request m = some (key, .consume amount) := Client.need?_consume.mpr ⟨state, asked⟩
    cases heard : (h.state l).heard? key m.now with
    | some result =>
      have hears : h.Hears l i m result := ⟨_, key, .consume amount, called.1, called.hears? need heard⟩
      exact hears_stands checks consumes hears
    | none =>
      obtain ⟨phase, after, entered, same⟩ := (h.state l).start_entered request m
      rw [state_succ called.1, called.2, Client.step, Client.phase?_start same]
      rcases entered.heard need with ⟨_, _, told, _⟩ | ⟨_, ⟨q, rfl⟩, _⟩
      · cases heard.symm.trans told
      · exact .waiting ..

theorem Stands.step (checks : h.ChecksOnly) {l k : Nat} {i : CallId} {key : CheckKey} {amount : UInt64}
    (consumes : h.Consumes l i key amount) (after : l < k) {e : ClientEvent App} (happened : h.events[k]? = some e)
    (stands : h.Stands i ((h.state k).phase? i)) : h.Stands i (((h.state k).step e).phase? i) := by
  obtain ⟨_, _, called, _⟩ := id consumes
  have came := number_lt after called
  generalize now : (h.state k).phase? i = phase at stands
  cases stands with
  | forgotten =>
    rw [Client.phase?_forgotten came now e]
    exact .forgotten
  | finished ruled =>
    rcases Client.phase?_finished came now e with same | ⟨gone, _⟩
    · rw [same]
      exact .finished ruled
    · rw [gone]
      exact .forgotten
  | @reporting outcome ruled admitted =>
    rcases Client.phase?_reporting came now e with ⟨reply, _, done⟩ | ⟨_, gone⟩ | ⟨_, same⟩
    · rw [done]
      cases reply with
      | ok =>
        have tells : verdict? (.ok outcome) = some true := congrArg some admitted
        exact ruled.finished tells
      | error e' =>
        have tells : verdict? (.error (.usageNotRecorded outcome.remaining e')) = some true := rfl
        exact ruled.finished tells
    · rw [gone]
      exact .forgotten
    · rw [same]
      exact .reporting ruled admitted
  | waiting q key' purpose =>
    rcases Client.phase?_waiting came now e with ⟨m, result, rfl, ended, _⟩ | ⟨_, gone⟩ | ⟨_, _, same⟩
    · have hears : h.Hears k i m result := ⟨_, key', purpose, happened, Client.hears?_resume now ended m⟩
      rw [← state_succ happened]
      exact hears_stands checks consumes hears
    · rw [gone]
      exact .forgotten
    · rw [same]
      exact .waiting ..

theorem stands (checks : h.ChecksOnly) {l k : Nat} {i : CallId} {key : CheckKey} {amount : UInt64}
    (consumes : h.Consumes l i key amount) (later : l < k) : h.Stands i ((h.state k).phase? i) := by
  have both := h.induction (P := fun k c => l < k ∧ h.Stands i (c.phase? i)) (Nat.succ_le_of_lt later)
    ⟨Nat.lt_succ_self l, consumes.stands checks⟩ ?_ ?_
  · exact both.2
  · rintro j e _ happened ⟨after, stands⟩
    exact ⟨Nat.lt_succ_of_lt after, stands.step checks consumes after happened⟩
  · rintro j _ _ ⟨after, stands⟩
    exact ⟨Nat.lt_succ_of_lt after, stands⟩

theorem Consumes.came {l k : Nat} {i : CallId} {key : CheckKey} {amount : UInt64} {phase : Phase}
    (consumes : h.Consumes l i key amount) (has : (h.state k).phase? i = some phase) : l < k := by
  obtain ⟨_, _, called, _⟩ := consumes
  have number : (h.state l).nextCall < (h.state k).nextCall := called.2 ▸ phase?_lt has
  exact Nat.lt_of_not_le fun sooner => Nat.not_lt.mpr (nextCall_mono sooner) number

/-- The strict policy admits exactly if a consumption got a snapshot that admits, and the lenient one refuses exactly
if it got one that does not. -/
theorem policy_decides_undecided :
    (∀ (h : ClientHistory App), h.ChecksOnly → ∀ l i key amount, h.Consumes l i key amount →
      ∀ k result, (h.state k).phase? i = some (.finished result) →
        ∃ r : Except ClientError ConsumeOutcome, result = r.map .consumed ∧
          (FailurePolicy.closed.admitOr r (·.admitted) = true ↔
            ∃ n m s, h.Hears n i m (.ok s) ∧ s.admitted = true) ∧
          (FailurePolicy.opened.admitOr r (·.admitted) = false ↔
            ∃ n m s, h.Hears n i m (.ok s) ∧ s.admitted = false) ∧
          (FailurePolicy.closed.admitOr r (·.admitted) ≠ FailurePolicy.opened.admitOr r (·.admitted) ↔
            ¬ ∃ n m s, h.Hears n i m (.ok s))) ∧
    ∀ (a : HttpAuthority) (moment : SigningMoment) (key : CheckKey) (reply : HttpReply) (e : ClientError),
      a.check moment key reply = .error e → e.isUnrecorded = false := by
  refine ⟨?_, fun a moment key reply e => HttpAuthority.check_error⟩
  intro h checks l i key amount consumes k result finished
  have stands := stands checks consumes (consumes.came finished)
  rw [finished] at stands
  cases stands with
  | @finished r ruled =>
    have heard : (∃ n m s, h.Hears n i m (.ok s)) ↔ ∃ b, verdict? r = some b := by
      constructor
      · rintro ⟨n, m, s, hears⟩
        exact ⟨s.admitted, (ruled _).mpr ⟨n, m, s, hears, rfl⟩⟩
      · rintro ⟨b, tells⟩
        obtain ⟨n, m, s, hears, _⟩ := (ruled b).mp tells
        exact ⟨n, m, s, hears⟩
    refine ⟨r, rfl, ?_, ?_, ?_⟩
    · refine Iff.trans ?_ (ruled true)
      rw [FailurePolicy.admitOr_verdict]
      cases verdict? r <;> simp
    · refine Iff.trans ?_ (ruled false)
      rw [FailurePolicy.admitOr_verdict]
      cases verdict? r <;> simp
    · rw [heard, FailurePolicy.admitOr_verdict, FailurePolicy.admitOr_verdict]
      cases verdict? r <;> simp

/-- One consumption is admitted but its report fails, one is refused, one hears nothing but an error, one is admitted
when the client has been closed, and one comes after that. -/
def fiveGates : ClientHistory Unit :=
  ofEvents [.call (.consume .product 3) (atSecond 0), .call (.consume (.feature "export") 1) (atSecond 0),
    .call (.consume (.feature "import") 1) (atSecond 0), .call (.consumeFor .empty) (atSecond 0), .ask 0, .ask 1,
    .ask 2, .queryReply 0 (.ok ⟨tenUnits, none⟩) (atSecond 1).now,
    .queryReply 1 (.ok ⟨{ admitted := false }, none⟩) (atSecond 1).now,
    .queryReply 2 (.error .timeout) (atSecond 1).now, .resume 0 (atSecond 1), .resume 1 (atSecond 1),
    .resume 2 (atSecond 1), .reportReply 0 (.error .timeout), .close, .resume 3 (atSecond 2),
    .call (.consume .product 1) (atSecond 3)]

theorem fiveGates_decided :
    fiveGates.ChecksOnly ∧
    (fiveGates.Consumes 0 0 .product 3 ∧
      (fiveGates.state 17).phase? 0 = some (.finished (.error (.usageNotRecorded 7 .timeout))) ∧
      ∃ n m s, fiveGates.Hears n 0 m (.ok s) ∧ s.admitted = true) ∧
    (fiveGates.Consumes 1 1 (.feature "export") 1 ∧
      (fiveGates.state 17).phase? 1 = some (.finished (.ok (.consumed ⟨false, 0, some (.authority "")⟩))) ∧
      ∃ n m s, fiveGates.Hears n 1 m (.ok s) ∧ s.admitted = false) ∧
    (fiveGates.Consumes 2 2 (.feature "import") 1 ∧
      (fiveGates.state 17).phase? 2 = some (.finished (.error .timeout)) ∧
      ¬ ∃ n m s, fiveGates.Hears n 2 m (.ok s)) ∧
    (fiveGates.Consumes 3 3 .product 1 ∧
      (fiveGates.state 17).phase? 3 = some (.finished (.error (.usageNotRecorded 9 .closed))) ∧
      ∃ n m s, fiveGates.Hears n 3 m (.ok s) ∧ s.admitted = true) ∧
    (fiveGates.Consumes 16 4 .product 1 ∧
      (fiveGates.state 17).phase? 4 = some (.finished (.error .closed)) ∧
      ¬ ∃ n m s, fiveGates.Hears n 4 m (.ok s)) := by
  have checks : fiveGates.ChecksOnly := by
    intro q e now asked
    simp only [fiveGates, ofEvents, List.mem_cons, reduceCtorEq, ClientEvent.queryReply.injEq, Except.error.injEq,
      List.not_mem_nil, and_false, false_and, or_false, false_or] at asked
    obtain ⟨_, rfl, _⟩ := asked
    rfl
  have decided := policy_decides_undecided.1 fiveGates checks
  have first : fiveGates.Consumes 0 0 .product 3 := ⟨_, _, ⟨rfl, rfl⟩, Or.inl rfl⟩
  have second : fiveGates.Consumes 1 1 (.feature "export") 1 := ⟨_, _, ⟨rfl, rfl⟩, Or.inl rfl⟩
  have third : fiveGates.Consumes 2 2 (.feature "import") 1 := ⟨_, _, ⟨rfl, rfl⟩, Or.inl rfl⟩
  have fourth : fiveGates.Consumes 3 3 .product 1 := ⟨_, _, ⟨rfl, rfl⟩, Or.inr ⟨_, rfl, rfl, rfl⟩⟩
  have fifth : fiveGates.Consumes 16 4 .product 1 := ⟨_, _, ⟨rfl, rfl⟩, Or.inl rfl⟩
  refine ⟨checks, ⟨first, rfl, ?_⟩, ⟨second, rfl, ?_⟩, ⟨third, rfl, ?_⟩, ⟨fourth, rfl, ?_⟩, ⟨fifth, rfl, ?_⟩⟩
  · obtain ⟨r | r, same, strict, _⟩ := decided 0 0 _ _ first 17 _ rfl
    · cases same
      exact strict.mp rfl
    · cases same
  · obtain ⟨r | r, same, _, lenient, _⟩ := decided 1 1 _ _ second 17 _ rfl
    · cases same
    · cases same
      exact lenient.mp rfl
  · obtain ⟨r | r, same, _, _, differ⟩ := decided 2 2 _ _ third 17 _ rfl
    · cases same
      exact differ.mp (by decide)
    · cases same
  · obtain ⟨r | r, same, strict, _⟩ := decided 3 3 _ _ fourth 17 _ rfl
    · cases same
      exact strict.mp rfl
    · cases same
  · obtain ⟨r | r, same, _, _, differ⟩ := decided 16 4 _ _ fifth 17 _ rfl
    · cases same
      exact differ.mp (by decide)
    · cases same

end ClientHistory

end Entitlement
