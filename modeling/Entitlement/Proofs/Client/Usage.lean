import Entitlement.Proofs.Client.Decisions
import Entitlement.Proofs.Client.Reports

/-!
Usage is reported once. Between the moment at which a consumption is admitted and the reply to its report,
anything can happen; yet what is sent are the reports of the calls that admit a consumption or are for nothing
but a report, one for each (`usage_reported_once`). A call whose consumption was admitted tells, when the reply
has come, that it was recorded, or that it was not and why.
-/

namespace Entitlement.ClientHistory
open History

variable {App : Type} {h : ClientHistory App}

/-- The `n`th event is a call with this request, which gets the number `i`. -/
def Calls (h : ClientHistory App) (n : Nat) (i : CallId) (request : CallRequest) (m : Moment App) : Prop :=
  h.events[n]? = some (.call request m) ∧ i = (h.state n).nextCall

/-- In the `n`th event the call `i` comes, to consume `amount` under `key`. -/
def Consumes (h : ClientHistory App) (n : Nat) (i : CallId) (key : CheckKey) (amount : UInt64) : Prop :=
  ∃ request m, h.Calls n i request m ∧ (request = .consume key amount ∨
    ∃ context, request = .consumeFor context ∧ key = .product ∧ amount = (h.state n).providers.amount context)

/-- In the `n`th event the call `i` gets the result of its check. -/
def Hears (h : ClientHistory App) (n : Nat) (i : CallId) (m : Moment App)
    (result : Except ClientError Snapshot) : Prop :=
  ∃ e key purpose, h.events[n]? = some e ∧ (h.state n).hears? e = some ⟨i, key, purpose, result, m⟩

/-- In the `n`th event the call `i` is to send a report: it is for nothing else, or it is to consume and gets a
snapshot that admits that, and the client is open. -/
inductive Reports (h : ClientHistory App) (n : Nat) (i : CallId) : UsageReport → Prop
  | told {key : CheckKey} {amount : UInt64} {m : Moment App} (called : h.Calls n i (.report key amount) m)
      (opened : (h.state n).closed = false) :
      Reports h n i ⟨h.authenticator.identity, key.text, amount, Int64.ofInt m.wallSeconds⟩
  | admitted {l : Nat} {key : CheckKey} {amount : UInt64} {m : Moment App} {s : Snapshot}
      (consumes : h.Consumes l i key amount) (hears : h.Hears n i m (.ok s)) (admitted : s.admitted = true)
      (opened : (h.state n).closed = false) :
      Reports h n i ⟨h.authenticator.identity, key.text, amount, Int64.ofInt m.wallSeconds⟩

/-- The first reply to the report of the call `i` that comes after the `n`th event, and among the first `k`. -/
def FirstReply (h : ClientHistory App) (i : CallId) (n k : Nat) (reply : Except ClientError Unit) : Prop :=
  ∃ r, n < r ∧ r < k ∧ h.events[r]? = some (.reportReply i reply) ∧
    ∀ j, n < j → j < r → ∀ reply', h.events[j]? ≠ some (.reportReply i reply')

/-- Where the call `i` is after `k` events if in the `n`th its consumption was admitted, with `remaining` left. -/
inductive Course (h : ClientHistory App) (i : CallId) (n : Nat) (remaining : UInt64) (k : Nat) :
    Option Phase → Prop
  | unsent (closed : (h.state n).closed = true) :
      Course h i n remaining k (some (.finished (.error (.usageNotRecorded remaining .closed))))
  | sent (opened : (h.state n).closed = false)
      (silent : ∀ j, n < j → j < k → ∀ reply, h.events[j]? ≠ some (.reportReply i reply)) :
      Course h i n remaining k (some (.reporting (some ⟨true, remaining, none⟩)))
  | recorded (opened : (h.state n).closed = false) (replied : h.FirstReply i n k (.ok ())) :
      Course h i n remaining k (some (.finished (.ok (.consumed ⟨true, remaining, none⟩))))
  | unrecorded {e : ClientError} (opened : (h.state n).closed = false) (replied : h.FirstReply i n k (.error e)) :
      Course h i n remaining k (some (.finished (.error (.usageNotRecorded remaining e))))
  | cancelled {r : Nat} (after : n < r) (before : r < k) (happened : h.events[r]? = some (.cancel i)) :
      Course h i n remaining k none
  | taken {r : Nat} {result : CallResult} (after : n < r) (before : r < k)
      (happened : h.events[r]? = some (.take i)) (had : (h.state r).phase? i = some (.finished result)) :
      Course h i n remaining k none

/-! ### Numbers -/

theorem identity (h : ClientHistory App) (n : Nat) : (h.state n).identity = h.authenticator.identity := by
  refine h.invariant (P := fun c : Client App => c.identity = h.authenticator.identity) ?_ ?_ n
  · rw [Client.build_ok h.built]
  · intro k e _ before
    exact ((h.state k).step_numbered e).1.trans before

theorem nextCall_mono {m n : Nat} (later : m ≤ n) : (h.state m).nextCall ≤ (h.state n).nextCall := by
  refine h.induction (P := fun _ c => (h.state m).nextCall ≤ c.nextCall) later (Nat.le_refl _) ?_ (fun _ _ _ => id)
  intro k e _ _ before
  exact Nat.le_trans before ((h.state k).step_numbered e).2

theorem number_lt {l n : Nat} (later : l < n) {i : CallId} {request : CallRequest} {m : Moment App}
    (called : h.Calls l i request m) : i < (h.state n).nextCall := by
  refine Nat.lt_of_lt_of_le ?_ (nextCall_mono (Nat.succ_le_of_lt later))
  rw [state_succ called.1, called.2, Client.step, Client.start_numbered]
  exact Nat.lt_succ_self _

theorem Calls.unique {l l' : Nat} {i : CallId} {request request' : CallRequest} {m m' : Moment App}
    (called : h.Calls l i request m) (called' : h.Calls l' i request' m') : l = l' ∧ request = request' := by
  have same : l = l' := by
    rcases Nat.lt_trichotomy l l' with sooner | same | later
    · exact (Nat.ne_of_lt (number_lt sooner called) called'.2).elim
    · exact same
    · exact (Nat.ne_of_lt (number_lt later called') called.2).elim
  subst same
  cases called.1.symm.trans called'.1
  exact ⟨rfl, rfl⟩

theorem past_later {k n : Nat} (later : k ≤ n) {i : CallId} (past : (h.state k).Past i) : (h.state n).Past i :=
  h.induction (P := fun _ c => c.Past i) later past (fun _ e _ _ before => before.step e) (fun _ _ _ => id)

/-! ### Hearing once -/

theorem Calls.hears? {l : Nat} {i : CallId} {request : CallRequest} {m : Moment App} {key : CheckKey}
    {purpose : Purpose} {result : Except ClientError Snapshot} (called : h.Calls l i request m)
    (need : (h.state l).need? request m = some (key, purpose)) (heard : (h.state l).heard? key m.now = some result) :
    (h.state l).hears? (.call request m) = some ⟨i, key, purpose, result, m⟩ := by
  rw [called.2]
  exact Client.hears?_call need heard

theorem hearing_called {n : Nat} {e : ClientEvent App} {x : Hearing App} (happened : h.events[n]? = some e)
    (hears : (h.state n).hears? e = some x) :
    ∃ l ≤ n, ∃ request m, h.Calls l x.call request m ∧
      (h.state l).need? request m = some (x.key, x.purpose) := by
  rcases Client.hears?_cases hears with ⟨request, rfl, new, need, _⟩ | ⟨q, rfl, waited, _⟩
  · exact ⟨n, Nat.le_refl n, request, x.moment, ⟨happened, new⟩, need⟩
  -- A call that waits has looked for a snapshot when it came, and its story says of which key and what for.
  · obtain ⟨request, found⟩ := Client.phase?_some waited
    cases h.story n found with
    | idle idle => cases idle
    | waiting awaits =>
      obtain ⟨_, l, sooner, ⟨request', m, called, need, _⟩, number, _⟩ := awaits
      exact ⟨l, Nat.le_of_lt sooner, request', m, ⟨called, number⟩, need⟩

theorem hearing_past {n : Nat} {e : ClientEvent App} {x : Hearing App} (happened : h.events[n]? = some e)
    (hears : (h.state n).hears? e = some x) : (h.state (n + 1)).Past x.call := by
  obtain ⟨l, sooner, request, m, called, _⟩ := hearing_called happened hears
  refine ⟨number_lt (Nat.lt_succ_of_le sooner) called, ?_⟩
  obtain ⟨_, window, _, phase⟩ := Client.step_hears hears
  intro q key purpose waits
  rw [state_succ happened, phase] at waits
  exact Client.proceed_not_waiting _ _ _ _ _ q key purpose (Option.some.inj waits)

theorem Hears.not_again {n n' : Nat} {i : CallId} {m m' : Moment App}
    {result result' : Except ClientError Snapshot} (hears : h.Hears n i m result)
    (hears' : h.Hears n' i m' result') : ¬ n < n' := by
  intro sooner
  obtain ⟨_, _, _, happened, heard⟩ := hears
  obtain ⟨_, _, _, _, heard'⟩ := hears'
  exact (past_later (Nat.succ_le_of_lt sooner) (hearing_past happened heard)).unheard heard' rfl

theorem Hears.unique {n n' : Nat} {i : CallId} {m m' : Moment App} {result result' : Except ClientError Snapshot}
    (hears : h.Hears n i m result) (hears' : h.Hears n' i m' result') : result = result' := by
  obtain rfl := Nat.le_antisymm (Nat.le_of_not_lt (hears'.not_again hears)) (Nat.le_of_not_lt (hears.not_again hears'))
  obtain ⟨_, _, _, happened, heard⟩ := hears
  obtain ⟨_, _, _, happened', heard'⟩ := hears'
  cases happened.symm.trans happened'
  cases heard.symm.trans heard'
  rfl

theorem Consumes.purpose {l n : Nat} {e : ClientEvent App} {x : Hearing App} {key : CheckKey} {amount : UInt64}
    (consumes : h.Consumes l x.call key amount) (happened : h.events[n]? = some e)
    (hears : (h.state n).hears? e = some x) : x.key = key ∧ x.purpose = .consume amount := by
  obtain ⟨request, m, called, asked⟩ := consumes
  obtain ⟨l', _, request', m', called', need⟩ := hearing_called happened hears
  obtain ⟨rfl, rfl⟩ := called.unique called'
  cases called.1.symm.trans called'.1
  have own : (h.state l).need? request m = some (key, .consume amount) :=
    Client.need?_consume.mpr ⟨Client.need?_open need, asked⟩
  exact Prod.mk.inj (Option.some.inj (need.symm.trans own))

/-! ### Reporting once -/

theorem reports_iff {n : Nat} {i : CallId} {report : UsageReport} :
    h.Reports n i report ↔ ∃ e, h.events[n]? = some e ∧ (h.state n).report? e = some (i, report) := by
  constructor
  · rintro (⟨⟨happened, rfl⟩, opened⟩ | ⟨consumes, ⟨e, key, purpose, happened, hears⟩, admitted, opened⟩)
    · refine ⟨_, happened, ?_⟩
      simp only [Client.report?, opened, Client.usageReport, h.identity, Bool.false_eq_true, ↓reduceIte]
    · obtain ⟨rfl, rfl⟩ := consumes.purpose happened hears
      refine ⟨e, happened, ?_⟩
      simp only [Client.report?_hears hears, opened, admitted?, admitted, Client.usageReport, h.identity,
        Bool.false_eq_true, ↓reduceIte, Option.map_some]
  · rintro ⟨e, happened, reports⟩
    obtain ⟨opened, ⟨key, amount, m, rfl, new, rfl⟩ | ⟨x, amount, hears, rfl, grant, rfl⟩⟩ :=
      Client.report?_cases reports
    · rw [Client.usageReport, h.identity]
      exact .told ⟨happened, new⟩ opened
    · obtain ⟨call, key, purpose, result, m⟩ := x
      obtain ⟨rfl, s, rfl, admitted⟩ := admitted?_eq_some.mp grant
      obtain ⟨l, _, request, m', called, need⟩ := hearing_called happened hears
      have consumes : h.Consumes l call key amount := ⟨request, m', called, (Client.need?_consume.mp need).2⟩
      rw [Client.usageReport, h.identity]
      exact .admitted consumes ⟨e, key, _, happened, hears⟩ admitted opened

/-- Who is to report in the first `n` events, and what, in this order. -/
def reporters (h : ClientHistory App) (n : Nat) : List (CallId × UsageReport) :=
  (List.range n).filterMap fun m => h.events[m]?.bind (h.state m).report?

theorem reporters_succ (h : ClientHistory App) (n : Nat) :
    h.reporters (n + 1) = h.reporters n ++ (h.events[n]?.bind (h.state n).report?).toList := by
  rw [reporters, List.range_succ, List.filterMap_append, reporters, List.filterMap_cons, List.filterMap_nil]
  cases h.events[n]?.bind (h.state n).report? <;> rfl

theorem mem_reporters {n : Nat} {i : CallId} {report : UsageReport} :
    (i, report) ∈ h.reporters n ↔ ∃ m < n, h.Reports m i report := by
  simp only [reporters, List.mem_filterMap, List.mem_range, Option.bind_eq_some_iff, reports_iff]

theorem Reports.past {n : Nat} {i : CallId} {report : UsageReport} (reports : h.Reports n i report) :
    (h.state (n + 1)).Past i := by
  cases reports with
  | @told key amount m called =>
    have noNeed : (h.state n).need? (.report key amount) m = none := by simp [Client.need?]
    rw [state_succ called.1, called.2]
    exact Client.start_past noNeed
  | admitted _ hears =>
    obtain ⟨e, key, purpose, happened, heard⟩ := hears
    exact hearing_past happened heard

theorem reporters_nodup (h : ClientHistory App) (n : Nat) : ((h.reporters n).map Prod.fst).Nodup := by
  induction n with
  | zero => exact List.nodup_nil
  | succ n ih =>
    rw [reporters_succ, List.map_append]
    cases reports : h.events[n]?.bind (h.state n).report? with
    | none => simpa using ih
    | some x =>
      obtain ⟨i, report⟩ := x
      obtain ⟨e, _, reports⟩ := Option.bind_eq_some_iff.mp reports
      -- Who has reported before is past that, and cannot be the one that reports now.
      have fresh : ∀ j ∈ (h.reporters n).map Prod.fst, j ≠ i := by
        intro j member
        obtain ⟨⟨_, report'⟩, present, rfl⟩ := List.mem_map.mp member
        obtain ⟨m, sooner, before⟩ := mem_reporters.mp present
        exact ((past_later (Nat.succ_le_of_lt sooner) before.past).unreported reports).symm
      refine List.nodup_append.mpr ⟨ih, List.pairwise_singleton .., ?_⟩
      intro j member j' last
      rw [List.mem_singleton.mp last]
      exact fresh j member

theorem usages_state (epoch : ∀ e ∈ h.events, e.SinceEpoch) (n : Nat) :
    (h.state n).usages = (h.reporters n).map Prod.snd := by
  induction n with
  | zero =>
    rw [state_zero, Client.build_ok h.built]
    rfl
  | succ n ih =>
    rw [reporters_succ, List.map_append, ← ih]
    cases happened : h.events[n]? with
    | none => rw [state_succ_of_none happened, Option.bind_none, Option.toList_none, List.map_nil, List.append_nil]
    | some e =>
      rw [state_succ happened, Client.step_usages (epoch e (List.mem_of_getElem? happened)), Option.bind_some]
      cases (h.state n).report? e <;> rfl

theorem refused_silent {l n : Nat} {i : CallId} {key : CheckKey} {amount : UInt64} {m : Moment App}
    {result : Except ClientError Snapshot} (consumes : h.Consumes l i key amount) (hears : h.Hears n i m result)
    (refused : ∀ s, result = .ok s → s.admitted = false) (n' : Nat) (report : UsageReport) :
    ¬ h.Reports n' i report := by
  rintro (⟨called, _⟩ | ⟨_, hears', admitted, _⟩)
  · obtain ⟨request, _, called', asked⟩ := consumes
    obtain ⟨_, rfl⟩ := called.unique called'
    rcases asked with asked | ⟨_, asked, _⟩ <;> cases asked
  · cases (refused _ (hears.unique hears')).symm.trans admitted

/-! ### To the end -/

theorem Course.extend {i : CallId} {n k : Nat} {remaining : UInt64} {phase : Option Phase}
    (course : h.Course i n remaining k phase)
    (quiet : ∀ outcome reply, phase = some (.reporting outcome) → h.events[k]? ≠ some (.reportReply i reply)) :
    h.Course i n remaining (k + 1) phase := by
  have later {reply : Except ClientError Unit} (replied : h.FirstReply i n k reply) :
      h.FirstReply i n (k + 1) reply := by
    obtain ⟨r, after, before, rest⟩ := replied
    exact ⟨r, after, Nat.lt_succ_of_lt before, rest⟩
  cases course with
  | unsent closed => exact .unsent closed
  | sent opened silent =>
    refine .sent opened ?_
    intro j after before reply
    rcases Nat.lt_succ_iff_lt_or_eq.mp before with sooner | rfl
    · exact silent j after sooner reply
    · exact quiet _ reply rfl
  | recorded opened replied => exact .recorded opened (later replied)
  | unrecorded opened replied => exact .unrecorded opened (later replied)
  | cancelled after before happened => exact .cancelled after (Nat.lt_succ_of_lt before) happened
  | taken after before happened had => exact .taken after (Nat.lt_succ_of_lt before) happened had

theorem Course.step {i : CallId} {n k : Nat} {remaining : UInt64} {e : ClientEvent App} (after : n < k)
    (past : (h.state k).Past i) (happened : h.events[k]? = some e)
    (course : h.Course i n remaining k ((h.state k).phase? i)) :
    h.Course i n remaining (k + 1) (((h.state k).step e).phase? i) := by
  have settle {result : CallResult} (now : (h.state k).phase? i = some (.finished result))
      (course : h.Course i n remaining k (some (.finished result))) :
      h.Course i n remaining (k + 1) (((h.state k).step e).phase? i) := by
    rcases Client.phase?_finished past.1 now e with same | ⟨gone, rfl | rfl⟩
    · rw [same]
      exact course.extend nofun
    · rw [gone]
      exact .taken after (Nat.lt_succ_self k) happened now
    · rw [gone]
      exact .cancelled after (Nat.lt_succ_self k) happened
  generalize now : (h.state k).phase? i = phase at course
  cases course with
  | unsent closed => exact settle now (.unsent closed)
  | recorded opened replied => exact settle now (.recorded opened replied)
  | unrecorded opened replied => exact settle now (.unrecorded opened replied)
  | cancelled after' before told =>
    rw [Client.phase?_forgotten past.1 now e]
    exact .cancelled after' (Nat.lt_succ_of_lt before) told
  | taken after' before told had =>
    rw [Client.phase?_forgotten past.1 now e]
    exact .taken after' (Nat.lt_succ_of_lt before) told had
  | sent opened silent =>
    rcases Client.phase?_reporting past.1 now e with ⟨reply, rfl, done⟩ | ⟨rfl, gone⟩ | ⟨quiet, same⟩
    · have replied : h.FirstReply i n (k + 1) reply := ⟨k, after, Nat.lt_succ_self k, happened, silent⟩
      rw [done]
      cases reply with
      | ok => exact .recorded opened replied
      | error => exact .unrecorded opened replied
    · rw [gone]
      exact .cancelled after (Nat.lt_succ_self k) happened
    · rw [same]
      refine (Course.sent opened silent).extend fun _ reply _ replied => ?_
      exact quiet reply (Option.some.inj (happened.symm.trans replied))

/-- The first place of the course is where the call decides; from there on each event moves it along. -/
theorem course {l n : Nat} {i : CallId} {key : CheckKey} {amount : UInt64} {m : Moment App} {s : Snapshot}
    (epoch : ∀ e ∈ h.events, e.SinceEpoch) (consumes : h.Consumes l i key amount)
    (hears : h.Hears n i m (.ok s)) (admitted : s.admitted = true) {k : Nat} (later : n < k) :
    h.Course i n (Saturating.subUInt64 s.remainingQuota amount) k ((h.state k).phase? i) := by
  obtain ⟨e, key', purpose, happened, heard⟩ := hears
  obtain ⟨rfl, rfl⟩ := consumes.purpose happened heard
  obtain ⟨moment, window, _, phase⟩ := Client.step_hears heard
  have since : 0 ≤ m.wallSeconds := epoch e (List.mem_of_getElem? happened) m moment
  have first : h.Course i n (Saturating.subUInt64 s.remainingQuota amount) (n + 1)
      ((h.state (n + 1)).phase? i) := by
    rw [state_succ happened, phase, Client.proceed_admitted _ _ admitted amount since]
    cases state : (h.state n).closed with
    | true => exact .unsent state
    | false =>
      refine .sent state ?_
      intro j after before
      omega
  have both := h.induction
    (P := fun k c => n < k ∧ c.Past i ∧ h.Course i n (Saturating.subUInt64 s.remainingQuota amount) k (c.phase? i))
    (Nat.succ_le_of_lt later) ⟨Nat.lt_succ_self n, hearing_past happened heard, first⟩ ?_ ?_
  · exact both.2.2
  · rintro j e' _ happened' ⟨after, past, course⟩
    exact ⟨Nat.lt_succ_of_lt after, past.step e', course.step after past happened'⟩
  · rintro j _ finished ⟨after, past, course⟩
    refine ⟨Nat.lt_succ_of_lt after, past, course.extend fun _ _ _ replied => ?_⟩
    cases finished.symm.trans replied

/-- Each call that is to report usage sends one report, in the order of the calls, and nothing else sends any. The
reply to it decides what a consumption tells. -/
theorem usage_reported_once (h : ClientHistory App) (epoch : ∀ e ∈ h.events, e.SinceEpoch) :
    (∀ n, ∃ reporters : List (CallId × UsageReport),
      (h.state n).usages = reporters.map Prod.snd ∧ (reporters.map Prod.fst).Nodup ∧
      ∀ i report, (i, report) ∈ reporters ↔ ∃ m < n, h.Reports m i report) ∧
    (∀ l i key amount, h.Consumes l i key amount → ∀ n m result, h.Hears n i m result →
      ((∀ s, result = .ok s → s.admitted = false) → ∀ n' report, ¬ h.Reports n' i report) ∧
      (∀ s, result = .ok s → s.admitted = true → ∀ k, n < k →
        h.Course i n (Saturating.subUInt64 s.remainingQuota amount) k ((h.state k).phase? i))) := by
  constructor
  · intro n
    exact ⟨h.reporters n, usages_state epoch n, h.reporters_nodup n, fun i report => mem_reporters⟩
  · intro l i key amount consumes n m result hears
    refine ⟨refused_silent consumes hears, ?_⟩
    rintro s rfl admitted k later
    exact course epoch consumes hears admitted later

def tenUnits : Snapshot := Snapshot.admitting.withQuota (.of 10 0 0)

def atSecond (seconds : Nat) : Moment Unit := ⟨⟨seconds * nanosPerSecond⟩, seconds, ()⟩

/-- Two consumptions share a check, and a report is made on its own. The one consumption is recorded. The other
goes on only when the client has been closed, and sends nothing. -/
def sharedCheck : ClientHistory Unit :=
  ofEvents [.call (.consume .product 3) (atSecond 0), .call (.consume .product 4) (atSecond 0), .ask 0,
    .call (.report (.feature "export") 2) (atSecond 1), .queryReply 0 (.ok ⟨tenUnits, none⟩) (atSecond 2).now,
    .resume 0 (atSecond 2), .close, .resume 1 (atSecond 3), .reportReply 0 (.ok ())]

theorem sharedCheck_reports :
    (∀ e ∈ sharedCheck.events, e.SinceEpoch) ∧
    sharedCheck.Consumes 0 0 .product 3 ∧ sharedCheck.Hears 5 0 (atSecond 2) (.ok tenUnits) ∧
    sharedCheck.Consumes 1 1 .product 4 ∧ sharedCheck.Hears 7 1 (atSecond 3) (.ok tenUnits) ∧
    (sharedCheck.state 9).usages = [⟨"instance", "export", 2, 1⟩, ⟨"instance", "__product__", 3, 2⟩] ∧
    sharedCheck.Course 0 5 7 9 (some (.finished (.ok (.consumed ⟨true, 7, none⟩)))) ∧
    sharedCheck.Course 1 7 6 9 (some (.finished (.error (.usageNotRecorded 6 .closed)))) := by
  have epoch : ∀ e ∈ sharedCheck.events, e.SinceEpoch := by decide
  have first : sharedCheck.Consumes 0 0 .product 3 := ⟨_, _, ⟨rfl, rfl⟩, Or.inl rfl⟩
  have second : sharedCheck.Consumes 1 1 .product 4 := ⟨_, _, ⟨rfl, rfl⟩, Or.inl rfl⟩
  have first_hears : sharedCheck.Hears 5 0 (atSecond 2) (.ok tenUnits) := ⟨_, _, _, rfl, rfl⟩
  have second_hears : sharedCheck.Hears 7 1 (atSecond 3) (.ok tenUnits) := ⟨_, _, _, rfl, rfl⟩
  have courses := (usage_reported_once sharedCheck epoch).2
  exact ⟨epoch, first, first_hears, second, second_hears, rfl,
    (courses 0 0 _ _ first 5 _ _ first_hears).2 _ rfl rfl 9 (by decide),
    (courses 1 1 _ _ second 7 _ _ second_hears).2 _ rfl rfl 9 (by decide)⟩

end Entitlement.ClientHistory
