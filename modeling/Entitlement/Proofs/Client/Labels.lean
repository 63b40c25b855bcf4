import Entitlement.Proofs.Client.Slots
import Entitlement.Proofs.Ledger.Thinning

/-!
The keys that numbers stand for. Calls, queries and guards are each numbered in the order in which they come,
whatever key they are of, and events name them by their numbers. The key of a number is that of the call, the query
or the guard that gets it (`ClientHistory.labels`), and it fits whatever becomes of that later on
(`ClientHistory.labels_fit`).
-/

namespace Entitlement

structure Labels where
  call : CallId → Option CheckKey
  query : QueryId → Option CheckKey
  guard : GuardId → Option CheckKey

namespace Labels

variable {App : Type}

/-- The key that an event is about, if it is about one. -/
def key? (t : Labels) : ClientEvent App → Option CheckKey
  | .call request _ => request.key?
  | .resume i _ | .take i | .cancel i | .reportReply i _ | .registerReply i _ _ => t.call i
  | .ask q | .queryReply q _ _ | .queryPanic q _ => t.query q
  | .invalidate key => some key
  | .releaseSlot g | .dropSlot g => t.guard g
  | _ => none

/-- The queries and the guards of a client are of the keys that their numbers stand for. -/
structure Names (t : Labels) (c : Client App) : Prop where
  query : ∀ q query, c.queries.find? q = some query → t.query q = some query.key
  guard : ∀ g guard, c.ledger.guards.find? g = some guard → t.guard g = some guard.key.key

/-- So are its calls, and with them what they wait for and what they have been given. -/
structure Fits (t : Labels) (c : Client App) : Prop extends Names t c where
  call : ∀ i call, c.calls.find? i = some call → t.call i = call.request.key?
  flight : ∀ key q, c.inFlight.find? key = some q → t.query q = some key
  waiting : ∀ i q key purpose, c.phase? i = some (.waiting q key purpose) →
    t.call i = some key ∧ t.query q = some key
  holding : ∀ i g k, c.phase? i = some (.finished (.ok (.slot (.acquired g k)))) →
    t.call i = some k.key ∧ t.guard g = some k.key

theorem Fits.held {t : Labels} {c : Client App} (fits : t.Fits c) {i : CallId} {g : GuardId}
    (held : (c.phase? i).bind Phase.guard? = some g) : t.guard g = t.call i := by
  obtain ⟨phase, found, held⟩ := Option.bind_eq_some_iff.mp held
  unfold Phase.guard? at held
  split at held
  · next k =>
    cases Option.some.inj held
    obtain ⟨call, guard⟩ := fits.holding i g k found
    rw [call, guard]
  · cases held

end Labels

namespace Client

variable {App : Type} {c : Client App}

/-! ### Numbers -/

theorem numbers_calls : History.Numbers (@step App) nextCall fun c i => (c.calls.find? i).map Call.request where
  onward c e := (c.step_numbered e).2
  lasting c e i request known := by
    obtain ⟨call, found, rfl⟩ := Option.map_eq_some_iff.mp known
    cases step_goes found with
    | comes new =>
      refine Or.inr ⟨new, ?_⟩
      rw [step, start_numbered]
      exact Nat.lt_succ_self _
    | stays before | resumes _ before | reported _ before | registered _ _ before =>
      exact Or.inl (by rw [before]; rfl)

theorem Learns.numbers {e : ClientEvent App} {k : Knowledge} (learns : Learns c e k) : c.nextQuery ≤ k.nextQuery := by
  cases learns with
  | begun => exact Nat.le_succ _
  | _ => exact Nat.le_refl _

theorem Learns.label {e : ClientEvent App} {k : Knowledge} (learns : Learns c e k) {q : QueryId} {key : CheckKey}
    (known : (k.queries.find? q).map Query.key = some key) :
    (c.queries.find? q).map Query.key = some key ∨ (q = c.nextQuery ∧ c.nextQuery < k.nextQuery) := by
  have moved {q' : QueryId} {key' : CheckKey} {before after : QueryStatus}
      (there : c.queries.find? q' = some ⟨key', before⟩)
      (known : ((c.queries.insert q' ⟨key', after⟩).find? q).map Query.key = some key) :
      (c.queries.find? q).map Query.key = some key := by
    rw [Table.find?_insert] at known
    split at known
    · next same => rw [same, there, ← known]; rfl
    · exact known
  have aborted (known : (c.abortQueries.queries.find? q).map Query.key = some key) :
      (c.queries.find? q).map Query.key = some key := by
    rw [find?_abortQueries, Option.map_map] at known
    rw [← known]
    refine Option.map_congr fun query _ => ?_
    rw [Function.comp_apply]
    split <;> rfl
  cases learns with
  | unmoved | invalidated | cleared => exact Or.inl known
  | begun =>
    simp only [Table.find?_insert] at known
    split at known
    · next new => exact Or.inr ⟨new, Nat.lt_succ_self _⟩
    · exact Or.inl known
  | asked there | answered there | panicked there => exact Or.inl (moved there known)
  | closed | abandoned => exact Or.inl (aborted known)

theorem numbers_queries : History.Numbers (@step App) nextQuery fun c q => (c.queries.find? q).map Query.key where
  onward c e := (c.step_learns e).numbers
  lasting c e _ _ known := (c.step_learns e).label known

theorem numbers_guards : History.Numbers (@step App) (fun c => c.ledger.nextGuard)
    fun c g => (c.ledger.guards.find? g).map (·.key.key) where
  onward c e := by
    simp only [step_ledger]
    cases c.slots? e with
    | none => exact Nat.le_refl _
    | some slot => exact c.ledger.nextGuard_stepSlots slot
  lasting c e g key known := by
    simp only [step_ledger] at known ⊢
    cases asks : c.slots? e with
    | none =>
      rw [asks] at known
      exact Or.inl known
    | some slot =>
      rw [asks] at known
      obtain ⟨guard, found, rfl⟩ := Option.map_eq_some_iff.mp known
      refine (c.ledger.key_stepSlots slot found).imp_left ?_
      rintro ⟨before, present, same⟩
      rw [present, Option.map_some, same]

/-! ### Guards -/

theorem hears_ledger {e : ClientEvent App} {x : Hearing App} (hears : c.hears? e = some x) :
    (c.step e).ledger = afterSlots c.ledger (slotRequest? (c.slotKey x.key) x.purpose x.result) := by
  rcases hears?_cases hears with ⟨_, rfl, _⟩ | ⟨_, rfl, _⟩
  · simp only [step_ledger, slots?, hears, Option.bind_some]
  · simp only [step_ledger, slots?, hears, Option.bind_some]

/-- A call that is given a slot is given a guard of the ledger. -/
theorem acquired_guard {e : ClientEvent App} {i : CallId} {key : CheckKey} {s : Snapshot} {m : Moment App} {g : GuardId}
    {k : SlotKey} (hears : c.hears? e = some ⟨i, key, .slot, .ok s, m⟩)
    (after : (c.step e).phase? i = some (.finished (.ok (.slot (.acquired g k))))) :
    ∃ guard, (c.step e).ledger.guards.find? g = some guard ∧ guard.key = k := by
  obtain ⟨_, window, _, phase⟩ := step_hears hears
  have ledger : (c.step e).ledger = (s.acquireSlot c.ledger (c.slotKey key)).2 := hears_ledger hears
  have granted : (s.acquireSlot c.ledger (c.slotKey key)).1 = .acquired g k := by
    have same := Option.some.inj (after.symm.trans phase)
    exact (CallValue.slot.inj (Except.ok.inj (Phase.finished.inj same))).symm
  rcases s.acquireSlot_cases c.ledger (c.slotKey key) with ⟨_, _, _, _, taken, same⟩ | ⟨_, _, same⟩
  · obtain ⟨_, rfl, rfl⟩ := Ledger.tryAcquire_ok taken
    rw [same] at granted ledger
    cases granted
    exact ⟨_, (congrArg (·.guards.find? c.ledger.nextGuard) ledger).trans (Table.find?_insert_self ..), rfl⟩
  · rw [same] at granted
    cases granted

theorem start_request (c : Client App) (request : CallRequest) (m : Moment App) :
    ∃ phase, (c.start request m).calls.find? c.nextCall = some ⟨request, phase⟩ := by
  obtain ⟨phase, _, _, same⟩ := c.start_entered request m
  rw [same]
  exact ⟨phase, Table.find?_insert_self ..⟩

end Client

namespace ClientHistory
open History

variable {App : Type}

/-- The key of a number is that of what first gets it. -/
def labels (h : ClientHistory App) : Labels where
  call i := (h.first? fun c => (c.calls.find? i).map Call.request).bind CallRequest.key?
  query q := h.first? fun c => (c.queries.find? q).map Query.key
  guard g := h.first? fun c => (c.ledger.guards.find? g).map (·.key.key)

variable (h : ClientHistory App)

theorem first_request {n : Nat} {i : CallId} {call : Call} (found : (h.state n).calls.find? i = some call) :
    h.first? (fun c => (c.calls.find? i).map Call.request) = some call.request := by
  have blank (i : CallId) : (h.start.calls.find? i).map Call.request = none := by rw [h.start_blank.2.1]; rfl
  exact Client.numbers_calls.first?_eq blank (congrArg (Option.map Call.request) found)

theorem labels_call {n : Nat} {i : CallId} {call : Call} (found : (h.state n).calls.find? i = some call) :
    h.labels.call i = call.request.key? :=
  congrArg (Option.bind · CallRequest.key?) (h.first_request found)

theorem labels_query {n : Nat} {q : QueryId} {query : Query} (found : (h.state n).queries.find? q = some query) :
    h.labels.query q = some query.key := by
  have blank (q : QueryId) : (h.start.queries.find? q).map Query.key = none := by rw [h.start_blank.1]; rfl
  exact Client.numbers_queries.first?_eq blank (congrArg (Option.map Query.key) found)

theorem labels_guard {n : Nat} {g : GuardId} {guard : Guard} (found : (h.state n).ledger.guards.find? g = some guard) :
    h.labels.guard g = some guard.key.key := by
  have blank (g : GuardId) : (h.start.ledger.guards.find? g).map (·.key.key) = none := by
    rw [Client.build_ok h.built]
    rfl
  exact Client.numbers_guards.first?_eq blank (congrArg (Option.map (·.key.key)) found)

theorem labels_waiting {n : Nat} {i : CallId} {q : QueryId} {key : CheckKey} {purpose : Purpose}
    (waiting : (h.state n).phase? i = some (.waiting q key purpose)) :
    h.labels.call i = some key ∧ h.labels.query q = some key := by
  obtain ⟨request, found⟩ := Client.phase?_some waiting
  cases h.story n found with
  | idle idle => cases idle
  | waiting awaits =>
    obtain ⟨own, l, _, _, _, _, status, present, _⟩ := awaits
    exact ⟨(h.labels_call found).trans own, h.labels_query present⟩

theorem Calls.came {h : ClientHistory App} {n : Nat} {i : CallId} {request : CallRequest} {m : Moment App}
    (called : h.Calls n i request m) : ∃ phase, (h.state (n + 1)).calls.find? i = some ⟨request, phase⟩ := by
  obtain ⟨happened, rfl⟩ := called
  rw [state_succ happened]
  exact (h.state n).start_request request m

/-- The call that hears something is one for the key that it hears of. -/
theorem labels_hears {n : Nat} {e : ClientEvent App} {x : Hearing App} (happened : h.events[n]? = some e)
    (hears : (h.state n).hears? e = some x) : h.labels.call x.call = some x.key := by
  rcases Client.hears?_cases hears with ⟨request, rfl, number, need, _⟩ | ⟨_, _, waiting, _⟩
  · have called : h.Calls n x.call request x.moment := ⟨happened, number⟩
    obtain ⟨_, came⟩ := called.came
    rw [← Client.need?_key need]
    exact h.labels_call came
  · exact (h.labels_waiting waiting).1

/-- The guard that a call has been given was one of the ledger when the call was given it. -/
theorem labels_given {n : Nat} {e : ClientEvent App} (happened : h.events[n]? = some e) {i : CallId} {g : GuardId}
    {k : SlotKey} (before : (h.state n).phase? i ≠ some (.finished (.ok (.slot (.acquired g k)))))
    (after : (h.state (n + 1)).phase? i = some (.finished (.ok (.slot (.acquired g k))))) :
    h.labels.call i = some k.key ∧ h.labels.guard g = some k.key := by
  have moved := state_succ happened
  obtain ⟨key, s, _, _, hears, rfl, _⟩ := Client.step_acquired before (moved ▸ after)
  obtain ⟨guard, found, same⟩ := Client.acquired_guard hears (moved ▸ after)
  refine ⟨h.labels_hears happened hears, ?_⟩
  rw [← same]
  exact h.labels_guard (moved ▸ found)

theorem labels_holding {n : Nat} {i : CallId} {g : GuardId} {k : SlotKey}
    (holding : (h.state n).phase? i = some (.finished (.ok (.slot (.acquired g k))))) :
    h.labels.call i = some k.key ∧ h.labels.guard g = some k.key := by
  have new : h.start.phase? i ≠ some (.finished (.ok (.slot (.acquired g k)))) := by
    rw [Client.phase?, h.start_blank.2.1]
    exact (Option.some_ne_none _).symm
  obtain ⟨_, _, labelled⟩ := came_about
    (P := fun c : Client App => c.phase? i = some (.finished (.ok (.slot (.acquired g k)))))
    (Q := fun _ => h.labels.call i = some k.key ∧ h.labels.guard g = some k.key) new holding
    fun m e happened after => or_iff_not_imp_left.mpr fun before => h.labels_given happened before after
  exact labelled

theorem labels_fit (n : Nat) : h.labels.Fits (h.state n) where
  query _ _ found := h.labels_query found
  guard _ _ found := h.labels_guard found
  call _ _ found := h.labels_call found
  flight key q flown := by
    obtain ⟨_, found, _⟩ := (h.sound n).flown key q flown
    exact h.labels_query found
  waiting _ _ _ _ := h.labels_waiting
  holding _ _ _ := h.labels_holding

end ClientHistory

end Entitlement
