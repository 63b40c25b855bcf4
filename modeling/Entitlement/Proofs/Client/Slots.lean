import Entitlement.Proofs.Client.Closing
import Entitlement.Proofs.Ledger.Limit

/-!
The slots of a client. An event does to the ledger what `slots?` says and nothing else (`step_ledger`); a slot is taken
by a call that hears a snapshot, in the event in which it hears it (`takesSlot_iff`). Closing clears the ledger, and
calls that come later take nothing. A call that waits for a slot when the client is closed, and whose query has been
answered by then, goes on all the same and may take one (`closed_slots`).
-/

namespace Entitlement

/-- What a call does with the ledger that goes on with the result of its check. -/
def slotRequest? (k : SlotKey) : Purpose → Except ClientError Snapshot → Option SlotEvent
  | .slot, .ok s => some (.acquire s k)
  | _, _ => none

theorem slotRequest?_acquire {k k' : SlotKey} {purpose : Purpose} {result : Except ClientError Snapshot} {s : Snapshot}
    (asks : slotRequest? k purpose result = some (.acquire s k')) : purpose = .slot ∧ result = .ok s ∧ k' = k := by
  cases purpose with
  | slot =>
    cases result with
    | ok s' =>
      cases asks
      exact ⟨rfl, rfl, rfl⟩
    | error => cases asks
  | _ => cases asks

namespace Client

variable {App : Type} {c : Client App}

def slots? (c : Client App) : ClientEvent App → Option SlotEvent
  | .releaseSlot g => some (.release g)
  | .dropSlot g => some (.drop g)
  | .cancel i => ((c.phase? i).bind Phase.guard?).map .drop
  | .close => if c.closed then none else some .clear
  | e => (c.hears? e).bind fun x => slotRequest? (c.slotKey x.key) x.purpose x.result

def afterSlots (l : Ledger) (e : Option SlotEvent) : Ledger := e.elim l l.stepSlots

theorem proceed_ledger (c : Client App) (key : CheckKey) (purpose : Purpose) (result : Except ClientError Snapshot)
    (m : Moment App) :
    (c.proceed key purpose result m).2.ledger = afterSlots c.ledger (slotRequest? (c.slotKey key) purpose result) := by
  cases result with
  | error e => cases purpose <;> rfl
  | ok s =>
    cases purpose with
    | consume amount =>
      simp only [proceed, decide]
      split
      · rfl
      · cases reported : c.sendReport key amount m with
        | error e => rfl
        | ok t =>
          obtain ⟨_, _, rfl⟩ := sendReport_ok reported
          rfl
    | _ => rfl

theorem start_ledger (c : Client App) (request : CallRequest) (m : Moment App) :
    (c.start request m).ledger = afterSlots c.ledger (c.slots? (.call request m)) := by
  obtain ⟨phase, after, entered, same⟩ := c.start_entered request m
  have kept : (c.start request m).ledger = after.ledger := by rw [same]
  rw [kept]
  cases need : c.need? request m with
  | none =>
    have unheard : c.hears? (.call request m) = none := by rw [hears?, need, Option.bind_none]
    simp only [slots?, unheard, Option.bind_none]
    cases entered with
    | idle => rfl
    | hit _ need' | told _ need' | joined _ need' | begun _ need' => cases need.symm.trans need'
  | some needed =>
    obtain ⟨key, purpose⟩ := needed
    rcases entered.heard need with ⟨window, result, heard, _, rfl⟩ | ⟨unheard, _, _, idle⟩
    · simp only [slots?, hears?_call need heard, Option.bind_some]
      exact proceed_ledger ..
    · simp only [slots?, hears?, need, unheard, Option.bind_some, Option.map_none, Option.bind_none]
      exact idle

theorem resume_ledger (c : Client App) (i : CallId) (m : Moment App) :
    (c.resume i m).ledger = afterSlots c.ledger (c.slots? (.resume i m)) := by
  cases phase : c.phase? i with
  | none =>
    simp only [slots?, hears?, resume, phase]
    rfl
  | some waiting =>
    cases waiting with
    | waiting q key purpose =>
      cases ended : (c.queryStatus? q).bind QueryStatus.result? with
      | some result =>
        simp only [slots?, hears?, resume, phase, ended]
        exact c.proceed_ledger key purpose result m
      | none =>
        simp only [slots?, hears?, resume, phase, ended]
        rfl
    | _ =>
      simp only [slots?, hears?, resume, phase]
      rfl

/-- An event does to the ledger what `slots?` says. -/
theorem step_ledger (c : Client App) (e : ClientEvent App) :
    (c.step e).ledger = afterSlots c.ledger (c.slots? e) := by
  cases e with
  | call request m => exact c.start_ledger request m
  | resume i m => exact c.resume_ledger i m
  | releaseSlot g | dropSlot g => rfl
  | cancel i =>
    simp only [step, cancel, slots?]
    cases (c.phase? i).bind Phase.guard? <;> rfl
  | close =>
    simp only [step, close, slots?]
    split <;> rfl
  | take i => simp only [step, take]; split <;> rfl
  | ask q => simp only [step, ask]; split <;> rfl
  | queryReply q reply now =>
    simp only [step, queryReplied]
    split
    · next key _ =>
      obtain ⟨_, same⟩ := land_frame _ key q
      rw [same]
      rfl
    · rfl
  | queryPanic q message => simp only [step, queryPanicked]; split <;> rfl
  | reportReply i reply => simp only [step, reportReplied]; split <;> rfl
  | registerReply i reply now =>
    simp only [step, registerReplied]
    split
    · cases reply <;> rfl
    · rfl
  | registerProviders p =>
    simp only [step, registerProviders]
    split
    · rfl
    · cases c.providers.register p <;> rfl
  | heartbeatTick now => simp only [step, heartbeatTick]; split <;> rfl
  | _ => rfl

theorem slots?_acquire {e : ClientEvent App} {s : Snapshot} {k : SlotKey} (asks : c.slots? e = some (.acquire s k)) :
    ∃ i key m, c.hears? e = some ⟨i, key, .slot, .ok s, m⟩ ∧ k = c.slotKey key := by
  have heard (asks : ((c.hears? e).bind fun x => slotRequest? (c.slotKey x.key) x.purpose x.result) =
      some (.acquire s k)) : ∃ i key m, c.hears? e = some ⟨i, key, .slot, .ok s, m⟩ ∧ k = c.slotKey key := by
    obtain ⟨⟨i, key, purpose, result, m⟩, hears, request⟩ := Option.bind_eq_some_iff.mp asks
    obtain ⟨rfl, rfl, same⟩ := slotRequest?_acquire request
    exact ⟨i, key, m, hears, same⟩
  cases e with
  | releaseSlot | dropSlot => cases asks
  | cancel i =>
    obtain ⟨_, _, same⟩ := Option.map_eq_some_iff.mp asks
    cases same
  | close => simp [slots?] at asks
  | _ => exact heard asks

/-- More slots are in use only when a call has heard a snapshot that grants it one. -/
theorem slots_rise {e : ClientEvent App} {key : CheckKey} (more : ¬ (c.step e).slotsInUse key ≤ c.slotsInUse key) :
    ∃ i s m max, c.hears? e = some ⟨i, key, .slot, .ok s, m⟩ ∧ s.concurrencyLimit = some max ∧
      c.slotsInUse key < max := by
  have own : (c.step e).slotKey key = c.slotKey key := by rw [slotKey, (c.step_numbered e).1, slotKey]
  rw [slotsInUse, own, c.step_ledger e] at more
  cases asks : c.slots? e with
  | none =>
    rw [asks] at more
    exact (more (UInt64.le_refl _)).elim
  | some slot =>
    rw [asks] at more
    rcases c.ledger.inUse_stepSlots slot (c.slotKey key) with fewer | ⟨s, _, rfl, _, _⟩
    · exact (more fewer).elim
    · obtain ⟨i, key', m, hears, same⟩ := slots?_acquire asks
      cases (SlotKey.mk.inj same).2
      rcases s.acquireSlot_cases c.ledger (c.slotKey key) with ⟨max, _, _, limit, taken, _⟩ | ⟨_, _, denied⟩
      · exact ⟨i, s, m, max, hears, limit, (Ledger.tryAcquire_ok taken).1⟩
      · refine (more ?_).elim
        rw [afterSlots, Option.elim_some, Ledger.stepSlots, denied]
        exact UInt64.le_refl _

/-! ### Who takes a slot -/

theorem proceed_acquired {key : CheckKey} {purpose : Purpose} {result : Except ClientError Snapshot} {m : Moment App}
    {g : GuardId} {k : SlotKey}
    (taken : (c.proceed key purpose result m).1 = .finished (.ok (.slot (.acquired g k)))) :
    k = c.slotKey key ∧ purpose = .slot ∧ ∃ s max, result = .ok s ∧ s.concurrencyLimit = some max ∧
      c.slotsInUse key < max := by
  have settled := c.proceed_settled key purpose result m
  generalize phase_eq : (c.proceed key purpose result m).1 = phase at settled
  cases settled with
  | slot s =>
    have granted : (s.acquireSlot c.ledger (c.slotKey key)).1 = .acquired g k := by
      simpa only [proceed, decide, Phase.finished.injEq, Except.ok.injEq, CallValue.slot.injEq] using taken
    rcases s.acquireSlot_cases c.ledger (c.slotKey key) with ⟨max, _, _, limit, free, same⟩ | ⟨_, _, denied⟩
    · rw [same] at granted
      cases granted
      exact ⟨rfl, rfl, s, max, rfl, limit, (Ledger.tryAcquire_ok free).1⟩
    · rw [denied] at granted
      cases granted
  | _ => cases taken.symm.trans phase_eq

theorem Entered.acquired {request : CallRequest} {m : Moment App} {phase : Phase} {after : Client App} {g : GuardId}
    {k : SlotKey} (entered : Entered c request m phase after)
    (taken : phase = .finished (.ok (.slot (.acquired g k)))) :
    ∃ key s max, c.need? request m = some (key, .slot) ∧ c.heard? key m.now = some (.ok s) ∧ k = c.slotKey key ∧
      s.concurrencyLimit = some max ∧ c.slotsInUse key < max := by
  cases entered with
  | idle _ _ idle =>
    subst taken
    cases idle
  | hit _ need fresh =>
    obtain ⟨same, slot, s, max, told, limit, free⟩ := proceed_acquired taken
    subst slot
    exact ⟨_, s, max, need, by rw [heard?, fresh, Except.ok.inj told], same, limit, free⟩
  | told _ need stale flying ended =>
    obtain ⟨same, slot, s, max, told, limit, free⟩ := proceed_acquired taken
    subst slot told
    exact ⟨_, s, max, need, by rw [heard?, stale, flying, Option.bind_some, ended], same, limit, free⟩
  | joined | begun => cases taken

theorem step_acquired {e : ClientEvent App} {i : CallId} {g : GuardId} {k : SlotKey}
    (before : c.phase? i ≠ some (.finished (.ok (.slot (.acquired g k)))))
    (after : (c.step e).phase? i = some (.finished (.ok (.slot (.acquired g k))))) :
    ∃ key s m max, c.hears? e = some ⟨i, key, .slot, .ok s, m⟩ ∧ k = c.slotKey key ∧
      s.concurrencyLimit = some max ∧ c.slotsInUse key < max := by
  obtain ⟨request, found⟩ := phase?_some after
  have goes := step_goes found
  generalize call_eq : (⟨request, .finished (.ok (.slot (.acquired g k)))⟩ : Call) = call at goes
  cases goes with
  | stays there =>
    subst call_eq
    exact (before (congrArg (Option.map Call.phase) there)).elim
  | @comes _ m phase _ new entered =>
    obtain ⟨key, s, max, need, heard, same, limit, free⟩ := entered.acquired (congrArg Call.phase call_eq).symm
    exact ⟨key, s, m, max, new ▸ hears?_call need heard, same, limit, free⟩
  | @resumes _ q key purpose result m waited ended =>
    obtain ⟨rfl, rfl, s, max, rfl, limit, free⟩ := proceed_acquired (congrArg Call.phase call_eq).symm
    have waiting : c.phase? i = some (.waiting q key .slot) := congrArg (Option.map Call.phase) waited
    exact ⟨key, s, m, max, hears?_resume waiting ended m, rfl, limit, free⟩
  | @reported _ outcome reply => cases outcome <;> cases reply <;> cases congrArg Call.phase call_eq
  | registered reply => cases reply <;> cases congrArg Call.phase call_eq

theorem hears_acquired {e : ClientEvent App} {i : CallId} {key : CheckKey} {s : Snapshot} {m : Moment App}
    {max : UInt64} (hears : c.hears? e = some ⟨i, key, .slot, .ok s, m⟩) (limit : s.concurrencyLimit = some max)
    (free : c.slotsInUse key < max) :
    ∃ g, (c.step e).phase? i = some (.finished (.ok (.slot (.acquired g (c.slotKey key))))) := by
  obtain ⟨_, window, _, phase⟩ := step_hears hears
  rcases s.acquireSlot_cases c.ledger (c.slotKey key) with ⟨_, g, _, _, _, granted⟩ | ⟨_, full, _⟩
  · have goes : ({ c with window }.proceed key .slot (.ok s) m).1 =
        .finished (.ok (.slot (s.acquireSlot c.ledger (c.slotKey key)).1)) := rfl
    exact ⟨g, by rw [phase, goes, granted]⟩
  · exact (full max limit free).elim

end Client

namespace ClientHistory
open History

variable {App : Type} {h : ClientHistory App}

/-- In the `n`th event the call `i` gets a slot under `key`. -/
def TakesSlot (h : ClientHistory App) (n : Nat) (i : CallId) (key : CheckKey) : Prop :=
  ∃ g, (h.state (n + 1)).phase? i = some (.finished (.ok (.slot (.acquired g ((h.state n).slotKey key))))) ∧
    (h.state n).phase? i ≠ some (.finished (.ok (.slot (.acquired g ((h.state n).slotKey key)))))

/-- After `n` events the call `i` waits for a slot under `key`, and its query has been answered with `s`. -/
def Lingers (h : ClientHistory App) (n : Nat) (i : CallId) (key : CheckKey) (s : Snapshot) : Prop :=
  ∃ q, (h.state n).phase? i = some (.waiting q key .slot) ∧ (h.state n).outcome? q = some (.ok s)

theorem takesSlot_iff {n : Nat} {i : CallId} {key : CheckKey} :
    h.TakesSlot n i key ↔ ∃ e s m max, h.events[n]? = some e ∧
      (h.state n).hears? e = some ⟨i, key, .slot, .ok s, m⟩ ∧ s.concurrencyLimit = some max ∧
      (h.state n).slotsInUse key < max := by
  constructor
  · rintro ⟨g, after, before⟩
    rcases h.next n with ⟨e, happened, moved⟩ | ⟨_, same⟩
    · rw [moved] at after
      obtain ⟨key', s, m, max, hears, own, limit, free⟩ := Client.step_acquired before after
      cases (SlotKey.mk.inj own).2
      exact ⟨e, s, m, max, happened, hears, limit, free⟩
    · rw [same] at after
      exact (before after).elim
  · rintro ⟨e, s, m, max, happened, hears, limit, free⟩
    obtain ⟨g, after⟩ := Client.hears_acquired hears limit free
    refine ⟨g, (state_succ happened).symm ▸ after, ?_⟩
    intro had
    rcases Client.hears?_cases hears with ⟨_, _, new, _⟩ | ⟨_, _, waiting, _⟩
    · exact Nat.ne_of_lt (phase?_lt had) new
    · cases had.symm.trans waiting

theorem Lingers.before {n k : Nat} (closing : h.events[n]? = some .close) (later : n < k) {i : CallId}
    {key : CheckKey} {s : Snapshot} (lingers : h.Lingers k i key s) : h.Lingers n i key s := by
  obtain ⟨q, waiting, answered⟩ := lingers
  have waiting' := late_waiting closing later waiting
  refine ⟨q, waiting', ?_⟩
  cases outcome : (h.state n).outcome? q with
  | none =>
    obtain ⟨_, aborted⟩ := close_aborts closing waiting' outcome
    cases outcome_unique aborted answered
  | some result => rw [outcome_unique outcome answered]

/-- After the client was closed, those take slots that have lingered. -/
theorem late_takesSlot {n k : Nat} (closing : h.events[n]? = some .close) (later : n < k) {i : CallId}
    {key : CheckKey} :
    h.TakesSlot k i key ↔ ∃ s m max, h.Lingers n i key s ∧ h.Lingers k i key s ∧ h.events[k]? = some (.resume i m) ∧
      s.concurrencyLimit = some max ∧ (h.state k).slotsInUse key < max := by
  rw [takesSlot_iff]
  constructor
  · rintro ⟨e, s, m, max, happened, hears, limit, free⟩
    rcases Client.hears?_cases hears with ⟨_, _, _, need, _⟩ | ⟨q, rfl, waiting, ended⟩
    · cases (Client.need?_open need).symm.trans (closed_since closing later)
    · have lingers : h.Lingers k i key s := ⟨q, waiting, ended⟩
      exact ⟨s, m, max, lingers.before closing later, lingers, happened, limit, free⟩
  · rintro ⟨s, m, max, _, ⟨q, waiting, ended⟩, happened, limit, free⟩
    exact ⟨_, s, m, max, happened, Client.hears?_resume waiting ended m, limit, free⟩

theorem slots_cleared {n : Nat} (closing : h.events[n]? = some .close) (opened : (h.state n).closed = false)
    (key : CheckKey) : (h.state (n + 1)).slotsInUse key = 0 := by
  rw [state_succ closing, Client.step, Client.close, opened, if_neg Bool.false_ne_true]
  rfl

theorem late_slots {n k : Nat} (closing : h.events[n]? = some .close) (opened : (h.state n).closed = false)
    (later : n < k) {key : CheckKey} (taken : (h.state k).slotsInUse key ≠ 0) :
    ∃ j, n < j ∧ j < k ∧ ∃ i, h.TakesSlot j i key := by
  have cleared := slots_cleared closing opened key
  have brought (j : Nat) (e : ClientEvent App) (happened : h.events[j]? = some e)
      (taken : (h.state (j + 1)).slotsInUse key ≠ 0) :
      ((h.state j).slotsInUse key ≠ 0 ∧ True) ∨ ∃ i, h.TakesSlot j i key := by
    by_cases free : (h.state j).slotsInUse key = 0
    · have more : ¬ ((h.state j).step e).slotsInUse key ≤ (h.state j).slotsInUse key := by
        rw [free, ← state_succ happened]
        intro none_taken
        exact taken (UInt64.le_antisymm none_taken (UInt64.le_iff_toNat_le.mpr (Nat.zero_le _)))
      obtain ⟨i, s, m, max, hears, limit, free⟩ := Client.slots_rise more
      exact Or.inr ⟨i, takesSlot_iff.mpr ⟨e, s, m, max, happened, hears, limit, free⟩⟩
    · exact Or.inl ⟨free, trivial⟩
  obtain ⟨j, after, before, takes, _⟩ :=
    came_between (P := fun c : Client App => c.slotsInUse key ≠ 0) (Nat.succ_le_of_lt later)
      (fun taken => taken cleared) taken brought (fun _ _ => trivial)
  exact ⟨j, after, before, takes⟩

/-- Closing frees all slots, and none is taken after it but by a call whose query had been answered with a snapshot by
then. -/
theorem closed_slots (h : ClientHistory App) {n : Nat} (closing : h.events[n]? = some .close)
    (opened : (h.state n).closed = false) :
    (∀ key, (h.state (n + 1)).slotsInUse key = 0) ∧
    (∀ k, n < k → ∀ i key, h.TakesSlot k i key ↔
      ∃ s m max, h.Lingers n i key s ∧ h.Lingers k i key s ∧ h.events[k]? = some (.resume i m) ∧
        s.concurrencyLimit = some max ∧ (h.state k).slotsInUse key < max) ∧
    (∀ k, n < k → ∀ key, (h.state k).slotsInUse key ≠ 0 → ∃ j, n < j ∧ j < k ∧ ∃ i, h.TakesSlot j i key) ∧
    ((∀ i key s, ¬ h.Lingers n i key s) →
      ∀ k, n < k → (∀ i key, ¬ h.TakesSlot k i key) ∧ ∀ key, (h.state k).slotsInUse key = 0) := by
  refine ⟨slots_cleared closing opened, fun k later i key => late_takesSlot closing later,
    fun k later key => late_slots closing opened later, ?_⟩
  intro nobody k later
  have untaken (k : Nat) (later : n < k) (i : CallId) (key : CheckKey) : ¬ h.TakesSlot k i key := by
    intro takes
    obtain ⟨s, _, _, lingers, _⟩ := (late_takesSlot closing later).mp takes
    exact nobody i key s lingers
  refine ⟨untaken k later, ?_⟩
  intro key
  by_contra taken
  obtain ⟨j, after, _, i, takes⟩ := late_slots closing opened later taken
  exact untaken j after i key takes

/-- The query of a call that waits for a slot has been answered when the client is closed, and the call goes on only
then. -/
def closedTooSoon : ClientHistory Unit :=
  ofEvents [.call (.acquire .product) (atSecond 0), .ask 0,
    .queryReply 0 (.ok ⟨SlotHistory.limitedTo 1, none⟩) (atSecond 1).now, .close, .resume 0 (atSecond 1),
    .call (.acquire .product) (atSecond 2)]

theorem closedTooSoon_slots :
    closedTooSoon.events[3]? = some .close ∧ (closedTooSoon.state 3).closed = false ∧
    closedTooSoon.Lingers 3 0 .product (SlotHistory.limitedTo 1) ∧
    (closedTooSoon.state 4).slotsInUse .product = 0 ∧
    closedTooSoon.TakesSlot 4 0 .product ∧ ¬ closedTooSoon.TakesSlot 5 1 .product := by
  have lingers : closedTooSoon.Lingers 3 0 .product (SlotHistory.limitedTo 1) := ⟨0, rfl, rfl⟩
  have lingers' : closedTooSoon.Lingers 4 0 .product (SlotHistory.limitedTo 1) := ⟨0, rfl, rfl⟩
  obtain ⟨cleared, takes, _, _⟩ := closed_slots closedTooSoon (n := 3) rfl rfl
  refine ⟨rfl, rfl, lingers, cleared _, ?_, ?_⟩
  · exact (takes 4 (by decide) 0 _).mpr ⟨_, _, 1, lingers, lingers', rfl, rfl, by decide⟩
  · intro late
    obtain ⟨_, _, _, ⟨q, waiting, _⟩, _⟩ := (takes 5 (by decide) 1 _).mp late
    cases waiting

/-- A closed client with a slot in use. -/
theorem closedTooSoon_slot_in_use :
    closedTooSoon.events[3]? = some .close ∧ (closedTooSoon.state 5).closed = true ∧
    closedTooSoon.TakesSlot 4 0 .product ∧ (closedTooSoon.state 6).slotsInUse .product = 1 :=
  ⟨rfl, rfl, ⟨0, rfl, nofun⟩, rfl⟩

end ClientHistory

end Entitlement
