import Entitlement.Proofs.Cache
import Entitlement.Proofs.Client.Calls
import Entitlement.Proofs.Client.SingleFlight

/-!
Where the snapshots come from that calls decide on. What the cache holds for a key is the latest answer that
the authority gave for it, and the key has not been forgotten since (`stored`); what a call gets from a query
was answered after the call had come (`answered_between`). So whatever a call decides on is an answer for
its own key, one that came while it waited or the latest one, still fresh (`decision_provenance`).
-/

namespace Entitlement

namespace Client

variable {App : Type} {c : Client App}

/-- No event changes the lifetime that is used where the authority suggests none. -/
theorem Learns.defaultTtl {e : ClientEvent App} {k : Knowledge} (learns : Learns c e k) :
    k.cache.defaultTtl = c.cache.defaultTtl := by
  cases learns with
  | @answered q key reply now =>
    cases reply with
    | error => rfl
    | ok =>
      simp only [cacheAfter]
      split <;> rfl
  | _ => rfl

/-- A closed client keeps nothing, but nothing is asked of the authority after it was closed either. -/
theorem cacheAfter_granted (sound : c.knowledge.Sound) {q : QueryId} {key : CheckKey}
    (asked : c.queries.find? q = some ⟨key, .asked⟩) (grant : Grant) (now : Instant) :
    c.cacheAfter key (.ok grant) now =
      c.cache.put key grant.snapshot (c.cache.effectiveTtl grant.cacheTtl) now := by
  have opened : c.closed = false := sound.opened (sound.pending q key .asked asked rfl)
  simp only [cacheAfter, opened]
  rfl

/-- What is in the cache was there before, and the event has neither forgotten nor replaced it; or the event
is the answer that has put it there. -/
theorem Learns.cached {e : ClientEvent App} {k : Knowledge} (learns : Learns c e k)
    (sound : c.knowledge.Sound) {key : CheckKey} {entry : CacheEntry Snapshot}
    (found : k.cache.entries.find? key = some entry) :
    (c.cache.entries.find? key = some entry ∧ e ≠ .invalidate key ∧ e ≠ .clearCache ∧
      ∀ q grant now, e = .queryReply q (.ok grant) now → c.queries.find? q ≠ some ⟨key, .asked⟩) ∨
    ∃ q grant now, e = .queryReply q (.ok grant) now ∧ c.queries.find? q = some ⟨key, .asked⟩ ∧
      entry = .storedAt grant.snapshot (c.cache.effectiveTtl grant.cacheTtl) now := by
  cases learns with
  | begun | asked | panicked | abandoned => exact Or.inl ⟨found, by simp, by simp, by simp⟩
  | cleared | closed => cases found
  | unmoved why =>
    refine Or.inl ⟨found, ?_, ?_, ?_⟩
    · rintro rfl
      cases why with
      | aside aside => exact aside
    · rintro rfl
      cases why with
      | aside aside => exact aside
    · rintro q grant now rfl
      cases why with
      | aside aside => exact aside.elim
      | reply unfit => exact unfit key
  | invalidated key' =>
    rw [Cache.find?_invalidate] at found
    split at found
    · cases found
    · next other =>
      refine Or.inl ⟨found, ?_, by simp, by simp⟩
      intro same
      cases same
      exact other rfl
  | @answered q key' reply now asked =>
    cases reply with
    | error e =>
      refine Or.inl ⟨found, by simp, by simp, ?_⟩
      intro _ _ _ same
      cases same
    | ok grant =>
      simp only [cacheAfter_granted sound asked, Cache.find?_put] at found
      split at found
      · next same =>
        subst same
        exact Or.inr ⟨q, grant, now, rfl, asked, (Option.some.inj found).symm⟩
      · next other =>
        refine Or.inl ⟨found, by simp, by simp, ?_⟩
        intro q' grant' now' same present
        cases same
        cases Option.some.inj (asked.symm.trans present)
        exact other rfl

theorem Turns.granted {e : ClientEvent App} {q : QueryId} {key : CheckKey} {s : Snapshot}
    (turn : Turns c q key e (.answered (.ok s))) :
    ∃ grant now, e = .queryReply q (.ok grant) now ∧ c.queries.find? q = some ⟨key, .asked⟩ ∧
      grant.snapshot = s := by
  generalize status_eq : QueryStatus.answered (.ok s) = status at turn
  cases turn with
  | answered reply now asked =>
    cases reply with
    | error => cases QueryStatus.answered.inj status_eq
    | ok grant =>
      have same := Except.ok.inj (QueryStatus.answered.inj status_eq)
      exact ⟨grant, now, rfl, asked, same.symm⟩
  | _ => cases status_eq

end Client

namespace ClientHistory
open History

variable {App : Type} {h : ClientHistory App}

/-- In the `n`th event the client takes in the authority's answer to the query `q` for `key`, a grant. -/
def Answers (h : ClientHistory App) (n : Nat) (q : QueryId) (key : CheckKey) (grant : Grant)
    (now : Instant) : Prop :=
  h.events[n]? = some (.queryReply q (.ok grant) now) ∧
    (h.state n).queries.find? q = some ⟨key, .asked⟩

/-- In the `n`th event the client is told to forget what it knows of `key`. -/
def Forgets (h : ClientHistory App) (n : Nat) (key : CheckKey) : Prop :=
  h.events[n]? = some (.invalidate key) ∨ h.events[n]? = some .clearCache

/-- How long a snapshot may be used: as long as the authority suggests, or as configured where it suggests
nothing or no time at all. -/
def lifetime (h : ClientHistory App) (grant : Grant) : Duration :=
  match grant.cacheTtl with
  | some ttl => if ttl.isZero then h.config.cacheTtl else ttl
  | none => h.config.cacheTtl

theorem defaultTtl (h : ClientHistory App) (n : Nat) : (h.state n).cache.defaultTtl = h.config.cacheTtl := by
  refine h.invariant (P := fun c : Client App => c.cache.defaultTtl = h.config.cacheTtl) ?_ ?_ n
  · rw [h.start_blank.2.2]
    rfl
  · intro k e _ before
    exact ((h.state k).step_learns e).defaultTtl.trans before

theorem effectiveTtl (h : ClientHistory App) (n : Nat) (grant : Grant) :
    (h.state n).cache.effectiveTtl grant.cacheTtl = h.lifetime grant := by
  simp only [Cache.effectiveTtl, h.defaultTtl, lifetime]
  cases grant.cacheTtl with
  | none => rfl
  | some ttl => cases zero : ttl.isZero <;> simp [Option.filter, zero]

/-- What the cache holds for a key is the latest answer for it, and the key has not been forgotten since. -/
theorem stored (h : ClientHistory App) (n : Nat) {key : CheckKey} {entry : CacheEntry Snapshot}
    (found : (h.state n).cache.entries.find? key = some entry) :
    ∃ m < n, ∃ q grant now, h.Answers m q key grant now ∧
      entry = .storedAt grant.snapshot (h.lifetime grant) now ∧
      ∀ j, m < j → j < n → ¬ h.Forgets j key ∧ ∀ q' grant' now', ¬ h.Answers j q' key grant' now' := by
  have brought (k : Nat) (e : ClientEvent App) (happened : h.events[k]? = some e)
      (found : (h.state (k + 1)).cache.entries.find? key = some entry) :
      ((h.state k).cache.entries.find? key = some entry ∧
        (¬ h.Forgets k key ∧ ∀ q grant now, ¬ h.Answers k q key grant now)) ∨
      ∃ q grant now, h.Answers k q key grant now ∧
        entry = .storedAt grant.snapshot (h.lifetime grant) now := by
    rcases (learns happened).cached (h.sound k) found with
      ⟨before, kept, uncleared, last⟩ | ⟨q, grant, now, rfl, asked, same⟩
    · refine Or.inl ⟨before, ?_, ?_⟩
      · rintro (told | told)
        · exact kept (Option.some.inj (happened.symm.trans told))
        · exact uncleared (Option.some.inj (happened.symm.trans told))
      · rintro q grant now ⟨told, asked⟩
        exact last q grant now (Option.some.inj (happened.symm.trans told)) asked
    · rw [h.effectiveTtl] at same
      exact Or.inr ⟨q, grant, now, ⟨happened, asked⟩, same⟩
  have silent (k : Nat) (finished : h.events[k]? = none) :
      ¬ h.Forgets k key ∧ ∀ q grant now, ¬ h.Answers k q key grant now := by
    constructor
    · rintro (told | told) <;> cases finished.symm.trans told
    · rintro q grant now ⟨told, _⟩
      cases finished.symm.trans told
  have blank : h.start.cache.entries.find? key ≠ some entry := by
    rw [h.start_blank.2.2]
    exact nofun
  obtain ⟨m, _, sooner, ⟨q, grant, now, answers, same⟩, since⟩ :=
    came_between (P := fun c : Client App => c.cache.entries.find? key = some entry) (Nat.zero_le n) blank found brought
      silent
  exact ⟨m, sooner, q, grant, now, answers, same, since⟩

/-! ### Answers to queries -/

theorem Answers.cached {n : Nat} {q : QueryId} {key : CheckKey} {grant : Grant} {now : Instant}
    (answers : h.Answers n q key grant now) :
    (h.state (n + 1)).cache.entries.find? key = some (.storedAt grant.snapshot (h.lifetime grant) now) := by
  obtain ⟨happened, asked⟩ := answers
  have learns := learns happened
  generalize known : (h.state (n + 1)).knowledge = k at learns
  have cache : (h.state (n + 1)).cache = k.cache := congrArg Knowledge.cache known
  rw [cache]
  cases learns with
  | unmoved why =>
    cases why with
    | aside aside => exact aside.elim
    | reply unfit => exact (unfit key asked).elim
  | answered asked' =>
    cases Option.some.inj (asked.symm.trans asked')
    simp only [Client.cacheAfter_granted (h.sound n) asked, Cache.find?_put, ↓reduceIte, h.effectiveTtl]

theorem asked_before (h : ClientHistory App) (n : Nat) {q : QueryId} {key : CheckKey}
    (asked : (h.state n).queries.find? q = some ⟨key, .asked⟩) : ∃ m < n, h.Asks m q key := by
  refine came_about (P := fun c : Client App => c.queries.find? q = some ⟨key, .asked⟩) ?_ asked ?_
  · rw [h.start_blank.1]
    exact nofun
  · intro k e happened present
    refine ((learns happened).turns present).imp_right fun turn => ?_
    cases turn with
    | asked queued => exact ⟨happened, queued⟩

theorem answered_since {l n : Nat} (later : l ≤ n) {q : QueryId} {key : CheckKey} {s : Snapshot}
    (unanswered : (h.state l).queries.find? q ≠ some ⟨key, .answered (.ok s)⟩)
    (answered : (h.state n).queries.find? q = some ⟨key, .answered (.ok s)⟩) :
    ∃ m, l ≤ m ∧ m < n ∧ ∃ grant now, h.Answers m q key grant now ∧ grant.snapshot = s := by
  have brought (k : Nat) (e : ClientEvent App) (happened : h.events[k]? = some e)
      (present : (h.state (k + 1)).queries.find? q = some ⟨key, .answered (.ok s)⟩) :
      ((h.state k).queries.find? q = some ⟨key, .answered (.ok s)⟩ ∧ True) ∨
        ∃ grant now, h.Answers k q key grant now ∧ grant.snapshot = s := by
    rcases (learns happened).turns present with before | turn
    · exact Or.inl ⟨before, trivial⟩
    · obtain ⟨grant, now, rfl, asked, same⟩ := turn.granted
      exact Or.inr ⟨grant, now, ⟨happened, asked⟩, same⟩
  obtain ⟨m, after, sooner, answers, _⟩ :=
    came_between (P := fun c : Client App => c.queries.find? q = some ⟨key, .answered (.ok s)⟩) later
      unanswered answered brought (fun _ _ => trivial)
  exact ⟨m, after, sooner, answers⟩

/-- A query that had not ended and has been answered by now was answered in between. -/
theorem answered_between {l n : Nat} (later : l ≤ n) {q : QueryId} {key : CheckKey} {status : QueryStatus}
    {s : Snapshot} (found : (h.state l).queries.find? q = some ⟨key, status⟩)
    (running : status.isFinished = false)
    (answered : (h.state n).queries.find? q = some ⟨key, .answered (.ok s)⟩) :
    ∃ m, l ≤ m ∧ m < n ∧ ∃ grant now, h.Answers m q key grant now ∧ grant.snapshot = s := by
  refine answered_since later ?_ answered
  intro present
  cases Option.some.inj (found.symm.trans present)
  cases running

theorem answered_before (h : ClientHistory App) (n : Nat) {q : QueryId} {key : CheckKey} {s : Snapshot}
    (answered : (h.state n).queries.find? q = some ⟨key, .answered (.ok s)⟩) :
    ∃ m < n, ∃ grant now, h.Answers m q key grant now ∧ grant.snapshot = s := by
  have unanswered : (h.state 0).queries.find? q ≠ some ⟨key, .answered (.ok s)⟩ := by
    rw [state_zero, h.start_blank.1]
    exact nofun
  obtain ⟨m, _, sooner, answers⟩ := answered_since (Nat.zero_le n) unanswered answered
  exact ⟨m, sooner, answers⟩

end ClientHistory

end Entitlement
