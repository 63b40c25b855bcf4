import Entitlement.Proofs.Client.History
import Entitlement.Proofs.Client.Knowledge

/-!
Queries and their flights. `Knowledge.Sound` ties the two together: a query that has not ended is the one
in flight for its key, and what is in flight has not ended or has broken down. What a client knows is sound
in every state of a history (`ClientHistory.sound`); a query keeps its key and, once it has ended, its
result.
-/

namespace Entitlement

namespace QueryStatus

theorem isFinished_abort (s : QueryStatus) : s.abort.isFinished = true := by
  unfold abort
  split
  · assumption
  · rfl

theorem abort_of_isFinished {s : QueryStatus} (ended : s.isFinished = true) : s.abort = s := by
  simp [abort, ended]

theorem abort_ne_queued (s : QueryStatus) : s.abort ≠ .queued := by
  intro same
  have ended := s.isFinished_abort
  rw [same] at ended
  cases ended

theorem result?_ok {status : QueryStatus} {s : Snapshot} (ended : status.result? = some (.ok s)) :
    status = .answered (.ok s) := by
  cases status with
  | answered result => exact congrArg answered (Option.some.inj ended)
  | panicked message => cases Option.some.inj ended
  | aborted => cases Option.some.inj ended
  | _ => cases ended

end QueryStatus

namespace Knowledge

/-- The queries and the flights fit together. -/
structure Sound (k : Knowledge) : Prop where
  numbered : ∀ q query, k.queries.find? q = some query → q < k.nextQuery
  pending : ∀ q key status, k.queries.find? q = some ⟨key, status⟩ → status.isFinished = false →
    k.inFlight.find? key = some q
  flown : ∀ key q, k.inFlight.find? key = some q → ∃ status, k.queries.find? q = some ⟨key, status⟩ ∧
    (status.isFinished = false ∨ ∃ message, status = .panicked message)
  shut : k.closed = true → ∀ key, k.inFlight.find? key = none

theorem find?_landed (inFlight : Table CheckKey QueryId) (key key' : CheckKey) (q : QueryId) :
    (Client.landed inFlight key q).find? key' =
      if key' = key ∧ inFlight.find? key = some q then none else inFlight.find? key' := by
  unfold Client.landed
  split
  · next flying => simp [Table.find?_erase, flying]
  · next elsewhere => simp [elsewhere]

theorem Sound.fresh {k : Knowledge} (sound : Sound k) : k.queries.find? k.nextQuery = none := by
  cases found : k.queries.find? k.nextQuery with
  | none => rfl
  | some query => exact (Nat.lt_irrefl _ (sound.numbered _ query found)).elim

/-- Something is in flight only while the client is open. -/
theorem Sound.opened {k : Knowledge} (sound : Sound k) {key : CheckKey} {q : QueryId}
    (flying : k.inFlight.find? key = some q) : k.closed = false := by
  cases state : k.closed with
  | false => rfl
  | true => cases (sound.shut state key).symm.trans flying

/-- A query in flight goes on to a status in which it may stay in flight. -/
theorem Sound.move {k : Knowledge} {q : QueryId} {key : CheckKey} {before after : QueryStatus}
    (sound : Sound k) (found : k.queries.find? q = some ⟨key, before⟩) (running : before.isFinished = false)
    (fits : after.isFinished = false ∨ ∃ message, after = .panicked message) :
    Sound { k with queries := k.queries.insert q ⟨key, after⟩ } := by
  refine ⟨?_, ?_, ?_, sound.shut⟩
  · intro q' query present
    simp only [Table.find?_insert] at present
    split at present
    · next same => exact same ▸ sound.numbered q _ found
    · exact sound.numbered q' query present
  · intro q' key' status present unfinished
    simp only [Table.find?_insert] at present
    split at present
    · next same =>
      cases Option.some.inj present
      exact same ▸ sound.pending q key before found running
    · exact sound.pending q' key' status present unfinished
  · intro key' q' flown
    obtain ⟨status, present, fits'⟩ := sound.flown key' q' flown
    simp only [Table.find?_insert]
    split
    · next same =>
      subst q'
      cases Option.some.inj (present.symm.trans found)
      exact ⟨after, rfl, fits⟩
    · exact ⟨status, present, fits'⟩

theorem Sound.begin {k : Knowledge} {key : CheckKey} (sound : Sound k) (opened : k.closed = false)
    (free : k.inFlight.find? key = none) :
    Sound { k with
      inFlight := k.inFlight.insert key k.nextQuery
      queries := k.queries.insert k.nextQuery ⟨key, .queued⟩
      nextQuery := k.nextQuery + 1 } := by
  refine ⟨?_, ?_, ?_, fun shut => (Bool.eq_false_iff.mp opened shut).elim⟩
  · intro q query present
    simp only [Table.find?_insert] at present
    split at present
    · next same => exact same ▸ Nat.lt_succ_self _
    · exact Nat.lt_succ_of_lt (sound.numbered q query present)
  · intro q key' status present unfinished
    simp only [Table.find?_insert] at present ⊢
    split at present
    · next same =>
      cases Option.some.inj present
      simp [same]
    -- The key was free, so an older query that has not ended is in flight for another one.
    · have flying := sound.pending q key' status present unfinished
      have other : key' ≠ key := by
        rintro rfl
        cases free.symm.trans flying
      simpa only [other, if_false] using flying
  · intro key' q flown
    simp only [Table.find?_insert] at flown ⊢
    split at flown
    · next same =>
      cases Option.some.inj flown
      exact ⟨.queued, by simp [same], Or.inl rfl⟩
    · obtain ⟨status, present, fits⟩ := sound.flown key' q flown
      have other : q ≠ k.nextQuery := by
        rintro rfl
        cases sound.fresh.symm.trans present
      exact ⟨status, by simpa only [other, if_false] using present, fits⟩

theorem Sound.land {k : Knowledge} {q : QueryId} {key : CheckKey} {before after : QueryStatus}
    (sound : Sound k) (found : k.queries.find? q = some ⟨key, before⟩) (running : before.isFinished = false)
    (ended : after.isFinished = true) :
    Sound { k with
      inFlight := Client.landed k.inFlight key q
      queries := k.queries.insert q ⟨key, after⟩ } := by
  have flying := sound.pending q key before found running
  refine ⟨?_, ?_, ?_, fun shut => ?_⟩
  · intro q' query present
    simp only [Table.find?_insert] at present
    split at present
    · next same => exact same ▸ sound.numbered q _ found
    · exact sound.numbered q' query present
  · intro q' key' status present unfinished
    simp only [Table.find?_insert] at present
    simp only [find?_landed]
    split at present
    · cases Option.some.inj present
      cases ended.symm.trans unfinished
    · next other =>
      have flying' := sound.pending q' key' status present unfinished
      have different : key' ≠ key := by
        rintro rfl
        exact other (Option.some.inj (flying'.symm.trans flying))
      simpa only [different, false_and, if_false] using flying'
  · intro key' q' flown
    simp only [find?_landed] at flown
    simp only [Table.find?_insert]
    split at flown
    · cases flown
    · next stays =>
      obtain ⟨status, present, fits⟩ := sound.flown key' q' flown
      have other : q' ≠ q := by
        rintro rfl
        cases Option.some.inj (present.symm.trans found)
        exact stays ⟨rfl, flying⟩
      exact ⟨status, by simpa only [other, if_false] using present, fits⟩
  · cases (sound.shut shut key).symm.trans flying

end Knowledge

namespace Client

variable {App : Type} {c : Client App}

theorem find?_abortQueries (c : Client App) (q : QueryId) :
    c.abortQueries.queries.find? q = (c.queries.find? q).map fun query =>
      if c.inFlight.find? query.key = some q then { query with status := query.status.abort } else query :=
  Table.find?_mapValues ..

theorem abortQueries_of_isFinished {q : QueryId} {query : Query} (found : c.queries.find? q = some query)
    (ended : query.status.isFinished = true) : c.abortQueries.queries.find? q = some query := by
  rw [find?_abortQueries, found]
  simp only [Option.map_some, QueryStatus.abort_of_isFinished ended, ite_self]

theorem abortQueries_finished (sound : c.knowledge.Sound) {q : QueryId} {query : Query}
    (found : c.abortQueries.queries.find? q = some query) : query.status.isFinished = true := by
  rw [find?_abortQueries] at found
  obtain ⟨⟨key, status⟩, before, rfl⟩ := Option.map_eq_some_iff.mp found
  split
  · exact status.isFinished_abort
  · next landed =>
    cases ended : status.isFinished with
    | true => rfl
    | false => exact (landed (sound.pending q key status before ended)).elim

theorem abortQueries_sound (sound : c.knowledge.Sound) : c.abortQueries.knowledge.Sound := by
  refine ⟨?_, ?_, fun _ _ flown => (by cases flown), fun _ _ => rfl⟩
  · intro q query present
    obtain ⟨before, found, _⟩ := Option.map_eq_some_iff.mp ((find?_abortQueries c q).symm.trans present)
    exact sound.numbered q before found
  · intro q key status present unfinished
    cases (abortQueries_finished sound present).symm.trans unfinished

theorem Learns.sound {e : ClientEvent App} {k : Knowledge} (learns : Learns c e k)
    (sound : c.knowledge.Sound) : k.Sound := by
  cases learns with
  | unmoved => exact sound
  | invalidated | cleared => exact ⟨sound.numbered, sound.pending, sound.flown, sound.shut⟩
  | asked queued =>
    have running : QueryStatus.asked.isFinished = false := rfl
    have moved := sound.move queued rfl (Or.inl running)
    exact ⟨moved.numbered, moved.pending, moved.flown, moved.shut⟩
  | panicked asked => exact sound.move asked rfl (Or.inr ⟨_, rfl⟩)
  | begun need stale free => exact sound.begin (need?_open need) free
  | @answered _ _ reply _ asked =>
    have ended : (QueryStatus.answered (reply.map Grant.snapshot)).isFinished = true := rfl
    have landed := sound.land asked rfl ended
    exact ⟨landed.numbered, landed.pending, landed.flown, landed.shut⟩
  | closed =>
    have aborted := abortQueries_sound sound
    exact ⟨aborted.numbered, aborted.pending, aborted.flown, fun _ _ => rfl⟩
  | abandoned => exact abortQueries_sound sound

/-! ### What a query keeps -/

/-- A query stays a query of its key, and is not queued again. -/
theorem Learns.key {e : ClientEvent App} {k : Knowledge} (learns : Learns c e k) (sound : c.knowledge.Sound)
    {q : QueryId} {key : CheckKey} {status : QueryStatus} (found : c.queries.find? q = some ⟨key, status⟩) :
    ∃ status', k.queries.find? q = some ⟨key, status'⟩ ∧ (status' = .queued → status = .queued) := by
  have moved {q' : QueryId} {key' : CheckKey} {before : QueryStatus} (after : QueryStatus)
      (there : c.queries.find? q' = some ⟨key', before⟩) (onward : after ≠ .queued) :
      ∃ status', (c.queries.insert q' ⟨key', after⟩).find? q = some ⟨key, status'⟩ ∧
        (status' = .queued → status = .queued) := by
    rw [Table.find?_insert]
    split
    · next same =>
      subst same
      cases Option.some.inj (found.symm.trans there)
      exact ⟨after, rfl, fun same => (onward same).elim⟩
    · exact ⟨status, found, id⟩
  cases learns with
  | unmoved | invalidated | cleared => exact ⟨status, found, id⟩
  | asked there => exact moved _ there (by simp)
  | answered there => exact moved _ there (by simp)
  | panicked there => exact moved _ there (by simp)
  | begun =>
    have other : q ≠ c.nextQuery := Nat.ne_of_lt (sound.numbered q _ found)
    exact ⟨status, (Table.find?_insert_of_ne _ other).trans found, id⟩
  | closed | abandoned =>
    simp only [knowledge, find?_abortQueries, found, Option.map_some]
    split
    · exact ⟨status.abort, rfl, fun same => (status.abort_ne_queued same).elim⟩
    · exact ⟨status, rfl, id⟩

/-- How an event brings the query `q` for `key` to a status. -/
inductive Turns (c : Client App) (q : QueryId) (key : CheckKey) : ClientEvent App → QueryStatus → Prop
  | begun {request : CallRequest} {m : Moment App} {purpose : Purpose}
      (need : c.need? request m = some (key, purpose)) (stale : c.cache.get? key m.now = none)
      (free : c.inFlight.find? key = none) (new : q = c.nextQuery) : Turns c q key (.call request m) .queued
  | asked (queued : c.queries.find? q = some ⟨key, .queued⟩) : Turns c q key (.ask q) .asked
  | answered (reply : Except ClientError Grant) (now : Instant)
      (asked : c.queries.find? q = some ⟨key, .asked⟩) :
      Turns c q key (.queryReply q reply now) (.answered (reply.map Grant.snapshot))
  | panicked (message : String) (asked : c.queries.find? q = some ⟨key, .asked⟩) :
      Turns c q key (.queryPanic q message) (.panicked message)
  | aborted {e : ClientEvent App} {before : QueryStatus} (shut : e = .close ∨ e = .abandon)
      (found : c.queries.find? q = some ⟨key, before⟩) (running : before.isFinished = false) :
      Turns c q key e .aborted

/-- A query has the status that it had, or the event has brought it to that status. -/
theorem Learns.turns {e : ClientEvent App} {k : Knowledge} (learns : Learns c e k) {q : QueryId}
    {key : CheckKey} {status : QueryStatus} (found : k.queries.find? q = some ⟨key, status⟩) :
    c.queries.find? q = some ⟨key, status⟩ ∨ Turns c q key e status := by
  have aborted {e : ClientEvent App} (ends : e = .close ∨ e = .abandon)
      (found : c.abortQueries.queries.find? q = some ⟨key, status⟩) :
      c.queries.find? q = some ⟨key, status⟩ ∨ Turns c q key e status := by
    obtain ⟨⟨key', before⟩, there, same⟩ :=
      Option.map_eq_some_iff.mp ((find?_abortQueries c q).symm.trans found)
    split at same
    · cases same
      cases running : before.isFinished with
      | true => exact Or.inl (by rw [QueryStatus.abort_of_isFinished running]; exact there)
      | false =>
        have status : before.abort = .aborted := by simp [QueryStatus.abort, running]
        exact Or.inr (status ▸ .aborted ends there running)
    · cases same
      exact Or.inl there
  have placed {e : ClientEvent App} {q' : QueryId} {key' : CheckKey} {after : QueryStatus}
      (turn : Turns c q' key' e after)
      (found : (c.queries.insert q' ⟨key', after⟩).find? q = some ⟨key, status⟩) :
      c.queries.find? q = some ⟨key, status⟩ ∨ Turns c q key e status := by
    rw [Table.find?_insert] at found
    split at found
    · next same =>
      subst same
      cases Option.some.inj found
      exact Or.inr turn
    · exact Or.inl found
  cases learns with
  | unmoved | invalidated | cleared => exact Or.inl found
  | begun need stale free => exact placed (.begun need stale free rfl) found
  | asked there => exact placed (.asked there) found
  | answered there => exact placed (.answered _ _ there) found
  | panicked there => exact placed (.panicked _ there) found
  | closed => exact aborted (Or.inl rfl) found
  | abandoned => exact aborted (Or.inr rfl) found

/-- A result is final. -/
theorem Learns.finished {e : ClientEvent App} {k : Knowledge} (learns : Learns c e k)
    (sound : c.knowledge.Sound) {q : QueryId} {query : Query} (found : c.queries.find? q = some query)
    (ended : query.status.isFinished = true) : k.queries.find? q = some query := by
  have elsewhere {q' : QueryId} {key : CheckKey} {before : QueryStatus} (after : QueryStatus)
      (there : c.queries.find? q' = some ⟨key, before⟩) (running : before.isFinished = false) :
      (c.queries.insert q' ⟨key, after⟩).find? q = some query := by
    have other : q ≠ q' := by
      rintro rfl
      rw [Option.some.inj (found.symm.trans there)] at ended
      cases ended.symm.trans running
    exact (Table.find?_insert_of_ne _ other).trans found
  cases learns with
  | unmoved | invalidated | cleared => exact found
  | asked there | answered there | panicked there => exact elsewhere _ there rfl
  | begun =>
    have other : q ≠ c.nextQuery := Nat.ne_of_lt (sound.numbered q query found)
    exact (Table.find?_insert_of_ne _ other).trans found
  | closed | abandoned => exact abortQueries_of_isFinished found ended

end Client

namespace ClientHistory
open History

variable {App : Type} {h : ClientHistory App}

theorem start_sound (h : ClientHistory App) : h.start.knowledge.Sound := by
  rw [Client.build_ok h.built]
  exact ⟨fun _ _ found => (by cases found), fun _ _ _ found => (by cases found),
    fun _ _ found => (by cases found), fun _ _ => rfl⟩

theorem sound (h : ClientHistory App) (n : Nat) : (h.state n).knowledge.Sound :=
  h.invariant (P := fun c : Client App => c.knowledge.Sound) h.start_sound
    (fun k e _ sound => ((h.state k).step_learns e).sound sound) n

theorem learns {n : Nat} {e : ClientEvent App} (happened : h.events[n]? = some e) :
    Client.Learns (h.state n) e (h.state (n + 1)).knowledge := by
  rw [state_succ happened]
  exact (h.state n).step_learns e

theorem key_kept {m n : Nat} (later : m ≤ n) {q : QueryId} {key : CheckKey} {status : QueryStatus}
    (found : (h.state m).queries.find? q = some ⟨key, status⟩) :
    ∃ status', (h.state n).queries.find? q = some ⟨key, status'⟩ ∧ (status' = .queued → status = .queued) := by
  refine induction (P := fun _ (c : Client App) => ∃ status', c.queries.find? q = some ⟨key, status'⟩ ∧
    (status' = .queued → status = .queued)) later ⟨status, found, id⟩ ?_ (fun _ _ _ => id)
  rintro k e _ _ ⟨_, present, backward⟩
  obtain ⟨status', found', backward'⟩ := ((h.state k).step_learns e).key (h.sound k) present
  exact ⟨status', found', backward ∘ backward'⟩

theorem finished_kept {m n : Nat} (later : m ≤ n) {q : QueryId} {query : Query}
    (found : (h.state m).queries.find? q = some query) (ended : query.status.isFinished = true) :
    (h.state n).queries.find? q = some query :=
  induction (P := fun _ (c : Client App) => c.queries.find? q = some query) later found
    (fun k e _ _ present => ((h.state k).step_learns e).finished (h.sound k) present ended) (fun _ _ _ => id)

end ClientHistory

end Entitlement
