import Entitlement.Proofs.Client.Alike

/-!
Callers that give up. A query belongs to nobody: whoever has joined it, or begun it, can leave, and what is asked of
the authority, what is put in the cache and what the others hear stays the same (`waiters_agree`). Two histories are
compared for this, of which one has the other's events and some cancellations besides (`GivesUp`).
-/

namespace Entitlement.ClientHistory
open History

variable {App : Type} {h h' : ClientHistory App} {place : Nat → Nat}

/-- The first `n` events of `h'` are the first `place n` of `h`, and some in between with which callers give up. -/
structure GivesUp (h h' : ClientHistory App) (place : Nat → Nat) : Prop where
  start : h'.start = h.start
  first : place 0 = 0
  event : ∀ n e, h'.events[n]? = some e →
    (h.events[place n]? = some e ∧ place (n + 1) = place n + 1) ∨
      ((∃ i < (h'.state n).nextCall, e = .cancel i) ∧ place (n + 1) = place n)
  rest : ∀ n, h'.events[n]? = none → h.events[place n]? = none ∧ place (n + 1) = place n

/-- The `n`th event of `h'` is one with which the call `i` is given up, and is none of `h`. -/
def Leaves (h' : ClientHistory App) (place : Nat → Nat) (n : Nat) (i : CallId) : Prop :=
  h'.events[n]? = some (.cancel i) ∧ place (n + 1) = place n

/-! ### What the two histories share -/

namespace GivesUp

theorem alike (gives : GivesUp h h' place) (n : Nat) :
    Client.Alike (fun i => ∃ m < n, h'.Leaves place m i) (h.state (place n)) (h'.state n) := by
  induction n with
  | zero =>
    have none_left (i : CallId) : ¬ ∃ m < 0, h'.Leaves place m i := by
      rintro ⟨m, before, _⟩
      exact Nat.not_lt_zero m before
    rw [gives.first, state_zero, state_zero, gives.start]
    exact ⟨rfl, rfl, rfl, rfl, fun _ _ _ _ _ _ => Iff.rfl, fun i left => (none_left i left).elim⟩
  | succ n ih =>
    have left_succ (i : CallId) := Nat.exists_lt_succ_right (n := n) (p := fun m => h'.Leaves place m i)
    rcases h'.next n with ⟨e, happened, moved⟩ | ⟨finished, same⟩
    · rcases gives.event n e happened with ⟨shared, onward⟩ | ⟨⟨i, came, rfl⟩, stays⟩
      · have nobody (i : CallId) : ¬ h'.Leaves place n i := by
          rintro ⟨_, stays⟩
          omega
        simp only [left_succ, nobody, or_false]
        rw [onward, moved, state_succ shared]
        exact ih.step e
      · have leaver (j : CallId) : h'.Leaves place n j ↔ j = i := by
          simp [Leaves, happened, stays, eq_comm]
        simp only [left_succ, leaver]
        rw [stays, moved]
        exact ih.cancel came
    · have nobody (i : CallId) : ¬ h'.Leaves place n i := by
        rintro ⟨happened, _⟩
        cases finished.symm.trans happened
      simp only [left_succ, nobody, or_false]
      rw [(gives.rest n finished).2, same]
      exact ih

theorem moves (gives : GivesUp h h' place) (n : Nat) : place (n + 1) = place n ∨ place (n + 1) = place n + 1 := by
  cases happened : h'.events[n]? with
  | none => exact Or.inl (gives.rest n happened).2
  | some e =>
    rcases gives.event n e happened with ⟨_, onward⟩ | ⟨_, stays⟩
    · exact Or.inr onward
    · exact Or.inl stays

theorem reached (gives : GivesUp h h' place) {k n : Nat} (beyond : k < place n) :
    ∃ m, place m = k ∧ place (m + 1) = k + 1 := by
  induction n with
  | zero =>
    rw [gives.first] at beyond
    exact (Nat.not_lt_zero k beyond).elim
  | succ n ih =>
    by_cases sooner : k < place n
    · exact ih sooner
    · have moves := gives.moves n
      exact ⟨n, by omega, by omega⟩

/-- No event of `h` is missing in `h'`. -/
theorem happens (gives : GivesUp h h' place) {k : Nat} {e : ClientEvent App} (happened : h.events[k]? = some e) :
    ∃ n, place n = k ∧ h'.events[n]? = some e := by
  have finished := (gives.rest h'.events.length (List.getElem?_eq_none (Nat.le_refl _))).1
  have ends := List.getElem?_eq_none_iff.mp finished
  have within := (List.getElem?_eq_some_iff.mp happened).1
  obtain ⟨n, here, onward⟩ := gives.reached (Nat.lt_of_lt_of_le within ends)
  refine ⟨n, here, ?_⟩
  cases happened' : h'.events[n]? with
  | none =>
    have stays := (gives.rest n happened').2
    omega
  | some e' =>
    rcases gives.event n e' happened' with ⟨shared, _⟩ | ⟨_, stays⟩
    · rw [here] at shared
      exact shared.symm.trans happened
    · omega

theorem hears (gives : GivesUp h h' place) {i : CallId} (stays : ∀ n, ¬ h'.Leaves place n i) (m : Moment App)
    (result : Except ClientError Snapshot) : (∃ n, h'.Hears n i m result) ↔ ∃ n, h.Hears n i m result := by
  have staying (n : Nat) : ¬ ∃ m < n, h'.Leaves place m i := fun ⟨m, _, leaves⟩ => stays m leaves
  constructor
  · rintro ⟨n, e, key, purpose, happened, hears⟩
    have alike := gives.alike n
    rcases gives.event n e happened with ⟨shared, _⟩ | ⟨⟨j, _, rfl⟩, _⟩
    · have heard := (alike.hears? (staying n) fun _ resumed => alike.nextCall ▸ resumed_lt hears resumed).mp hears
      exact ⟨place n, e, key, purpose, shared, heard⟩
    · cases hears
  · rintro ⟨k, e, key, purpose, happened, hears⟩
    obtain ⟨n, rfl, happened'⟩ := gives.happens happened
    have heard := ((gives.alike n).hears? (staying n) fun _ resumed => resumed_lt hears resumed).mpr hears
    exact ⟨n, e, key, purpose, happened', heard⟩

end GivesUp

end Entitlement.ClientHistory
