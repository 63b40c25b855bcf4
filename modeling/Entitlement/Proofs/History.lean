/-!
Histories: where something began, what has happened to it since, and the states in between. Statements about
all that can happen quantify over histories, and name the events by their places. What the first state has and
every event keeps holds throughout (`invariant`, `induction`); what has come about at all came about in some
event (`came_between`).
-/

namespace Entitlement

/-- The events come the earliest first. -/
structure History {σ ε : Type} (step : σ → ε → σ) where
  start : σ
  events : List ε

namespace History

variable {σ ε : Type} {step : σ → ε → σ} (h : History step)

/-- The state after the first `n` events. -/
def state (n : Nat) : σ := (h.events.take n).foldl step h.start

@[simp] theorem state_zero : h.state 0 = h.start := rfl

variable {h}

theorem state_succ {n : Nat} {e : ε} (happened : h.events[n]? = some e) :
    h.state (n + 1) = step (h.state n) e := by
  simp [state, List.take_add_one, happened]

theorem state_succ_of_none {n : Nat} (finished : h.events[n]? = none) : h.state (n + 1) = h.state n := by
  simp [state, List.take_add_one, finished]

theorem next (n : Nat) :
    (∃ e, h.events[n]? = some e ∧ h.state (n + 1) = step (h.state n) e) ∨
      (h.events[n]? = none ∧ h.state (n + 1) = h.state n) := by
  cases happened : h.events[n]? with
  | some e => exact Or.inl ⟨e, rfl, state_succ happened⟩
  | none => exact Or.inr ⟨rfl, state_succ_of_none happened⟩

/-- Along a history from one place to a later one. -/
theorem induction {P : Nat → σ → Prop} {m n : Nat} (later : m ≤ n) (first : P m (h.state m))
    (event : ∀ k e, m ≤ k → h.events[k]? = some e → P k (h.state k) → P (k + 1) (step (h.state k) e))
    (rest : ∀ k, m ≤ k → h.events[k]? = none → P k (h.state k) → P (k + 1) (h.state k)) :
    P n (h.state n) := by
  induction later with
  | refl => exact first
  | @step k reached ih =>
    rcases h.next k with ⟨e, happened, same⟩ | ⟨finished, same⟩
    · rw [same]
      exact event k e reached happened ih
    · rw [same]
      exact rest k reached finished ih

/-- What the first state has and every event keeps holds always. -/
theorem invariant {P : σ → Prop} (first : P h.start)
    (event : ∀ k e, h.events[k]? = some e → P (h.state k) → P (step (h.state k) e)) (n : Nat) :
    P (h.state n) :=
  induction (P := fun _ s => P s) (Nat.zero_le n) first (fun k e _ => event k e) (fun _ _ _ => id)

/-- Where something was last brought about that each event brings about or finds. What holds at every place at which
it is only found holds ever since. -/
theorem came_between {P : σ → Prop} {Q R : Nat → Prop} {l n : Nat} (later : l ≤ n)
    (before : ¬ P (h.state l)) (after : P (h.state n))
    (event : ∀ k e, h.events[k]? = some e → P (h.state (k + 1)) → (P (h.state k) ∧ R k) ∨ Q k)
    (rest : ∀ k, h.events[k]? = none → R k) :
    ∃ m, l ≤ m ∧ m < n ∧ Q m ∧ ∀ j, m < j → j < n → R j := by
  induction later with
  | refl => exact (before after).elim
  | @step n reached ih =>
    have earlier (found : P (h.state n)) (here : R n) :
        ∃ m, l ≤ m ∧ m < n + 1 ∧ Q m ∧ ∀ j, m < j → j < n + 1 → R j := by
      obtain ⟨m, from_l, sooner, came, since⟩ := ih found
      refine ⟨m, from_l, Nat.lt_succ_of_lt sooner, came, ?_⟩
      intro j past within
      rcases Nat.lt_succ_iff_lt_or_eq.mp within with inside | rfl
      · exact since j past inside
      · exact here
    rcases h.next n with ⟨e, happened, _⟩ | ⟨finished, same⟩
    · rcases event n e happened after with ⟨found, here⟩ | came
      · exact earlier found here
      · refine ⟨n, reached, Nat.lt_succ_self n, came, ?_⟩
        intro j past within
        omega
    · exact earlier (same ▸ after) (rest n finished)

/-- The same for what the first state does not have. -/
theorem came_about {P : σ → Prop} {Q : Nat → Prop} {n : Nat} (before : ¬ P h.start) (after : P (h.state n))
    (event : ∀ k e, h.events[k]? = some e → P (h.state (k + 1)) → P (h.state k) ∨ Q k) :
    ∃ m < n, Q m := by
  obtain ⟨m, _, sooner, came, _⟩ := came_between (R := fun _ => True) (Nat.zero_le n) before after
    (fun k e happened found => (event k e happened found).imp_left fun found => ⟨found, trivial⟩)
    (fun _ _ => trivial)
  exact ⟨m, sooner, came⟩

end History

end Entitlement
