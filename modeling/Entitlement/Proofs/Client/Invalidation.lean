import Entitlement.Proofs.Client.Waiting

/-!
Forgetting a key. The client drops what it has stored, and no answer that it had taken in by then reaches a call that
comes afterwards (`forgotten_refreshed`). It does not drop the query that is in flight: whoever comes while that is
under way joins it, and gets an answer that may have been asked for before the key was forgotten
(`staleFlight_joined`).
-/

namespace Entitlement.ClientHistory
open History

variable {App : Type} {h : ClientHistory App}

/-- A query that is answered after a place has been begun there or later, or was in flight there and had not ended. -/
theorem Answers.begun {j r : Nat} (later : j ≤ r) {q : QueryId} {key : CheckKey} {grant : Grant} {now : Instant}
    (answers : h.Answers r q key grant now) :
    ∃ b a, b < a ∧ a < r ∧ h.Begins b q key ∧ h.Asks a q key ∧
      (j ≤ b ∨ ((h.state j).inFlight.find? key = some q ∧ (h.state j).outcome? q = none)) := by
  obtain ⟨a, sooner, asks⟩ := h.asked_before r answers.2
  obtain ⟨b, earlier, begins⟩ := h.begun a asks.2
  refine ⟨b, a, earlier, sooner, begins, asks, ?_⟩
  by_cases after : j ≤ b
  · exact Or.inl after
  · obtain ⟨_, _, _, _, _, _, _, _, found⟩ := begins
    obtain ⟨status, present, _⟩ := key_kept (Nat.succ_le_of_lt (Nat.lt_of_not_le after)) found
    -- An outcome would have been final, but the query is still to be answered.
    have pending : (h.state j).outcome? q = none := by
      cases outcome : (h.state j).outcome? q with
      | none => rfl
      | some result =>
        obtain ⟨query, found', ended⟩ := Client.outcome?_some.mp (outcome_kept later outcome)
        cases answers.2.symm.trans found'
        cases ended
    have running := (Client.outcome?_eq_none present).mp pending
    exact Or.inr ⟨(h.sound j).pending q key status present running, pending⟩

/-- A call that comes in the `l`th event finds in the cache what it gets in the `n`th: the answer of the `r`th, which is
the latest for the key. -/
def Finds (h : ClientHistory App) (n l r : Nat) (key : CheckKey) (s : Snapshot) (now : Instant) : Prop :=
  n = l ∧ (h.state l).cache.get? key now = some s ∧
    ∀ j, r < j → j < l → ∀ q grant taken, ¬ h.Answers j q key grant taken

/-- A call that gets its snapshot as soon as it comes finds it in the cache. -/
theorem Obtains.cached {n : Nat} {i : CallId} {request : CallRequest} {m : Moment App} {key : CheckKey}
    {purpose : Purpose} {s : Snapshot} (obtains : h.Obtains n i key purpose s)
    (happened : h.events[n]? = some (.call request m)) : (h.state n).cache.get? key m.now = some s := by
  cases obtains with
  | atOnce happened' _ _ present =>
    cases happened.symm.trans happened'
    exact (Client.atHand?_eq (h.sound n) key m.now).symm.trans present
  | later happened' => cases happened.symm.trans happened'

/-- What a call gets that came after the key was forgotten was answered since: to the query that it goes by, or for
the cache. -/
theorem Obtains.answered_since {j l n : Nat} {i : CallId} {key : CheckKey} {request : CallRequest} {m : Moment App}
    {purpose : Purpose} {s : Snapshot} (obtains : h.Obtains n i key purpose s) (called : h.Calls l i request m)
    (forgets : h.Forgets j key) (later : j < l) :
    ∃ r q grant now, h.Answers r q key grant now ∧ grant.snapshot = s ∧ j < r ∧ r < n ∧
      (h.Joins l i q key purpose ∨ h.Finds n l r key s m.now) := by
  rcases obtains.source with fromQuery | fromCache
  · obtain ⟨looked, number, _, found, running, _, answers, same, after, _, before⟩ := fromQuery
    have ⟨_, _, happened, _⟩ := looked
    obtain ⟨rfl, _⟩ := called.unique ⟨happened, number⟩
    have flying := (h.sound (l + 1)).pending _ key _ found running
    exact ⟨_, _, _, _, answers, same, Nat.lt_trans later after, before, Or.inl ⟨looked, number, flying⟩⟩
  · obtain @⟨_, _, _, r, _, _, _, looked, number, _, answers, same, ⟨_, before⟩, latest, kept, _⟩ := fromCache
    obtain ⟨rfl, _⟩ := called.unique ⟨looked, number⟩
    have finds : h.Finds l l r key s m.now := ⟨rfl, obtains.cached called.1, latest⟩
    refine ⟨r, _, _, _, answers, same, ?_, before, Or.inr finds⟩
    -- Nothing that was stored before is there any more.
    rcases Nat.lt_trichotomy j r with after | rfl | sooner
    · exact after
    · rcases forgets with told | told <;> cases answers.1.symm.trans told
    · exact (kept j sooner later forgets).elim

/-- Whoever comes after the key was forgotten gets an answer taken in since, to a query that was begun since or not
answered by then. -/
theorem forgotten_refreshed (h : ClientHistory App) {j l n : Nat} {i : CallId} {key : CheckKey}
    {request : CallRequest} {m : Moment App} {purpose : Purpose} {s : Snapshot} (forgets : h.Forgets j key)
    (later : j < l) (called : h.Calls l i request m) (obtains : h.Obtains n i key purpose s) :
    ∃ q b a r grant now, h.Begins b q key ∧ h.Asks a q key ∧ h.Answers r q key grant now ∧ grant.snapshot = s ∧
      b < a ∧ a < r ∧ r < n ∧ j < r ∧
      (j < b ∨ ((h.state j).inFlight.find? key = some q ∧ (h.state j).outcome? q = none)) ∧
      (h.Joins l i q key purpose ∨ h.Finds n l r key s m.now) := by
  obtain ⟨r, q, grant, now, answers, same, after, before, goes⟩ := obtains.answered_since called forgets later
  obtain ⟨b, a, earlier, sooner, begins, asks, since⟩ := answers.begun (Nat.le_of_lt after)
  have apart : j ≠ b := by
    rintro rfl
    obtain ⟨_, _, _, happened, _⟩ := begins
    rcases forgets with told | told <;> cases happened.symm.trans told
  exact ⟨q, b, a, r, grant, now, begins, asks, answers, same, earlier, sooner, before, after,
    since.imp_left fun from_j => Nat.lt_of_le_of_ne from_j apart, goes⟩

def twoUnits : Snapshot := Snapshot.admitting.withQuota (.of 2 0 0)

/-- The key is forgotten while its snapshot is in the cache, and checked again. -/
def checkedAgain : ClientHistory Unit :=
  ofEvents [.call (.check .product) (atSecond 0), .ask 0, .queryReply 0 (.ok ⟨tenUnits, none⟩) (atSecond 1).now,
    .resume 0 (atSecond 1), .invalidate .product, .call (.check .product) (atSecond 2), .ask 1,
    .queryReply 1 (.ok ⟨twoUnits, none⟩) (atSecond 3).now, .resume 1 (atSecond 3)]

theorem checkedAgain_refreshed :
    checkedAgain.Forgets 4 .product ∧ 4 < 5 ∧ checkedAgain.Calls 5 1 (.check .product) (atSecond 2) ∧
    checkedAgain.Obtains 8 1 .product .show twoUnits ∧
    ∃ q b a r grant now, checkedAgain.Begins b q .product ∧ checkedAgain.Asks a q .product ∧
      checkedAgain.Answers r q .product grant now ∧ grant.snapshot = twoUnits ∧ b < a ∧ a < r ∧ r < 8 ∧ 4 < b ∧
      checkedAgain.Joins 5 1 q .product .show := by
  have forgets : checkedAgain.Forgets 4 .product := Or.inl rfl
  have called : checkedAgain.Calls 5 1 (.check .product) (atSecond 2) := ⟨rfl, rfl⟩
  have obtains : checkedAgain.Obtains 8 1 .product .show twoUnits := .later rfl rfl rfl
  obtain ⟨q, b, a, r, grant, now, begins, asks, answers, same, earlier, sooner, before, _, since, goes⟩ :=
    forgotten_refreshed checkedAgain forgets (by decide) called obtains
  have fresh : 4 < b := by
    rcases since with since | ⟨flying, _⟩
    · exact since
    · cases flying
  have joins : checkedAgain.Joins 5 1 q .product .show := goes.resolve_right fun finds => absurd finds.1 (by decide)
  exact ⟨forgets, by decide, called, obtains, q, b, a, r, grant, now, begins, asks, answers, same, earlier, sooner,
    before, fresh, joins⟩

/-- The key is forgotten while the authority is asked, and checked again. -/
def staleFlight : ClientHistory Unit :=
  ofEvents [.call (.check .product) (atSecond 0), .ask 0, .invalidate .product, .call (.check .product) (atSecond 1),
    .queryReply 0 (.ok ⟨tenUnits, none⟩) (atSecond 2).now, .resume 1 (atSecond 2)]

/-- The second check gets what the authority was asked for before the key was forgotten, and no query is begun
since. -/
theorem staleFlight_joined :
    staleFlight.Forgets 2 .product ∧ staleFlight.Calls 3 1 (.check .product) (atSecond 1) ∧
    staleFlight.Asks 1 0 .product ∧
    staleFlight.Answers 4 0 .product ⟨tenUnits, none⟩ (atSecond 2).now ∧
    staleFlight.Obtains 5 1 .product .show tenUnits ∧ ∀ b q, 2 < b → ¬ staleFlight.Begins b q .product := by
  refine ⟨Or.inl rfl, ⟨rfl, rfl⟩, ⟨rfl, rfl⟩, ⟨rfl, rfl⟩, .later rfl rfl rfl, ?_⟩
  rintro b q after ⟨request, m, purpose, happened, _, _, free, _⟩
  have within : b < 6 := (List.getElem?_eq_some_iff.mp happened).1
  obtain rfl | rfl | rfl : b = 3 ∨ b = 4 ∨ b = 5 := by omega
  · cases free
  · cases happened
  · cases happened

end Entitlement.ClientHistory
