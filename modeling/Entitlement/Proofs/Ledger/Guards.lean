import Entitlement.Ledger
import Mathlib.Data.Finset.Card

/-!
Guards in force. A guard holds its slot from when it is handed out until it is released or dropped or the
ledger is cleared; `Holds` says so of one state, with one lemma for each operation. A ledger is `Sound` when
every count is the number of guards in force, and every operation keeps it so, as long as the generations
do not wrap around.
-/

namespace Entitlement

namespace Ledger

variable {l l' : Ledger}

/-- The guard `g` holds a slot under `k`. -/
def Holds (l : Ledger) (g : GuardId) (k : SlotKey) : Prop :=
  l.guards.find? g = some { key := k, generation := l.generation }

instance (l : Ledger) (g : GuardId) (k : SlotKey) : Decidable (l.Holds g k) :=
  inferInstanceAs (Decidable (_ = _))

def holders (l : Ledger) (k : SlotKey) : Finset GuardId := (Finset.range l.nextGuard).filter (l.Holds · k)

/-- The guards are numbered, none is of a generation to come, and the counts are those of the guards that hold
slots, without zeros. -/
structure Sound (l : Ledger) : Prop where
  numbered : ∀ g guard, l.guards.find? g = some guard → g < l.nextGuard
  past : ∀ g guard, l.guards.find? g = some guard → guard.generation.toNat ≤ l.generation.toNat
  counted : ∀ k, (l.inUse k).toNat = (l.holders k).card
  positive : ∀ k, l.counts.find? k ≠ some 0

theorem Holds.unique {g : GuardId} {k k' : SlotKey} (holds : l.Holds g k) (holds' : l.Holds g k') : k = k' :=
  congrArg Guard.key (Option.some.inj (holds.symm.trans holds'))

theorem Sound.mem_holders (sound : Sound l) {g : GuardId} {k : SlotKey} : g ∈ l.holders k ↔ l.Holds g k := by
  rw [holders, Finset.mem_filter, Finset.mem_range]
  constructor
  · exact And.right
  · intro holds
    exact ⟨sound.numbered g _ holds, holds⟩

theorem holders_eq {k : SlotKey} {guards : Finset GuardId}
    (numbered : ∀ g guard, l.guards.find? g = some guard → g < l.nextGuard)
    (same : ∀ g, g ∈ guards ↔ l.Holds g k) : l.holders k = guards := by
  ext g
  rw [holders, Finset.mem_filter, Finset.mem_range, same]
  constructor
  · exact And.right
  · intro holds
    exact ⟨numbered g _ holds, holds⟩

theorem sound_empty : Sound {} where
  numbered _ _ found := by cases found
  past _ _ found := by cases found
  counted k := by
    have none_held : (({} : Ledger).holders k) = ∅ := rfl
    rw [none_held]
    rfl
  positive _ found := by cases found

/-! ### Taking -/

theorem tryAcquire_ok {k : SlotKey} {max : UInt64} {g : GuardId} (taken : l.tryAcquire k max = .ok (g, l')) :
    l.inUse k < max ∧ g = l.nextGuard ∧
      l' = { l with
        counts := l.counts.insert k (l.inUse k + 1)
        guards := l.guards.insert l.nextGuard { key := k, generation := l.generation }
        nextGuard := l.nextGuard + 1 } := by
  unfold tryAcquire at taken
  split at taken
  · next free =>
    cases taken
    exact ⟨free, rfl, rfl⟩
  · cases taken

/-- A new guard holds the slot that was taken; of the others, those that held one hold one. -/
theorem holds_tryAcquire (sound : Sound l) {k : SlotKey} {max : UInt64} {g : GuardId}
    (taken : l.tryAcquire k max = .ok (g, l')) (g' : GuardId) (k' : SlotKey) :
    l'.Holds g' k' ↔ l.Holds g' k' ∨ (g' = g ∧ k' = k) := by
  obtain ⟨_, rfl, rfl⟩ := tryAcquire_ok taken
  simp only [Holds, Table.find?_insert]
  split
  · next same =>
    subst same
    simp only [Option.some.injEq, Guard.mk.injEq, and_true]
    constructor
    · rintro rfl
      exact Or.inr ⟨trivial, rfl⟩
    · rintro (held | ⟨_, rfl⟩)
      · exact (Nat.lt_irrefl _ (sound.numbered _ _ held)).elim
      · rfl
  · next other => simp only [other, false_and, or_false]

theorem inUse_tryAcquire {k : SlotKey} {max : UInt64} {g : GuardId} (taken : l.tryAcquire k max = .ok (g, l'))
    (k' : SlotKey) : (l'.inUse k').toNat = (l.inUse k').toNat + if k' = k then 1 else 0 := by
  obtain ⟨free, _, rfl⟩ := tryAcquire_ok taken
  simp only [inUse, Table.find?_insert]
  split
  · next same =>
    subst same
    have bound := UInt64.lt_iff_toNat_lt.mp free
    have top := max.toNat_lt
    rw [inUse] at bound
    rw [Option.getD_some, UInt64.toNat_add]
    exact Nat.mod_eq_of_lt (by simp only [UInt64.toNat_one]; omega)
  · rfl

theorem Sound.tryAcquire (sound : Sound l) {k : SlotKey} {max : UInt64} {g : GuardId}
    (taken : l.tryAcquire k max = .ok (g, l')) : Sound l' := by
  have holds := holds_tryAcquire sound taken
  have count := inUse_tryAcquire taken
  obtain ⟨_, rfl, rfl⟩ := tryAcquire_ok taken
  have numbered (g : GuardId) (guard : Guard)
      (found : (l.guards.insert l.nextGuard { key := k, generation := l.generation }).find? g = some guard) :
      g < l.nextGuard + 1 := by
    rw [Table.find?_insert] at found
    split at found
    · next same => exact same ▸ Nat.lt_succ_self _
    · exact Nat.lt_succ_of_lt (sound.numbered g guard found)
  refine ⟨numbered, ?_, ?_, ?_⟩
  · intro g guard found
    rw [Table.find?_insert] at found
    split at found
    · cases Option.some.inj found
      exact Nat.le_refl _
    · exact sound.past g guard found
  · intro k'
    rw [count k', sound.counted k']
    split
    · next same =>
      subst same
      have fresh : l.nextGuard ∉ l.holders k' := by
        intro member
        exact Nat.lt_irrefl _ (sound.numbered _ _ (sound.mem_holders.mp member))
      rw [← Finset.card_insert_of_notMem fresh]
      refine congrArg Finset.card (holders_eq numbered fun g => ?_).symm
      rw [holds, Finset.mem_insert, sound.mem_holders]
      simp only [and_true, or_comm]
    · next other =>
      rw [Nat.add_zero]
      refine congrArg Finset.card (holders_eq numbered fun g => ?_).symm
      rw [holds, sound.mem_holders]
      simp only [other, and_false, or_false]
  · intro k' zero
    rw [Table.find?_insert] at zero
    split at zero
    · have one := count k
      rw [inUse, Table.find?_insert_self, zero] at one
      simp at one
    · exact sound.positive k' zero

/-! ### Giving back -/

theorem find?_lower (counts : Table SlotKey UInt64) (k k' : SlotKey) :
    (lower counts k).find? k' =
      if k' = k then ((counts.find? k).filter (1 < ·)).map (· - 1) else counts.find? k' := by
  unfold lower
  split
  · next n found =>
    split
    · next many => simp [Table.find?_insert, found, Option.filter_some, many]
    · next last => simp [Table.find?_erase, found, Option.filter_some, last]
  · next absent =>
    split
    · next same => simp [same, absent]
    · rfl

theorem toNat_lowered (n : Option UInt64) :
    (((n.filter (1 < ·)).map (· - 1)).getD 0).toNat = (n.getD 0).toNat - 1 := by
  cases n with
  | none => rfl
  | some n =>
    rw [Option.filter_some]
    by_cases many : 1 < n
    · have le : (1 : UInt64) ≤ n := UInt64.le_of_lt many
      simp [many, UInt64.toNat_sub_of_le _ _ le]
    · have few : n.toNat ≤ 1 := UInt64.le_iff_toNat_le.mp (UInt64.not_lt.mp many)
      simp only [many, decide_false, Bool.false_eq_true, ↓reduceIte, Option.map_none, Option.getD_none,
        Option.getD_some, UInt64.toNat_zero]
      omega

theorem release_holding {g : GuardId} {k : SlotKey} (holds : l.Holds g k) :
    l.release g = { l with
      guards := l.guards.insert g { key := k, generation := l.generation, released := true }
      counts := lower l.counts k } := by
  unfold Holds at holds
  simp [release, holds]

theorem release_counts {g : GuardId} (idle : ∀ k, ¬ l.Holds g k) : (l.release g).counts = l.counts := by
  unfold release
  split
  · next guard found =>
    split
    · rfl
    · next kept =>
      refine if_neg ?_
      intro current
      refine idle guard.key ?_
      rw [Holds, found, ← current]
      cases guard
      simp_all
  · rfl

theorem holds_release (l : Ledger) (g g' : GuardId) (k : SlotKey) :
    (l.release g).Holds g' k ↔ l.Holds g' k ∧ g' ≠ g := by
  unfold release
  split
  · next guard found =>
    split
    · next released =>
      refine (and_iff_left_of_imp ?_).symm
      rintro holds rfl
      cases Option.some.inj (found.symm.trans holds)
      cases released
    · simp only [Holds, Table.find?_insert]
      split
      · next same => simp [same]
      · next other => simp [other]
  · next absent =>
    refine (and_iff_left_of_imp ?_).symm
    rintro holds rfl
    cases absent.symm.trans holds

/-- A guard gives back the slot that it holds, and no other. -/
theorem inUse_release (l : Ledger) (g : GuardId) (k : SlotKey) :
    ((l.release g).inUse k).toNat = (l.inUse k).toNat - if l.Holds g k then 1 else 0 := by
  by_cases held : ∃ k', l.Holds g k'
  · obtain ⟨k', holds⟩ := held
    rw [release_holding holds]
    simp only [inUse, find?_lower]
    split
    · next same =>
      subst same
      rw [if_pos holds, toNat_lowered]
    · next other =>
      have elsewhere : ¬ l.Holds g k := fun holds' => other (holds'.unique holds)
      rw [if_neg elsewhere, Nat.sub_zero]
  -- A guard that holds nothing is unknown, released, or of an older generation.
  · have idle (k' : SlotKey) (holds : l.Holds g k') : False := held ⟨k', holds⟩
    rw [inUse, release_counts idle, if_neg (idle k), Nat.sub_zero]
    rfl

theorem release_positive {g : GuardId} (positive : ∀ k, l.counts.find? k ≠ some 0) (k : SlotKey) :
    (l.release g).counts.find? k ≠ some 0 := by
  by_cases held : ∃ k', l.Holds g k'
  · obtain ⟨k', holds⟩ := held
    rw [release_holding holds]
    simp only [find?_lower]
    split
    · intro zero
      obtain ⟨n, kept, same⟩ := Option.map_eq_some_iff.mp zero
      obtain ⟨_, many⟩ := Option.filter_eq_some_iff.mp kept
      have above := UInt64.lt_iff_toNat_lt.mp (of_decide_eq_true many)
      have none_left := congrArg UInt64.toNat same
      rw [UInt64.toNat_sub_of_le _ _ (UInt64.le_of_lt (of_decide_eq_true many))] at none_left
      simp at above none_left
      omega
    · exact positive k
  · have idle (k' : SlotKey) (holds : l.Holds g k') : False := held ⟨k', holds⟩
    rw [release_counts idle]
    exact positive k

theorem find?_release (l : Ledger) (g g' : GuardId) {guard : Guard}
    (found : (l.release g).guards.find? g' = some guard) :
    ∃ before, l.guards.find? g' = some before ∧ before.key = guard.key ∧ before.generation = guard.generation := by
  unfold release at found
  split at found
  · next guard' present =>
    split at found
    · exact ⟨guard, found, rfl, rfl⟩
    · simp only [Table.find?_insert] at found
      split at found
      · next same =>
        cases Option.some.inj found
        exact ⟨guard', same ▸ present, rfl, rfl⟩
      · exact ⟨guard, found, rfl, rfl⟩
  · exact ⟨guard, found, rfl, rfl⟩

theorem release_frame (l : Ledger) (g : GuardId) :
    (l.release g).generation = l.generation ∧ (l.release g).nextGuard = l.nextGuard := by
  unfold release
  split
  · split <;> exact ⟨rfl, rfl⟩
  · exact ⟨rfl, rfl⟩

theorem Sound.release (sound : Sound l) (g : GuardId) : Sound (l.release g) := by
  obtain ⟨generation, nextGuard⟩ := l.release_frame g
  have numbered (g' : GuardId) (guard : Guard) (found : (l.release g).guards.find? g' = some guard) :
      g' < (l.release g).nextGuard := by
    obtain ⟨before, present, _⟩ := l.find?_release g g' found
    exact nextGuard ▸ sound.numbered g' before present
  refine ⟨numbered, ?_, ?_, release_positive sound.positive⟩
  · intro g' guard found
    obtain ⟨before, present, _, same⟩ := l.find?_release g g' found
    rw [generation, ← same]
    exact sound.past g' before present
  · intro k
    have rest : (l.release g).holders k = (l.holders k).erase g := by
      refine holders_eq numbered fun g' => ?_
      rw [holds_release, Finset.mem_erase, sound.mem_holders, and_comm]
    rw [inUse_release, sound.counted, rest, Finset.card_erase_eq_ite]
    simp only [sound.mem_holders]
    split <;> rfl

/-! ### Dropping and clearing -/

theorem drop_frame (l : Ledger) (g : GuardId) :
    (l.drop g).counts = (l.release g).counts ∧ (l.drop g).generation = l.generation ∧
      (l.drop g).nextGuard = l.nextGuard :=
  ⟨rfl, l.release_frame g⟩

theorem holds_drop (l : Ledger) (g g' : GuardId) (k : SlotKey) :
    (l.drop g).Holds g' k ↔ l.Holds g' k ∧ g' ≠ g := by
  have released := l.holds_release g g' k
  unfold Holds drop at *
  simp only [Table.find?_erase]
  split
  · next same => simp [same]
  · exact released

theorem Sound.drop (sound : Sound l) (g : GuardId) : Sound (l.drop g) := by
  have released := sound.release g
  have kept {g' : GuardId} {guard : Guard} (found : (l.drop g).guards.find? g' = some guard) :
      (l.release g).guards.find? g' = some guard := by
    simp only [Ledger.drop, Table.find?_erase] at found
    split at found
    · cases found
    · exact found
  refine ⟨fun g' guard found => released.numbered g' guard (kept found),
    fun g' guard found => released.past g' guard (kept found), ?_, released.positive⟩
  intro k
  have same : (l.drop g).holders k = (l.release g).holders k := by
    refine holders_eq (fun g' guard found => released.numbered g' guard (kept found)) fun g' => ?_
    rw [released.mem_holders, holds_drop, holds_release]
  rw [same]
  exact released.counted k

/-- Unless the generations wrap around, a guard from before a clearing holds nothing. -/
theorem clear_holds (sound : Sound l) (room : l.generation.toNat + 1 < UInt64.size) (g : GuardId) (k : SlotKey) :
    ¬ l.clear.Holds g k := by
  intro holds
  have bound := sound.past g _ holds
  have next : (l.generation + 1).toNat = l.generation.toNat + 1 := by
    rw [UInt64.toNat_add]
    exact Nat.mod_eq_of_lt room
  exact Nat.not_succ_le_self _ (next ▸ bound)

theorem Sound.clear (sound : Sound l) (room : l.generation.toNat + 1 < UInt64.size) : Sound l.clear := by
  have next : (l.generation + 1).toNat = l.generation.toNat + 1 := by
    rw [UInt64.toNat_add]
    exact Nat.mod_eq_of_lt room
  refine ⟨sound.numbered, ?_, ?_, fun _ found => by cases found⟩
  · intro g guard found
    exact Nat.le_trans (sound.past g guard found) (next ▸ Nat.le_succ _)
  · intro k
    have nobody : l.clear.holders k = ∅ := by
      refine holders_eq sound.numbered fun g => ?_
      simp only [Finset.notMem_empty, clear_holds sound room]
    rw [nobody]
    rfl

end Ledger

end Entitlement
