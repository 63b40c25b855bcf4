import Entitlement.Config.Load
import Entitlement.Proofs.Outcome

/-!
Which layer a setting comes from: the last environment variable that sets it, if there is one, else the file. An entry
that names a place inside a setting sets it too, so only entries of other settings leave it alone.
-/

namespace Entitlement

namespace Setting

theorem ofText_ne_table (s : String) (entries : List (String × Setting)) : ofText s ≠ .table entries := by
  unfold ofText
  dsimp only
  split
  · exact nofun
  split
  · exact nofun
  split
  · exact nofun
  split
  · exact nofun
  · exact nofun

end Setting

namespace Settings

variable {settings : Settings} {key : String}

/-- The setting that an entry is for, as a whole or a place inside it. -/
def settingNamed (name : String) : String := Text.lower (splitName name).1

/-- The setting that an environment variable is for, as a whole or a place inside it. -/
def settingOf? (name : String) : Option String :=
  (keyOfVariable? name).map fun key => Text.lower (splitName key).1

theorem find?_assign_of_ne {name : String} (other : settingNamed name ≠ key) (found : FoundSetting) :
    (settings.assign name found).find? key = settings.find? key := by
  unfold assign
  dsimp only
  split
  · exact Table.find?_insert_of_ne _ other.symm
  · exact Table.find?_insert_of_ne _ other.symm
  · split
    · rfl
    · exact Table.find?_insert_of_ne _ other.symm
  · exact Table.find?_insert_of_ne _ other.symm

/-- A name that is a key as a whole gets the value, unless tables are to be merged. -/
theorem find?_assign_self {name : String} (whole : (splitName name).2 = []) {found : FoundSetting}
    (single : ∀ entries, found.value ≠ .table entries) :
    (settings.assign name found).find? (settingNamed name) = some found := by
  unfold assign
  dsimp only
  rw [whole]
  split
  · next table =>
    cases table
  · next table =>
    cases table
  · next entries _ table => exact (single entries table).elim
  · exact Table.find?_insert_self ..

/-! ### Entries -/

variable {origin : SettingOrigin}

theorem find?_withEntries_of_ne {entries : List (String × Setting)} (others : ∀ e ∈ entries, settingNamed e.1 ≠ key) :
    (settings.withEntries origin entries).find? key = settings.find? key := by
  induction entries generalizing settings with
  | nil => rfl
  | cons e entries ih =>
    obtain ⟨first, rest⟩ := List.forall_mem_cons.mp others
    exact (ih rest).trans (find?_assign_of_ne first _)

/-- The last entry for a setting decides, if it is for the setting as a whole. -/
theorem find?_withEntries_last {name : String} {value : Setting} {before after : List (String × Setting)}
    (named : settingNamed name = key) (whole : (splitName name).2 = []) (single : ∀ entries, value ≠ .table entries)
    (last : ∀ e ∈ after, settingNamed e.1 ≠ key) :
    (settings.withEntries origin (before ++ (name, value) :: after)).find? key = some ⟨value, some origin⟩ := by
  have apart : settings.withEntries origin (before ++ (name, value) :: after) =
      ((settings.withEntries origin before).assign name ⟨value, some origin⟩).withEntries origin after :=
    List.foldl_append
  rw [apart, find?_withEntries_of_ne last, ← named]
  exact find?_assign_self whole single

/-! ### The environment -/

/-- What an environment variable says as an entry, if it is one of ours. -/
def entryOf? (v : String × String) : Option (String × Setting) :=
  (keyOfVariable? v.1).map fun key => (key, .ofText v.2)

theorem withEnvironment_eq (settings : Settings) (environment : List (String × String)) :
    settings.withEnvironment environment = settings.withEntries .environment (environment.filterMap entryOf?) := by
  rw [withEnvironment, withEntries, List.foldl_filterMap]
  congr
  funext s v
  rw [entryOf?]
  cases keyOfVariable? v.1 <;> rfl

theorem settingOf?_entry {v : String × String} {e : String × Setting} (entry : entryOf? v = some e) :
    settingOf? v.1 = some (settingNamed e.1) := by
  obtain ⟨key, ours, rfl⟩ := Option.map_eq_some_iff.mp entry
  rw [settingOf?, ours]
  rfl

/-- Variables for other settings are entries for other settings. -/
theorem others_of_variables {environment : List (String × String)}
    (others : ∀ e ∈ environment, settingOf? e.1 ≠ some key) :
    ∀ e ∈ environment.filterMap entryOf?, settingNamed e.1 ≠ key := by
  intro e member same
  obtain ⟨v, own, entry⟩ := List.mem_filterMap.mp member
  exact others v own (same ▸ settingOf?_entry entry)

theorem find?_withEnvironment_of_ne {environment : List (String × String)}
    (others : ∀ e ∈ environment, settingOf? e.1 ≠ some key) :
    (settings.withEnvironment environment).find? key = settings.find? key := by
  rw [withEnvironment_eq, find?_withEntries_of_ne (others_of_variables others)]

/-- The last variable for a setting decides, if it is for the setting as a whole. -/
theorem find?_withEnvironment_last {name value : String} {before after : List (String × String)}
    (ours : keyOfVariable? name = some key) (whole : splitName key = (key, [])) (small : Text.lower key = key)
    (last : ∀ e ∈ after, settingOf? e.1 ≠ some key) :
    (settings.withEnvironment (before ++ (name, value) :: after)).find? key =
      some ⟨.ofText value, some .environment⟩ := by
  have entry : entryOf? (name, value) = some (key, .ofText value) := by rw [entryOf?, ours]; rfl
  have named : settingNamed key = key := by rw [settingNamed, whole, small]
  rw [withEnvironment_eq, List.filterMap_append, List.filterMap_cons_some entry]
  exact find?_withEntries_last named (congrArg Prod.snd whole) (Setting.ofText_ne_table value)
    (others_of_variables last)

end Settings

end Entitlement
