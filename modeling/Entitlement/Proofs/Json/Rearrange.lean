import Entitlement.Proofs.Json.Members
import Mathlib.Data.List.Nodup
import Mathlib.Data.List.Pairwise

/-!
The members of an object may change places, and others that the record does not know may come or go: the record stays
the same (`Accepts.rearranged`). Each change is shown to keep what it takes to be read, and the record it leads to.
-/

namespace Entitlement.Json

variable {σ : Type}

/-! ### What is set -/

/-- Fields of different names are found by them. -/
theorem find?_name {fields : List (Member σ)} (distinct : (fields.map Member.name).Nodup) {f : Member σ}
    (member : f ∈ fields) : fields.find? (fun g => g.name = f.name) = some f := by
  induction fields with
  | nil => cases member
  | cons g gs ih =>
    obtain ⟨other, distinctOthers⟩ := List.nodup_cons.mp distinct
    rw [List.find?_cons]
    rcases List.mem_cons.mp member with rfl | behind
    · rw [decide_eq_true rfl]
    · have differs : decide (g.name = f.name) = false :=
        decide_eq_false fun same => other (List.mem_map.mpr ⟨f, behind, same.symm⟩)
      rw [differs]
      exact ih distinctOthers behind

section Setting

variable {fields : List (Member σ)} {m : MemberText} {name : String}

theorem settingOf_of_find? (titled : m.title = some name) {f : Member σ}
    (found : fields.find? (fun f => f.name = name) = some f) :
    settingOf fields m = (valueOf f.read m.value).map fun set => some (name, set) := by
  rw [settingOf, titled]
  simp only [found]

theorem settingOf_foreign (titled : m.title = some name) (foreign : name ∉ fields.map Member.name) :
    settingOf fields m = some none := by
  have none : fields.find? (fun f => f.name = name) = none :=
    List.find?_eq_none.mpr fun f own => by
      rw [decide_eq_true_eq]
      exact fun same => foreign (List.mem_map.mpr ⟨f, own, same⟩)
  rw [settingOf, titled]
  simp only [none]

theorem settingOf_cases {setting : Option (String × (σ → σ))} (read : settingOf fields m = some setting) :
    ∃ name, m.title = some name ∧
      ((name ∉ fields.map Member.name ∧ setting = none) ∨
        ∃ f ∈ fields, f.name = name ∧ ∃ set, valueOf f.read m.value = some set ∧ setting = some (name, set)) := by
  unfold settingOf at read
  cases titled : m.title with
  | none =>
    rw [titled] at read
    cases read
  | some name =>
    rw [titled] at read
    cases found : fields.find? fun f => f.name = name with
    | none =>
      simp only [found, Option.some.injEq] at read
      refine ⟨name, rfl, Or.inl ⟨fun known => ?_, read.symm⟩⟩
      obtain ⟨f, own, same⟩ := List.mem_map.mp known
      exact List.find?_eq_none.mp found f own (decide_eq_true same)
    | some f =>
      simp only [found] at read
      obtain ⟨set, value, rfl⟩ := Option.map_eq_some_iff.mp read
      have same := List.find?_some found
      exact ⟨name, rfl, Or.inr ⟨f, List.mem_of_find?_eq_some found, of_decide_eq_true same, set, value, rfl⟩⟩

end Setting

def settings (fields : List (Member σ)) (ms : List MemberText) : List (String × (σ → σ)) :=
  ms.filterMap fun m => (settingOf fields m).join

/-- These members make the record `s`: all can be read, no field is set twice, none is missing that must not. -/
structure Accepts (fields : List (Member σ)) (start : σ) (ms : List MemberText) (s : σ) : Prop where
  readable : ∀ m ∈ ms, (settingOf fields m).isSome = true
  distinct : ((settings fields ms).map Prod.fst).Nodup
  complete : ∀ f ∈ fields, f.required = true → f.name ∈ (settings fields ms).map Prod.fst
  result : (settings fields ms).foldl (fun s e => e.2 s) start = s

section Settings

variable {fields : List (Member σ)} {m : MemberText} {ms : List MemberText}

theorem settings_cons_none (foreign : settingOf fields m = some none) :
    settings fields (m :: ms) = settings fields ms := by
  have nothing : (settingOf fields m).join = none := by rw [foreign]; rfl
  exact List.filterMap_cons_none nothing

theorem settings_cons_some {e : String × (σ → σ)} (sets : settingOf fields m = some (some e)) :
    settings fields (m :: ms) = e :: settings fields ms := by
  have something : (settingOf fields m).join = some e := by rw [sets]; rfl
  exact List.filterMap_cons_some something

theorem foldlM_takeMember_eq_some_iff {seen seen' : List String} {s s' : σ} (distinct : seen.Nodup) :
    ms.foldlM (takeMember fields) (seen, s) = some (seen', s') ↔
      (∀ m ∈ ms, (settingOf fields m).isSome = true) ∧ seen'.Nodup ∧
        ((settings fields ms).map Prod.fst).reverse ++ seen = seen' ∧
        (settings fields ms).foldl (fun s e => e.2 s) s = s' := by
  induction ms generalizing seen s with
  | nil =>
    show some (seen, s) = some (seen', s') ↔ _
    simp only [Option.some.injEq, Prod.mk.injEq, List.not_mem_nil, false_imp_iff, implies_true, settings,
      List.filterMap_nil, List.map_nil, List.reverse_nil, List.nil_append, List.foldl_nil, true_and]
    exact ⟨fun same => ⟨same.1 ▸ distinct, same⟩, fun all => all.2⟩
  | cons m ms ih =>
    rw [List.foldlM_cons, List.forall_mem_cons]
    rcases read : settingOf fields m with _ | _ | ⟨name, set⟩
    · have refused : takeMember fields (seen, s) m = none := by simp only [takeMember, read]
      rw [refused]
      constructor
      · intro taken
        cases taken
      · rintro ⟨⟨readable, _⟩, _⟩
        cases readable
    · have passed : takeMember fields (seen, s) m = some (seen, s) := by simp only [takeMember, read]
      rw [passed, settings_cons_none read]
      exact (ih distinct).trans (and_congr_left fun _ => ⟨fun others => ⟨rfl, others⟩, fun all => all.2⟩)
    · rw [settings_cons_some read, List.map_cons, List.reverse_cons, List.append_assoc, List.foldl_cons]
      by_cases known : name ∈ seen
      · have refused : takeMember fields (seen, s) m = none := by
          simp only [takeMember, read, if_pos (List.contains_iff_mem.mpr known)]
        rw [refused]
        constructor
        · intro taken
          cases taken
        · rintro ⟨_, unique, rfl, _⟩
          have twice := (List.nodup_append.mp unique).2.1
          exact ((List.nodup_cons.mp twice).1 known).elim
      · have taken : takeMember fields (seen, s) m = some (name :: seen, set s) := by
          have unseen : ¬ seen.contains name = true := fun contained => known (List.contains_iff_mem.mp contained)
          simp only [takeMember, read, if_neg unseen]
        rw [taken]
        exact (ih (List.nodup_cons.mpr ⟨known, distinct⟩)).trans
          (and_congr_left fun _ => ⟨fun others => ⟨rfl, others⟩, fun all => all.2⟩)

theorem incomplete_eq_false_iff {seen : List String} :
    incomplete fields seen = false ↔ ∀ f ∈ fields, f.required = true → f.name ∈ seen := by
  simp only [incomplete, List.any_eq_false, Bool.and_eq_true, Bool.not_eq_true', not_and, Bool.not_eq_false,
    List.contains_iff_mem]

theorem recordOf_eq_some_iff {start s : σ} : recordOf fields start ms = some s ↔ Accepts fields start ms s := by
  have complete {seen : List String} {s' : σ} :
      (if incomplete fields seen then none else some s') = some s ↔ incomplete fields seen = false ∧ s' = s := by
    cases incomplete fields seen <;> simp only [Bool.false_eq_true, ↓reduceIte, Option.some.injEq, true_and,
      reduceCtorEq, Bool.true_eq_false, false_and]
  simp only [recordOf, Option.bind_eq_some_iff, Prod.exists, foldlM_takeMember_eq_some_iff List.nodup_nil, complete,
    incomplete_eq_false_iff, List.append_nil]
  constructor
  · rintro ⟨_, _, ⟨readable, unique, rfl, rfl⟩, complete, result⟩
    exact ⟨readable, List.nodup_reverse.mp unique,
      fun f own required => List.mem_reverse.mp (complete f own required), result⟩
  · rintro ⟨readable, unique, complete, result⟩
    exact ⟨_, _, ⟨readable, List.nodup_reverse.mpr unique, rfl, rfl⟩,
      fun f own required => List.mem_reverse.mpr (complete f own required), result⟩

end Settings

/-! ### Fields -/

/-- Two fields that may be set in either order. -/
def Member.Commutes (f g : Member σ) : Prop :=
  ∀ ⦃v w : Bytes⦄ ⦃a b : σ → σ⦄, valueOf f.read v = some a → valueOf g.read w = some b → ∀ s, a (b s) = b (a s)

instance : Std.Symm (@Member.Commutes σ) where
  symm _ _ commutes _ _ _ _ left right s := (commutes right left s).symm

theorem commutes_of {α β : Type} {name name' : String} {required required' : Bool} {read : Bytes → Read α}
    {read' : Bytes → Read β} {set : α → σ → σ} {set' : β → σ → σ}
    (apart : ∀ a b s, set a (set' b s) = set' b (set a s)) :
    (Member.of name required read set).Commutes (Member.of name' required' read' set') := by
  intro v w f g left right s
  rw [valueOf_member] at left right
  obtain ⟨a, _, rfl⟩ := Option.map_eq_some_iff.mp left
  obtain ⟨b, _, rfl⟩ := Option.map_eq_some_iff.mp right
  exact apart a b s

theorem idle_of {α : Type} {name : String} {required : Bool} {read : Bytes → Read α} {set : Option α → σ → σ}
    {start : σ} (idle : set none start = start) :
    ∀ f, valueOf (Member.of name required (readOptional read) set).read (utf8 "null") = some f → f start = start := by
  intro f value
  rw [valueOf_member, valueOf_null, Option.map_some] at value
  obtain rfl := Option.some.inj value
  exact idle

/-- Fields as a record has them: each reads a value alike wherever it stands, and none gets in another one's way. -/
structure Lawful (fields : List (Member σ)) : Prop where
  steady : ∀ f ∈ fields, Steady f.read
  distinct : (fields.map Member.name).Nodup
  commute : fields.Pairwise Member.Commutes

section Changes

variable {fields : List (Member σ)} {start : σ} {m m' : MemberText} {ms ms' : List MemberText} {s : σ}

theorem mem_settings {e : String × (σ → σ)} (member : e ∈ settings fields ms) :
    ∃ m ∈ ms, m.title = some e.1 ∧ ∃ f ∈ fields, f.name = e.1 ∧ valueOf f.read m.value = some e.2 := by
  obtain ⟨m, own, join⟩ := List.mem_filterMap.mp member
  obtain ⟨setting, read, rfl⟩ : ∃ setting, settingOf fields m = some setting ∧ setting = some e := by
    cases read : settingOf fields m with
    | none => rw [read] at join; cases join
    | some setting => rw [read] at join; exact ⟨setting, rfl, join⟩
  obtain ⟨name, titled, ⟨_, nothing⟩ | ⟨f, field, same, set, value, sets⟩⟩ := settingOf_cases read
  · cases nothing
  · obtain rfl := Option.some.inj sets
    exact ⟨m, own, titled, f, field, same, value⟩

namespace Accepts

theorem required_member (accepts : Accepts fields start ms s) {f : Member σ} (field : f ∈ fields)
    (required : f.required = true) : ∃ m ∈ ms, m.title = some f.name := by
  obtain ⟨e, member, same⟩ := List.mem_map.mp (accepts.complete f field required)
  obtain ⟨m, own, titled, _⟩ := mem_settings member
  exact ⟨m, own, same ▸ titled⟩

theorem settings_commute (lawful : Lawful fields) (accepts : Accepts fields start ms s) {e e' : String × (σ → σ)}
    (member : e ∈ settings fields ms) (member' : e' ∈ settings fields ms) (s : σ) : e'.2 (e.2 s) = e.2 (e'.2 s) := by
  by_cases same : e = e'
  · rw [same]
  -- No name is there twice, so these are settings of two fields.
  obtain ⟨m, _, _, f, field, named, value⟩ := mem_settings member
  obtain ⟨m', _, _, f', field', named', value'⟩ := mem_settings member'
  have different : f' ≠ f := by
    rintro rfl
    exact same (List.inj_on_of_nodup_map accepts.distinct member member' (named.symm.trans named'))
  exact lawful.commute.forall field' field different value' value s

theorem moved (lawful : Lawful fields) (perm : ms.Perm ms') (accepts : Accepts fields start ms s) :
    Accepts fields start ms' s where
  readable m own := accepts.readable m (perm.mem_iff.mpr own)
  distinct := ((perm.filterMap _).map _).nodup_iff.mp accepts.distinct
  complete f own required := ((perm.filterMap _).map _).mem_iff.mp (accepts.complete f own required)
  result := by
    have same : (settings fields ms).foldl (fun s e => e.2 s) start =
        (settings fields ms').foldl (fun s e => e.2 s) start :=
      (perm.filterMap _).foldl_eq' (fun e member e' member' s => accepts.settings_commute lawful member member' s) start
    exact same.symm.trans accepts.result

theorem foreign_iff (foreign : settingOf fields m = some none) :
    Accepts fields start (m :: ms) s ↔ Accepts fields start ms s := by
  have same : settings fields (m :: ms) = settings fields ms := settings_cons_none foreign
  constructor
  · rintro ⟨readable, distinct, complete, result⟩
    rw [same] at distinct complete result
    exact ⟨fun m own => readable m (List.mem_cons_of_mem _ own), distinct, complete, result⟩
  · rintro ⟨readable, distinct, complete, result⟩
    rw [← same] at distinct complete result
    exact ⟨List.forall_mem_cons.mpr ⟨by rw [foreign]; rfl, readable⟩, distinct, complete, result⟩

theorem dropped {name : String} {set : σ → σ} (sets : settingOf fields m = some (some (name, set)))
    (optional : ∀ f ∈ fields, f.required = true → f.name ≠ name) (idle : set start = start)
    (accepts : Accepts fields start (m :: ms) s) : Accepts fields start ms s := by
  obtain ⟨readable, distinct, complete, result⟩ := accepts
  rw [settings_cons_some sets] at distinct complete result
  refine ⟨fun m own => readable m (List.mem_cons_of_mem _ own), (List.nodup_cons.mp distinct).2,
    fun f own required => ?_, ?_⟩
  · exact (List.mem_cons.mp (complete f own required)).resolve_left (optional f own required)
  · have rest : (settings fields ms).foldl (fun s e => e.2 s) (set start) = s := result
    rwa [idle] at rest

theorem changed (same : settingOf fields m' = settingOf fields m) (accepts : Accepts fields start (m :: ms) s) :
    Accepts fields start (m' :: ms) s := by
  have settings : settings fields (m' :: ms) = settings fields (m :: ms) := by
    simp only [Json.settings, List.filterMap_cons, same]
  obtain ⟨readable, distinct, complete, result⟩ := accepts
  rw [← settings] at distinct complete result
  obtain ⟨first, others⟩ := List.forall_mem_cons.mp readable
  exact ⟨List.forall_mem_cons.mpr ⟨same ▸ first, others⟩, distinct, complete, result⟩

theorem countP_le_one (accepts : Accepts fields start ms s) {name : String} (known : name ∈ fields.map Member.name) :
    ms.countP (fun m => m.title = some name) ≤ 1 := by
  have settled (ms : List MemberText) (readable : ∀ m ∈ ms, (settingOf fields m).isSome = true) :
      ms.countP (fun m => m.title = some name) = ((settings fields ms).map Prod.fst).count name := by
    induction ms with
    | nil => rfl
    | cons m ms ih =>
      obtain ⟨first, others⟩ := List.forall_mem_cons.mp readable
      obtain ⟨setting, read⟩ := Option.isSome_iff_exists.mp first
      obtain ⟨name', titled, ⟨foreign, rfl⟩ | ⟨f, _, _, set, _, rfl⟩⟩ := settingOf_cases read
      · have other : ¬ name' = name := fun same => foreign (same ▸ known)
        rw [List.countP_cons, settings_cons_none read, ih others, titled]
        simp only [Option.some.injEq, other, decide_false, Bool.false_eq_true, ↓reduceIte, Nat.add_zero]
      · rw [List.countP_cons, settings_cons_some read, List.map_cons, List.count_cons, ih others, titled]
        simp only [Option.some.injEq, decide_eq_true_eq, beq_iff_eq]
  rw [settled ms accepts.readable]
  exact List.nodup_iff_count_le_one.mp accepts.distinct name

end Accepts

end Changes

/-! ### Rearranging -/

def MemberText.Foreign (known : List String) (m : MemberText) : Prop := ∃ name, m.title = some name ∧ name ∉ known

/-- One row of members made from another: moved about, with unknown ones and nulls come or gone, others written
otherwise or replaced `within` their field. -/
inductive Rearranged (known optional : List String) (within : String → Bytes → Bytes → Prop) :
    List MemberText → List MemberText → Prop
  | moved {ms ms' : List MemberText} (perm : ms.Perm ms') : Rearranged known optional within ms ms'
  | added {m : MemberText} {ms : List MemberText} (formed : m.Formed) (foreign : m.Foreign known) :
      Rearranged known optional within ms (m :: ms)
  | removed {m : MemberText} {ms : List MemberText} (foreign : m.Foreign known) :
      Rearranged known optional within (m :: ms) ms
  | dropped {m : MemberText} {ms : List MemberText} {name : String} (mayMiss : name ∈ optional)
      (titled : m.title = some name) (null : m.value = utf8 "null") : Rearranged known optional within (m :: ms) ms
  | changed {m m' : MemberText} {ms : List MemberText} (formed : m'.Formed) (same : m'.title = m.title)
      (alike : m'.value = m.value ∨ ∃ name, m.title = some name ∧ within name m.value m'.value) :
      Rearranged known optional within (m :: ms) (m' :: ms)
  | trans {ms ms' ms'' : List MemberText} (first : Rearranged known optional within ms ms')
      (second : Rearranged known optional within ms' ms'') : Rearranged known optional within ms ms''

section Rearranged

variable {known optional : List String} {within : String → Bytes → Bytes → Prop} {ms ms' : List MemberText}

theorem Rearranged.formed (rearranged : Rearranged known optional within ms ms') (formed : ∀ m ∈ ms, m.Formed) :
    ∀ m ∈ ms', m.Formed := by
  induction rearranged with
  | moved perm => exact fun m own => formed m (perm.mem_iff.mpr own)
  | added first _ => exact List.forall_mem_cons.mpr ⟨first, formed⟩
  | removed _ => exact (List.forall_mem_cons.mp formed).2
  | dropped _ _ _ => exact (List.forall_mem_cons.mp formed).2
  | changed first _ _ => exact List.forall_mem_cons.mpr ⟨first, (List.forall_mem_cons.mp formed).2⟩
  | trans _ _ first second => exact second (first formed)

variable {fields : List (Member σ)} {start s : σ}

theorem Accepts.rearranged (lawful : Lawful fields)
    (idle : ∀ name ∈ optional, ∃ f ∈ fields, f.name = name ∧ f.required = false ∧
      ∀ set, valueOf f.read (utf8 "null") = some set → set start = start)
    (nested : ∀ f ∈ fields, ∀ v v', within f.name v v' → ∀ set, valueOf f.read v = some set →
      valueOf f.read v' = some set)
    (rearranged : Rearranged (fields.map Member.name) optional within ms ms') (accepts : Accepts fields start ms s) :
    Accepts fields start ms' s := by
  induction rearranged with
  | moved perm => exact accepts.moved lawful perm
  | added _ foreign =>
    obtain ⟨name, titled, unknown⟩ := foreign
    exact (Accepts.foreign_iff (settingOf_foreign titled unknown)).mpr accepts
  | removed foreign =>
    obtain ⟨name, titled, unknown⟩ := foreign
    exact (Accepts.foreign_iff (settingOf_foreign titled unknown)).mp accepts
  | @dropped m ms name mayMiss titled null =>
    obtain ⟨f, field, rfl, notRequired, idle⟩ := idle name mayMiss
    have read := settingOf_of_find? titled (find?_name lawful.distinct field)
    have readable := accepts.readable m List.mem_cons_self
    rw [null] at read
    rw [read, Option.isSome_map] at readable
    obtain ⟨set, value⟩ := Option.isSome_iff_exists.mp readable
    rw [value, Option.map_some] at read
    -- A required field of that name would be this one, which is not.
    refine accepts.dropped read (fun g other required same => ?_) (idle set value)
    rw [List.inj_on_of_nodup_map lawful.distinct other field same, notRequired] at required
    cases required
  | @changed m m' ms _ same alike =>
    refine accepts.changed ?_
    rcases alike with unchanged | ⟨name, titled, within⟩
    · rw [settingOf, settingOf, same, unchanged]
    · obtain ⟨setting, read⟩ := Option.isSome_iff_exists.mp (accepts.readable m List.mem_cons_self)
      obtain ⟨name', titled', ⟨foreign, rfl⟩ | ⟨f, field, rfl, set, value, rfl⟩⟩ := settingOf_cases read
      · rw [read, settingOf_foreign (same.trans titled') foreign]
      · obtain rfl : name = f.name := Option.some.inj (titled.symm.trans titled')
        rw [read, settingOf_of_find? (same.trans titled') (find?_name lawful.distinct field),
          nested f field _ _ within set value]
        rfl
  | trans _ _ first second => exact second (first accepts)

end Rearranged

/-! ### Texts -/

/-- A text that is one object, within blanks. -/
structure ObjectText where
  before : Bytes := []
  members : List MemberText
  gap : Bytes := []
  after : Bytes := []

namespace ObjectText

def text (t : ObjectText) : Bytes := t.before ++ (objectText t.members t.gap ++ t.after)

structure Spaced (t : ObjectText) : Prop where
  before : IsBlanks t.before
  gap : IsBlanks t.gap
  after : IsBlanks t.after

structure Formed (t : ObjectText) : Prop where
  spaced : t.Spaced
  members : ∀ m ∈ t.members, m.Formed

theorem parseRecord_iff {fields : List (Member σ)} (lawful : Lawful fields) {start s : σ} {t : ObjectText}
    (formed : t.Formed) : parseRecord fields start t.text = .ok s ↔ Accepts fields start t.members s := by
  obtain ⟨⟨before, gap, after⟩, members⟩ := formed
  exact (parseRecord_object lawful.steady start members before gap after).trans recordOf_eq_some_iff

end ObjectText

end Entitlement.Json
