import Entitlement.Proofs.HttpReply
import Entitlement.Proofs.Json.StrictRecord

/-!
The reply to a check says the same in whatever order its members stand, and whatever else the authority puts between
them (`CheckReply.members_rearranged`).
-/

namespace Entitlement

open Json (Lawful Member MemberText ObjectText IsBlanks objectText valueOf)

/-! ### The fields of a reply -/

theorem Quota.lawful_fields : Lawful Quota.fields where
  steady := by
    simp only [Quota.fields, List.forall_mem_cons]
    exact ⟨Json.steady_readInt64.member _ _ _, Json.steady_readInt64.member _ _ _, Json.steady_readInt64.member _ _ _,
      Json.steady_readInt64.member _ _ _, fun _ none => nomatch none⟩
  distinct := by
    show ["limit", "used", "remaining", "reset_at"].Nodup
    decide
  commute := by
    simp only [Quota.fields, List.pairwise_cons, List.forall_mem_cons, List.not_mem_nil, false_imp_iff, implies_true,
      and_true, List.Pairwise.nil]
    and_intros
    all_goals exact Json.commutes_of fun _ _ _ => rfl

theorem CheckReply.lawful_fields : Lawful CheckReply.fields where
  steady := by
    simp only [CheckReply.fields, List.forall_mem_cons]
    exact ⟨Json.steady_readText.member _ _ _, Json.steady_readBool.member _ _ _,
      Json.steady_readText.optional.member _ _ _,
      (Json.steady_readRecord Quota.lawful_fields.steady _).optional.member _ _ _,
      Json.steady_readInt64.optional.member _ _ _, Json.steady_readFloat.optional.member _ _ _,
      Json.steady_readInt64.optional.member _ _ _, Json.steady_readInt64.optional.member _ _ _,
      fun _ none => nomatch none⟩
  distinct := by
    show ["feature_id", "enabled", "reason", "quota_info", "max_capacity", "max_tps", "max_concurrency",
      "cache_ttl"].Nodup
    decide
  commute := by
    simp only [CheckReply.fields, List.pairwise_cons, List.forall_mem_cons, List.not_mem_nil, false_imp_iff,
      implies_true, and_true, List.Pairwise.nil]
    and_intros
    all_goals exact Json.commutes_of fun _ _ _ => rfl

theorem Quota.strict_fields : ∀ f ∈ Quota.fields, Json.Strict f.read := by
  simp only [Quota.fields, List.forall_mem_cons]
  exact ⟨Json.strict_readInt64.member _ _ _, Json.strict_readInt64.member _ _ _, Json.strict_readInt64.member _ _ _,
    Json.strict_readInt64.member _ _ _, List.forall_mem_nil _⟩

theorem CheckReply.strict_fields : ∀ f ∈ CheckReply.fields, Json.Strict f.read := by
  simp only [CheckReply.fields, List.forall_mem_cons]
  exact ⟨Json.strict_readText.member _ _ _, Json.strict_readBool.member _ _ _,
    Json.strict_readText.optional.member _ _ _,
    (Json.strict_readRecord Quota.strict_fields _).optional.member _ _ _,
    Json.strict_readInt64.optional.member _ _ _, Json.strict_readFloat.optional.member _ _ _,
    Json.strict_readInt64.optional.member _ _ _, Json.strict_readInt64.optional.member _ _ _, List.forall_mem_nil _⟩

/-- The names that mean something in a quota. -/
def Quota.names : List String := ["limit", "used", "remaining", "reset_at"]

namespace CheckReply

def names : List String :=
  ["feature_id", "enabled", "reason", "quota_info", "max_capacity", "max_tps", "max_concurrency", "cache_ttl"]

/-- Those whose value may be null. -/
def nullable : List String := ["reason", "quota_info", "max_capacity", "max_tps", "max_concurrency", "cache_ttl"]

end CheckReply

/-! ### Rearranging -/

/-- An object made from another one by moving its members about, and by adding or removing some that mean nothing in a
quota. -/
def Quota.Rearranged (v v' : Bytes) : Prop :=
  ∃ (ms ms' : List MemberText) (gap gap' : Bytes), v = objectText ms gap ∧ v' = objectText ms' gap' ∧
    (∀ m ∈ ms, m.Formed) ∧ IsBlanks gap ∧ IsBlanks gap' ∧ Json.Rearranged Quota.names [] (fun _ _ _ => False) ms ms'

namespace CheckReply

/-- The same for a reply, where a null may be left out too, and where the quota may be rearranged as well. -/
def Rearranged (ms ms' : List MemberText) : Prop :=
  Json.Rearranged names nullable (fun name v v' => name = "quota_info" ∧ Quota.Rearranged v v') ms ms'

theorem mem_fields (i : Fin 8) : fields.get i ∈ fields := List.get_mem fields i

theorem null_idle : ∀ name ∈ nullable, ∃ f ∈ fields, f.name = name ∧ f.required = false ∧
    ∀ set, valueOf f.read (utf8 "null") = some set → set {} = {} := by
  simp only [nullable, List.forall_mem_cons]
  exact ⟨⟨_, mem_fields 2, rfl, rfl, Json.idle_of rfl⟩, ⟨_, mem_fields 3, rfl, rfl, Json.idle_of rfl⟩,
    ⟨_, mem_fields 4, rfl, rfl, Json.idle_of rfl⟩, ⟨_, mem_fields 5, rfl, rfl, Json.idle_of rfl⟩,
    ⟨_, mem_fields 6, rfl, rfl, Json.idle_of rfl⟩, ⟨_, mem_fields 7, rfl, rfl, Json.idle_of rfl⟩,
    fun _ none => nomatch none⟩

section Quota

variable {f : Member CheckReply} (own : f ∈ fields) (named : f.name = "quota_info") {qs : List MemberText}
  (formed : ∀ q ∈ qs, q.Formed) {gap : Bytes} (blank : IsBlanks gap)
include own named formed blank

theorem valueOf_quota : valueOf f.read (objectText qs gap) =
    (Json.recordOf Quota.fields Quota.unread qs).map fun q r => { r with quota := some q } := by
  obtain rfl : f = fields.get (3 : Fin 8) := List.inj_on_of_nodup_map lawful_fields.distinct own (mem_fields 3) named
  have present : valueOf (Json.readOptional (Json.readRecord Quota.fields Quota.unread)) (objectText qs gap) =
      (valueOf (Json.readRecord Quota.fields Quota.unread) (objectText qs gap)).map some := by
    show ((Json.readRecord Quota.fields Quota.unread (objectText qs gap)).map fun (q, r) => (some q, r)).toOption.map
      Prod.fst = _
    unfold valueOf
    rcases Json.readRecord Quota.fields Quota.unread (objectText qs gap) with e | ⟨q, r⟩ <;> rfl
  refine (Json.valueOf_member ..).trans ?_
  rw [present, Json.valueOf_object Quota.lawful_fields.steady _ formed blank, Option.map_map]
  rfl

theorem quota_accepted {set : CheckReply → CheckReply} (value : valueOf f.read (objectText qs gap) = some set) :
    ∃ q, Json.Accepts Quota.fields Quota.unread qs q ∧ set = fun r => { r with quota := some q } := by
  rw [valueOf_quota own named formed blank] at value
  obtain ⟨q, record, rfl⟩ := Option.map_eq_some_iff.mp value
  exact ⟨q, Json.recordOf_eq_some_iff.mp record, rfl⟩

end Quota

theorem quota_rearranged {f : Member CheckReply} (own : f ∈ fields) {v v' : Bytes}
    (rearranged : f.name = "quota_info" ∧ Quota.Rearranged v v') {set : CheckReply → CheckReply}
    (value : valueOf f.read v = some set) : valueOf f.read v' = some set := by
  obtain ⟨named, qs, qs', gap, gap', rfl, rfl, formed, blank, blank', rearranged⟩ := rearranged
  obtain ⟨q, accepts, rfl⟩ := quota_accepted own named formed blank value
  have still := accepts.rearranged Quota.lawful_fields (List.forall_mem_nil _) (fun _ _ _ _ none => none.elim)
    rearranged
  rw [valueOf_quota own named (rearranged.formed formed) blank', Json.recordOf_eq_some_iff.mpr still]
  rfl

/-! ### Replies -/

theorem ofJson_iff {t : ObjectText} (formed : t.Formed) {r : CheckReply} :
    ofJson t.text = .ok r ↔ Json.Accepts fields {} t.members r :=
  ObjectText.parseRecord_iff lawful_fields formed

theorem refused_of {t : ObjectText} (formed : t.Formed) (never : ∀ r, ¬ Json.Accepts fields {} t.members r) :
    ∃ f, ofJson t.text = .error f := by
  cases read : ofJson t.text with
  | error f => exact ⟨f, rfl⟩
  | ok r => exact (never r ((ofJson_iff formed).mp read)).elim

theorem toGrant_complete {body : Bytes} {r : CheckReply} (read : ofJson body = .ok r) :
    (HttpReply.complete HttpReply.success body).toGrant = .ok r.toGrant :=
  HttpReply.toGrant_eq_ok_iff.mpr ⟨rfl, r, read, rfl⟩

/-- Neither the order of its members nor others that mean nothing change what a reply says. A member that means
something stands there once at most. -/
theorem members_rearranged :
    (∀ {body : Bytes} {r}, ofJson body = .ok r → (Json.skipBlank body).head? = some (Json.code '\x7b') →
      ∃ t : ObjectText, t.Formed ∧ t.text = body) ∧
    (∀ {t t' : ObjectText}, t.Formed → t'.Spaced → Rearranged t.members t'.members → ∀ {r}, ofJson t.text = .ok r →
      ofJson t'.text = .ok r ∧ ∀ body ∈ [t.text, t'.text],
        (HttpReply.complete HttpReply.success body).toGrant = .ok r.toGrant) ∧
    (∀ {t : ObjectText}, t.Formed → ∀ name ∈ names, 1 < t.members.countP (fun m => m.title = some name) →
      ∃ f, ofJson t.text = .error f) ∧
    (∀ {t : ObjectText}, t.Formed → ∀ m ∈ t.members, m.title = some "quota_info" → ∀ {qs gap},
      m.value = objectText qs gap → (∀ q ∈ qs, q.Formed) → IsBlanks gap → ∀ name ∈ Quota.names,
      1 < qs.countP (fun q => q.title = some name) → ∃ f, ofJson t.text = .error f) ∧
    (∀ {t : ObjectText}, t.Formed → (∀ m ∈ t.members, m.title ≠ some "enabled") → ∃ f, ofJson t.text = .error f) := by
  refine ⟨Json.exists_objectText strict_fields, ?_, ?_, ?_, ?_⟩
  · intro t t' formed spaced rearranged r read
    have formed' : t'.Formed := ⟨spaced, rearranged.formed formed.members⟩
    have still : Json.Accepts fields {} t'.members r :=
      ((ofJson_iff formed).mp read).rearranged lawful_fields null_idle
        (fun f own v v' within set value => quota_rearranged own within value) rearranged
    have read' := (ofJson_iff formed').mpr still
    refine ⟨read', List.forall_mem_cons.mpr ⟨toGrant_complete read, ?_⟩⟩
    exact List.forall_mem_cons.mpr ⟨toGrant_complete read', fun _ none => nomatch none⟩
  · intro t formed name known twice
    exact refused_of formed fun r accepts => Nat.not_lt.mpr (accepts.countP_le_one known) twice
  · intro t formed m own titled qs gap same each blank name known twice
    refine refused_of formed fun r accepts => ?_
    obtain ⟨setting, read⟩ := Option.isSome_iff_exists.mp (accepts.readable m own)
    obtain ⟨name', titled', ⟨foreign, _⟩ | ⟨f, field, named, set, value, _⟩⟩ := Json.settingOf_cases read
    · obtain rfl : "quota_info" = name' := Option.some.inj (titled.symm.trans titled')
      exact foreign (List.mem_map_of_mem (mem_fields 3))
    · obtain rfl : "quota_info" = name' := Option.some.inj (titled.symm.trans titled')
      rw [same] at value
      obtain ⟨q, accepted, _⟩ := quota_accepted field named each blank value
      exact Nat.not_lt.mpr (accepted.countP_le_one known) twice
  · intro t formed missing
    refine refused_of formed fun r accepts => ?_
    obtain ⟨m, own, titled⟩ := accepts.required_member (mem_fields 1) rfl
    exact missing m own titled

/-- A member without blanks, whose name has no escapes. -/
def plainMember (name : String) (value : Bytes) : MemberText := { name := utf8 name, value := value }

theorem plainMember_formed {name : String} {value : Bytes} (plain : (utf8 name).all Json.isPlain = true)
    (valid : Json.IsValue value) : (plainMember name value).Formed where
  spaced := ⟨Json.isBlanks_nil, Json.isContent_plain (List.all_eq_true.mp plain), Json.isBlanks_nil, Json.isBlanks_nil,
    Json.isBlanks_nil⟩
  value := valid

def enabledMember : MemberText := plainMember "enabled" (utf8 "true")

def quotaMembers : List MemberText :=
  [plainMember "limit" (utf8 "10"), plainMember "used" (utf8 "3"), plainMember "remaining" (utf8 "7"),
    plainMember "reset_at" (utf8 "0")]

def remark : MemberText :=
  plainMember "remark" (Json.listText [{ value := objectText [plainMember "limit" (Json.listText [] [])] [] }] [])

def sentReply : ObjectText where
  members := [plainMember "max_capacity" (utf8 "null"), enabledMember,
    plainMember "quota_info" (objectText quotaMembers [])]

def rearrangedReply : ObjectText where
  before := [0x0A]
  members := [remark, plainMember "quota_info" (objectText (remark :: quotaMembers.reverse) [0x20]), enabledMember]
  gap := [0x0A]

theorem quotaMembers_formed : ∀ q ∈ quotaMembers, q.Formed := by
  simp only [quotaMembers, List.forall_mem_cons]
  refine ⟨plainMember_formed (by decide) ?_, plainMember_formed (by decide) ?_, plainMember_formed (by decide) ?_,
    plainMember_formed (by decide) ?_, List.forall_mem_nil _⟩
  all_goals exact .positive (Json.isMagnitude_digits ⟨⟨by decide, List.all_eq_true.mp (by decide)⟩, by decide⟩)

theorem remark_formed : remark.Formed := by
  have inner : (plainMember "limit" (Json.listText [] [])).Formed :=
    plainMember_formed (by decide) (.list (List.forall_mem_nil _) (List.forall_mem_nil _) Json.isBlanks_nil)
  have object : Json.IsValue (objectText [plainMember "limit" (Json.listText [] [])] []) :=
    Json.isValue_object (List.forall_mem_singleton.mpr inner) Json.isBlanks_nil
  refine plainMember_formed (by decide) (.list ?_ ?_ Json.isBlanks_nil)
  · exact List.forall_mem_singleton.mpr ⟨Json.isBlanks_nil, Json.isBlanks_nil⟩
  · exact List.forall_mem_singleton.mpr object

theorem enabledMember_formed : enabledMember.Formed := plainMember_formed (by decide) (.word (by decide))

theorem quotaMember_formed {qs : List MemberText} (formed : ∀ q ∈ qs, q.Formed) {gap : Bytes} (blank : IsBlanks gap) :
    (plainMember "quota_info" (objectText qs gap)).Formed :=
  plainMember_formed (by decide) (Json.isValue_object formed blank)

theorem sentReply_members : ∀ m ∈ sentReply.members, m.Formed := by
  simp only [sentReply, List.forall_mem_cons]
  exact ⟨plainMember_formed (by decide) (.word (by decide)), enabledMember_formed,
    quotaMember_formed quotaMembers_formed Json.isBlanks_nil, List.forall_mem_nil _⟩

theorem sentReply_rearranged : Rearranged sentReply.members rearrangedReply.members := by
  have foreign {known : List String} (other : "remark" ∉ known) : remark.Foreign known :=
    ⟨"remark", by decide +kernel, other⟩
  have quota : Quota.Rearranged (objectText quotaMembers []) (objectText (remark :: quotaMembers.reverse) [0x20]) :=
    ⟨quotaMembers, _, [], [0x20], rfl, rfl, quotaMembers_formed, Json.isBlanks_nil, by decide,
      .trans (.moved (List.reverse_perm _).symm) (.added remark_formed (foreign (by decide)))⟩
  have formed : ∀ q ∈ remark :: quotaMembers.reverse, q.Formed :=
    List.forall_mem_cons.mpr ⟨remark_formed, fun q own => quotaMembers_formed q (List.mem_reverse.mp own)⟩
  refine .trans (.dropped (show "max_capacity" ∈ nullable by decide) (by decide +kernel) rfl) ?_
  refine .trans (.moved (.swap _ _ _)) ?_
  refine .trans (.changed (quotaMember_formed formed (by decide)) rfl
    (Or.inr ⟨"quota_info", by decide +kernel, rfl, quota⟩)) ?_
  exact .added remark_formed (foreign (by decide))

/-- In either form it is the same reply. With the feature enabled twice, or each number of its quota given twice, or
without the feature being enabled, it would be none. -/
theorem sentReply_stays :
    (∃ r, ofJson sentReply.text = .ok r ∧ ofJson rearrangedReply.text = .ok r ∧ r.enabled = true ∧
      r.quota = some ⟨10, 3, 7, 0⟩ ∧ ∃ t : ObjectText, t.Formed ∧ t.text = rearrangedReply.text) ∧
    (∃ f, ofJson (ObjectText.text { members := enabledMember :: sentReply.members }) = .error f) ∧
    (∃ f, ofJson (ObjectText.text { members := [enabledMember,
      plainMember "quota_info" (objectText (quotaMembers ++ quotaMembers) [])] }) = .error f) ∧
    ∃ f, ofJson (ObjectText.text { members := sentReply.members.take 1 }) = .error f := by
  obtain ⟨grammar, stays, twice, twiceInQuota, missing⟩ := members_rearranged
  have formed {ms : List MemberText} (each : ∀ m ∈ ms, m.Formed) : ObjectText.Formed { members := ms } :=
    ⟨⟨Json.isBlanks_nil, Json.isBlanks_nil, Json.isBlanks_nil⟩, each⟩
  have doubled : ∀ q ∈ quotaMembers ++ quotaMembers, q.Formed :=
    List.forall_mem_append.mpr ⟨quotaMembers_formed, quotaMembers_formed⟩
  refine ⟨?_, ?_, ?_, ?_⟩
  · have read : (ofJson sentReply.text).toOption.map (fun r => (r.enabled, r.quota)) =
        some (true, some ⟨10, 3, 7, 0⟩) := by decide +kernel
    obtain ⟨r, accepted, same⟩ := Option.map_eq_some_iff.mp read
    have read := ok_of_toOption accepted
    have still := stays (formed sentReply_members) ⟨by decide, by decide, by decide⟩ sentReply_rearranged read
    exact ⟨r, read, still.1, congrArg Prod.fst same, congrArg Prod.snd same, grammar still.1 (by decide +kernel)⟩
  · exact twice (formed (List.forall_mem_cons.mpr ⟨enabledMember_formed, sentReply_members⟩)) "enabled" (by decide)
      (by decide +kernel)
  · refine twiceInQuota (formed ?_) _ (List.mem_cons_of_mem _ (List.mem_singleton.mpr rfl)) (by decide +kernel) rfl
      doubled Json.isBlanks_nil "limit" (by decide) (by decide +kernel)
    exact List.forall_mem_cons.mpr ⟨enabledMember_formed,
      List.forall_mem_singleton.mpr (quotaMember_formed doubled Json.isBlanks_nil)⟩
  · exact missing (formed fun m own => sentReply_members m (List.mem_of_mem_take own)) (by decide +kernel)

end CheckReply

end Entitlement
