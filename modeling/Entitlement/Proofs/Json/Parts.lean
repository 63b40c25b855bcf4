import Entitlement.Proofs.Json.Skip
import Mathlib.Data.List.TakeWhile

/-!
A list or an object as it is met from the left, one part after the other (`IsBody`, `IsTail`), and what that says of the
whole (`IsBody.exists_members`, `IsBody.isValueUpTo`).
-/

namespace Entitlement.Json

theorem exists_blanks {bs : Bytes} {b : UInt8} {r : Bytes} (begins : skipBlank bs = b :: r) :
    ∃ ws, IsBlanks ws ∧ bs = ws ++ b :: r :=
  ⟨bs.takeWhile isBlank, fun _ => List.mem_takeWhile_imp, begins ▸ List.takeWhile_append_dropWhile.symm⟩

/-- Up to `rest`, these bytes are one value behind blanks. -/
def IsValueUpTo (bs rest : Bytes) : Prop := ∃ ws v, IsBlanks ws ∧ IsValue v ∧ bs = ws ++ (v ++ rest)

/-- Up to `rest`, a name and its colon. -/
def IsNameUpTo (bs rest : Bytes) : Prop :=
  ∃ ws name ws', IsBlanks ws ∧ IsContent name ∧ IsBlanks ws' ∧
    bs = ws ++ code '"' :: (name ++ code '"' :: (ws' ++ code ':' :: rest))

def IsPartUpTo : Bracket → Bytes → Bytes → Prop
  | .list, bs, rest => IsValueUpTo bs rest
  | .object, bs, rest => ∃ mid, IsNameUpTo bs mid ∧ IsValueUpTo mid rest

/-- From behind a part to behind the bracket that closes the list or object. -/
inductive IsTail (bracket : Bracket) : Bytes → Bytes → Prop
  | close {ws rest : Bytes} (blank : IsBlanks ws) : IsTail bracket (ws ++ closeBracket bracket :: rest) rest
  | more {ws bs mid rest : Bytes} (blank : IsBlanks ws) (part : IsPartUpTo bracket bs mid)
      (tail : IsTail bracket mid rest) : IsTail bracket (ws ++ code ',' :: bs) rest

/-- The same from behind the bracket that opens it. -/
inductive IsBody (bracket : Bracket) : Bytes → Bytes → Prop
  | empty {ws rest : Bytes} (blank : IsBlanks ws) : IsBody bracket (ws ++ closeBracket bracket :: rest) rest
  | parts {bs mid rest : Bytes} (part : IsPartUpTo bracket bs mid) (tail : IsTail bracket mid rest) :
      IsBody bracket bs rest

def IsPart : Bracket → Bytes → Prop
  | .list, p => ∃ e : ElementText, (e.Spaced ∧ IsValue e.value) ∧ e.bytes = p
  | .object, p => ∃ m : MemberText, m.Formed ∧ m.bytes = p

section Blanks

variable {ws bs rest : Bytes} (blank : IsBlanks ws)
include blank

theorem IsValueUpTo.behind_blanks (value : IsValueUpTo bs rest) : IsValueUpTo (ws ++ bs) rest := by
  obtain ⟨ws', v, blank', value, rfl⟩ := value
  exact ⟨ws ++ ws', v, List.forall_mem_append.mpr ⟨blank, blank'⟩, value, (List.append_assoc ..).symm⟩

theorem IsTail.behind_blanks {bracket : Bracket} (tail : IsTail bracket bs rest) : IsTail bracket (ws ++ bs) rest := by
  cases tail with
  | close blank' =>
    rw [← List.append_assoc]
    exact .close (List.forall_mem_append.mpr ⟨blank, blank'⟩)
  | more blank' part tail =>
    rw [← List.append_assoc]
    exact .more (List.forall_mem_append.mpr ⟨blank, blank'⟩) part tail

/-- The blanks behind a part belong to it. -/
theorem IsPartUpTo.exists_part {bracket : Bracket} (part : IsPartUpTo bracket bs (ws ++ rest)) :
    ∃ p, IsPart bracket p ∧ bs = p ++ rest := by
  cases bracket with
  | list =>
    obtain ⟨before, v, blankBefore, value, rfl⟩ := part
    refine ⟨_, ⟨⟨before, v, ws⟩, ⟨⟨blankBefore, blank⟩, value⟩, rfl⟩, ?_⟩
    simp only [ElementText.bytes, List.append_assoc]
  | object =>
    obtain ⟨mid, ⟨beforeName, name, afterName, blankName, content, blankColon, rfl⟩, before, v, blankBefore, value,
      rfl⟩ := part
    refine ⟨_, ⟨⟨⟨before, v, ws⟩, beforeName, name, afterName⟩,
      ⟨⟨blankName, content, blankColon, blankBefore, blank⟩, value⟩, rfl⟩, ?_⟩
    simp only [MemberText.bytes, ElementText.bytes, List.append_assoc, List.cons_append]

end Blanks

theorem IsTail.exists_parts {bracket : Bracket} {mid rest : Bytes} (tail : IsTail bracket mid rest) {bs : Bytes}
    (part : IsPartUpTo bracket bs mid) : ∃ p ps, (∀ p' ∈ p :: ps, IsPart bracket p') ∧
      bs = p ++ (ps.flatMap (code ',' :: ·) ++ closeBracket bracket :: rest) := by
  induction tail generalizing bs with
  | close blank =>
    obtain ⟨p, first, rfl⟩ := part.exists_part blank
    exact ⟨p, [], List.forall_mem_singleton.mpr first, rfl⟩
  | more blank next tail ih =>
    obtain ⟨p', ps, others, rfl⟩ := ih next
    obtain ⟨p, first, rfl⟩ := part.exists_part blank
    refine ⟨p, p' :: ps, List.forall_mem_cons.mpr ⟨first, others⟩, ?_⟩
    rw [List.flatMap_cons, List.cons_append, List.cons_append, List.append_assoc]

theorem IsBody.exists_parts {bracket : Bracket} {bs rest : Bytes} (body : IsBody bracket bs rest) :
    ∃ ps gap, (∀ p ∈ ps, IsPart bracket p) ∧ IsBlanks gap ∧
      bs = commaSeparated ps ++ (gap ++ closeBracket bracket :: rest) := by
  cases body with
  | @empty ws _ blank => exact ⟨[], ws, List.forall_mem_nil _, blank, rfl⟩
  | parts part tail =>
    obtain ⟨p, ps, each, rfl⟩ := tail.exists_parts part
    refine ⟨p :: ps, [], each, isBlanks_nil, ?_⟩
    rw [commaSeparated, List.append_assoc]
    rfl

theorem exists_map_bytes {τ : Type} {Formed : τ → Prop} {bytes : τ → Bytes} {ps : List Bytes}
    (each : ∀ p ∈ ps, ∃ t, Formed t ∧ bytes t = p) : ∃ ts : List τ, (∀ t ∈ ts, Formed t) ∧ ps = ts.map bytes := by
  induction ps with
  | nil => exact ⟨[], List.forall_mem_nil _, rfl⟩
  | cons p ps ih =>
    obtain ⟨⟨t, first, rfl⟩, others⟩ := List.forall_mem_cons.mp each
    obtain ⟨ts, formed, rfl⟩ := ih others
    exact ⟨t :: ts, List.forall_mem_cons.mpr ⟨first, formed⟩, rfl⟩

theorem IsBody.exists_members {bs rest : Bytes} (body : IsBody .object bs rest) :
    ∃ (ms : List MemberText) (gap : Bytes), (∀ m ∈ ms, m.Formed) ∧ IsBlanks gap ∧
      code '\x7b' :: bs = objectText ms gap ++ rest := by
  obtain ⟨ps, gap, each, blank, rfl⟩ := body.exists_parts
  obtain ⟨ms, formed, rfl⟩ := exists_map_bytes each
  refine ⟨ms, gap, formed, blank, ?_⟩
  rw [objectText, List.cons_append, List.append_assoc, List.append_assoc]
  rfl

theorem IsBody.isValueUpTo {bracket : Bracket} {bs rest : Bytes} (body : IsBody bracket bs rest) {ws : Bytes}
    (blank : IsBlanks ws) : IsValueUpTo (ws ++ openBracket bracket :: bs) rest := by
  cases bracket with
  | list =>
    obtain ⟨ps, gap, each, blankGap, rfl⟩ := body.exists_parts
    obtain ⟨es, formed, rfl⟩ := exists_map_bytes each
    refine ⟨ws, listText es gap, blank,
      .list (fun e own => (formed e own).1) (fun e own => (formed e own).2) blankGap, ?_⟩
    rw [listText, List.cons_append, List.append_assoc, List.append_assoc]
    rfl
  | object =>
    obtain ⟨ms, gap, formed, blankGap, same⟩ := body.exists_members
    exact ⟨ws, objectText ms gap, blank, isValue_object formed blankGap, congrArg (ws ++ ·) same⟩

end Entitlement.Json
