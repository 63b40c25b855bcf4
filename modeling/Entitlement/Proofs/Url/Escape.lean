import Entitlement.Proofs.Text.Utf8
import Entitlement.Url.Escape

/-!
A text whose percent signs are escaped is told by its escaped form, however much else is escaped
(`unescape_escape`). An escaped text holds no character of the set but the percent sign, and each percent sign in it
begins an escape (`wellEscaped_escape`).
-/

namespace Entitlement.Url

theorem value?_hexDigit {n : Nat} (small : n < 16) : Digit.value? (hexDigit n) = some n := by
  decide +revert

theorem hexDigit_alphanum {n : Nat} (small : n < 16) : (hexDigit n).isAlphanum = true := by
  decide +revert

theorem unescape_escapeByte (b : UInt8) (cs : List Char) : unescape (escapeByte b ++ cs) = b :: unescape cs := by
  have bound := b.toNat_lt
  have whole : UInt8.ofNat (16 * (b.toNat / 16) + b.toNat % 16) = b := by
    rw [Nat.div_add_mod, UInt8.ofNat_toNat]
  simp only [escapeByte, List.cons_append, List.nil_append, unescape, whole,
    value?_hexDigit (show b.toNat / 16 < 16 by omega), value?_hexDigit (show b.toNat % 16 < 16 by omega)]

theorem unescape_escapeBytes (bs : Bytes) (cs : List Char) :
    unescape (bs.flatMap escapeByte ++ cs) = bs ++ unescape cs := by
  induction bs with
  | nil => rfl
  | cons b bs ih => rw [List.flatMap_cons, List.append_assoc, unescape_escapeByte, ih, List.cons_append]

theorem unescape_cons {c : Char} (plain : c ≠ '%') (cs : List Char) :
    unescape (c :: cs) = Utf8.encodeChar c ++ unescape cs := by
  rw [unescape]
  exact fun _ _ _ mark => (plain mark).elim

theorem escape_cons (s : EscapeSet) (c : Char) (cs : List Char) :
    escape s (c :: cs) = (if s.has c then (Utf8.encodeChar c).flatMap escapeByte else [c]) ++ escape s cs :=
  List.flatMap_cons

theorem unescape_escape {s : EscapeSet} (percent : s.has '%' = true) (cs : List Char) :
    unescape (escape s cs) = Utf8.encode cs := by
  induction cs with
  | nil => rfl
  | cons c cs ih =>
    rw [escape_cons, Utf8.encode, List.flatMap_cons, ← Utf8.encode, ← ih]
    by_cases escaped : s.has c = true
    · rw [if_pos escaped, unescape_escapeBytes]
    · have plain : c ≠ '%' := by
        rintro rfl
        exact escaped percent
      rw [if_neg escaped]
      exact unescape_cons plain _

theorem escape_injective {s : EscapeSet} (percent : s.has '%' = true) : Function.Injective (escape s) := by
  intro cs ds same
  exact Utf8.encode_injective
    ((unescape_escape percent cs).symm.trans ((congrArg unescape same).trans (unescape_escape percent ds)))

theorem mem_escapeByte {b : UInt8} {c : Char} (member : c ∈ escapeByte b) : c = '%' ∨ c.isAlphanum = true := by
  have bound := b.toNat_lt
  simp only [escapeByte, List.mem_cons, List.not_mem_nil, or_false] at member
  rcases member with mark | rfl | rfl
  · exact Or.inl mark
  · exact Or.inr (hexDigit_alphanum (by omega))
  · exact Or.inr (hexDigit_alphanum (by omega))

/-- A character of an escaped text is one of the text itself, or belongs to an escape. -/
theorem mem_escape {s : EscapeSet} {cs : List Char} {c : Char} (member : c ∈ escape s cs) :
    (c ∈ cs ∧ s.has c = false) ∨ c = '%' ∨ c.isAlphanum = true := by
  obtain ⟨d, own, member⟩ := List.mem_flatMap.mp member
  by_cases escaped : s.has d = true
  · rw [if_pos escaped] at member
    obtain ⟨b, _, member⟩ := List.mem_flatMap.mp member
    exact Or.inr (mem_escapeByte member)
  · rw [if_neg escaped] at member
    rw [List.mem_singleton.mp member]
    exact Or.inl ⟨own, Bool.eq_false_iff.mpr escaped⟩

theorem notMem_escape {s : EscapeSet} {c : Char} (escaped : s.has c = true) (percent : c ≠ '%')
    (mark : c.isAlphanum = false) (cs : List Char) : c ∉ escape s cs := by
  intro member
  rcases mem_escape member with ⟨_, plain⟩ | sign | digit
  · exact Bool.noConfusion (escaped.symm.trans plain)
  · exact percent sign
  · exact Bool.noConfusion (mark.symm.trans digit)

/-- Every percent sign of the text begins an escape. -/
inductive WellEscaped : List Char → Prop
  | nil : WellEscaped []
  | plain {c : Char} {cs : List Char} (other : c ≠ '%') (rest : WellEscaped cs) : WellEscaped (c :: cs)
  | escape {high low : Char} {cs : List Char} (first : (Digit.value? high).isSome = true)
      (second : (Digit.value? low).isSome = true) (rest : WellEscaped cs) : WellEscaped ('%' :: high :: low :: cs)

theorem WellEscaped.escapeBytes {cs : List Char} (rest : WellEscaped cs) (bs : Bytes) :
    WellEscaped (bs.flatMap escapeByte ++ cs) := by
  induction bs with
  | nil => exact rest
  | cons b bs ih =>
    have bound := b.toNat_lt
    rw [List.flatMap_cons, List.append_assoc]
    refine .escape ?_ ?_ ih
    · rw [value?_hexDigit (show b.toNat / 16 < 16 by omega), Option.isSome_some]
    · rw [value?_hexDigit (show b.toNat % 16 < 16 by omega), Option.isSome_some]

theorem wellEscaped_escape {s : EscapeSet} (percent : s.has '%' = true) (cs : List Char) :
    WellEscaped (escape s cs) := by
  induction cs with
  | nil => exact .nil
  | cons c cs ih =>
    rw [escape_cons]
    by_cases escaped : s.has c = true
    · rw [if_pos escaped]
      exact ih.escapeBytes _
    · rw [if_neg escaped]
      refine .plain ?_ ih
      rintro rfl
      exact escaped percent

end Entitlement.Url
