import Entitlement.Text.Blank
import Mathlib

/-!
White space around a text. What is left without it is the text that the white space encloses (`encloses_iff`), and the
case of letters makes no difference to it.
-/

namespace Entitlement.Text

theorem trim_surrounded {before after : List Char} (blankBefore : ∀ c ∈ before, isBlank c = true)
    (blankAfter : ∀ c ∈ after, isBlank c = true) (cs : List Char) : trim (before ++ cs ++ after) = trim cs := by
  have blankReversed : ∀ c ∈ after.reverse, isBlank c = true := fun c own => blankAfter c (List.mem_reverse.mp own)
  rw [trim, trim, trimStart, trimStart, List.append_assoc, List.dropWhile_append_of_pos blankBefore,
    List.dropWhile_append]
  split
  · next none =>
    have nothing : after.dropWhile isBlank = [] := List.dropWhile_eq_nil_iff.mpr blankAfter
    rw [nothing, List.isEmpty_iff.mp none]
  · rw [trimEnd, trimEnd, List.reverse_append, List.dropWhile_append_of_pos blankReversed]

theorem trim_of_free {cs : List Char} (free : ∀ c ∈ cs, isBlank c = false) : trim cs = cs := by
  have kept {ds : List Char} (free : ∀ c ∈ ds, isBlank c = false) : ds.dropWhile isBlank = ds := by
    cases ds with
    | nil => rfl
    | cons c ds => exact List.dropWhile_cons_of_neg (by simp [free c List.mem_cons_self])
  rw [trim, trimStart, kept free, trimEnd, kept fun c own => free c (List.mem_reverse.mp own), List.reverse_reverse]

/-- The text is `inner` with white space around it, or none. -/
def Encloses (cs inner : List Char) : Prop :=
  ∃ before after, cs = before ++ inner ++ after ∧ (∀ c ∈ before, isBlank c = true) ∧ ∀ c ∈ after, isBlank c = true

theorem encloses_trim (cs : List Char) : Encloses cs (trim cs) := by
  refine ⟨cs.takeWhile isBlank, ((trimStart cs).reverse.takeWhile isBlank).reverse, ?_, ?_, ?_⟩
  · rw [List.append_assoc, trim, trimEnd, ← List.reverse_append, List.takeWhile_append_dropWhile, List.reverse_reverse,
      trimStart, List.takeWhile_append_dropWhile]
  · exact fun c own => List.mem_takeWhile_imp own
  · exact fun c own => List.mem_takeWhile_imp (List.mem_reverse.mp own)

theorem encloses_iff {cs inner : List Char} (free : ∀ c ∈ inner, isBlank c = false) :
    Encloses cs inner ↔ trim cs = inner := by
  constructor
  · rintro ⟨before, after, rfl, blankBefore, blankAfter⟩
    rw [trim_surrounded blankBefore blankAfter, trim_of_free free]
  · rintro rfl
    exact encloses_trim cs

theorem isBlank_toLower (c : Char) : isBlank c.toLower = isBlank c := by
  by_cases capital : c.isUpper = true
  · simp only [Char.isUpper, decide_eq_true_eq] at capital
    have first : 'A'.toNat ≤ c.toNat := UInt32.le_iff_toNat_le.mp capital.1
    have last : c.toNat ≤ 'Z'.toNat := UInt32.le_iff_toNat_le.mp capital.2
    have same : ∀ n, 'A'.toNat ≤ n → n ≤ 'Z'.toNat → isBlank (Char.ofNat n).toLower = isBlank (Char.ofNat n) := by
      decide
    have own := same c.toNat first last
    rwa [Char.ofNat_toNat] at own
  · rw [Char.toLower_eq_of_not_isUpper capital]

theorem trim_map_toLower (cs : List Char) : trim (cs.map Char.toLower) = (trim cs).map Char.toLower := by
  have same : isBlank ∘ Char.toLower = isBlank := funext isBlank_toLower
  simp only [trim, trimStart, trimEnd, List.dropWhile_map, ← List.map_reverse, same]

end Entitlement.Text
