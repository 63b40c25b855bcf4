import Entitlement.Proofs.Url.Escape
import Entitlement.Url.Path

/-!
Where a text comes to stand that is appended to a path as a segment (`push_place`): mostly it is one segment, its
characters escaped, but dots alone are passed over, and tabs and line breaks are lost before dots are looked for.
Texts at different places give different paths (`leaves_inj`).
-/

namespace Entitlement.Url

/-! ### Escaped dots -/

theorem unescape_dotless? {s rest : List Char} (dot : dotless? s = some rest) :
    unescape s = Utf8.encodeChar '.' ++ unescape rest := by
  unfold dotless? at dot
  split at dot
  · cases dot
    exact unescape_cons (by decide) _
  · next e r =>
    split at dot
    · next letter =>
      cases dot
      rcases letter with rfl | rfl <;> rfl
    · cases dot
  · cases dot

/-- An escape never means a dot: dots stay as they are, and escapes of percent signs stand for these. -/
theorem isSingleDot_escape {s : EscapeSet} (percent : s.has '%' = true) (dot : s.has '.' = false) (cs : List Char) :
    isSingleDot (escape s cs) = true ↔ cs = ['.'] := by
  constructor
  · intro single
    have bytes := unescape_dotless? (of_decide_eq_true single)
    rw [unescape_escape percent] at bytes
    exact Utf8.encode_injective bytes
  · rintro rfl
    simp only [escape, List.flatMap_cons, dot, Bool.false_eq_true, ↓reduceIte]
    rfl

theorem isDoubleDot_escape {s : EscapeSet} (percent : s.has '%' = true) (dot : s.has '.' = false) (cs : List Char) :
    isDoubleDot (escape s cs) = true ↔ cs = ['.', '.'] := by
  constructor
  · intro double
    obtain ⟨rest, first, second⟩ := Option.bind_eq_some_iff.mp (of_decide_eq_true double)
    have bytes := unescape_dotless? first
    rw [unescape_dotless? second, unescape_escape percent] at bytes
    exact Utf8.encode_injective bytes
  · rintro rfl
    simp only [escape, List.flatMap_cons, dot, Bool.false_eq_true, ↓reduceIte]
    rfl

/-! ### Places -/

/-- Where a text comes to stand. -/
inductive Place
  /-- Nowhere. -/
  | skipped
  /-- One up, where an empty segment is left. -/
  | above
  | inside (text : List Char)
  deriving DecidableEq

/-- The place of a text that is appended as a segment. -/
def place (text : List Char) : Place :=
  if text = ['.'] ∨ text = ['.', '.'] then .skipped
  else
    let kept := text.filter (!Segments.isStripped ·)
    if kept = ['.', '.'] then .above else if kept = ['.'] then .inside [] else .inside kept

/-- Texts that come to stand as they are. -/
def IsPlain (text : List Char) : Prop :=
  text.any Segments.isStripped = false ∧ text ≠ ['.'] ∧ text ≠ ['.', '.']

theorem place_plain {text : List Char} (plain : IsPlain text) : place text = .inside text := by
  obtain ⟨kept, notDot, notDots⟩ := plain
  have all : text.filter (!Segments.isStripped ·) = text :=
    List.filter_eq_self.mpr fun c own => by rw [Bool.eq_false_iff.mpr (List.any_eq_false.mp kept c own), Bool.not_false]
  rw [place, if_neg (not_or.mpr ⟨notDot, notDots⟩)]
  simp only [all, if_neg notDots, if_neg notDot]

namespace Segments

/-- The path with a text at that place, as a special scheme writes it. -/
def put (segs : Segments) : Place → Segments
  | .skipped => segs
  | .above => segs.up ++ [[]]
  | .inside text => segs ++ [escape .specialSegment text]

theorem push_place {segs : Segments} (more : segs ≠ [[]]) (text : List Char) :
    segs.push true false text = segs.put (place text) := by
  unfold push place
  by_cases dots : text = ['.'] ∨ text = ['.', '.']
  · rw [if_pos dots, if_pos dots]
    rfl
  rw [if_neg dots, if_neg dots]
  simp only [↓reduceIte, if_neg more, Bool.false_eq_true, add, false_and,
    isDoubleDot_escape (s := .specialSegment) (by decide) (by decide),
    isSingleDot_escape (s := .specialSegment) (by decide) (by decide)]
  split
  · rfl
  split
  · rfl
  · rfl

theorem render_append (segs segs' : Segments) : Segments.render (segs ++ segs') = segs.render ++ segs'.render :=
  List.flatMap_append

/-- What a place leaves of a path behind its last segment but one, which keeps `last` unless the place is above. -/
def leaves (last : List Char) : Place → List Char
  | .skipped => '/' :: last
  | .above => ['/']
  | .inside text => '/' :: last ++ '/' :: escape .specialSegment text

theorem up_concat {last : List Char} (noDrive : isDriveLetter last = false) (segs : Segments) :
    Segments.up (segs ++ [last]) = segs := by
  rw [Segments.up, List.getLast?_concat]
  simp only [noDrive, Bool.false_eq_true, ↓reduceIte, List.dropLast_concat]

theorem put_ne {segs : Segments} {last : List Char} (more : segs ≠ []) (noDrive : isDriveLetter last = false)
    (p : Place) : (segs ++ [last]).put p ≠ [[]] := by
  intro alone
  have size := congrArg List.length alone
  have front := List.length_pos_iff.mpr more
  cases p with
  | skipped =>
    simp only [put, List.length_append, List.length_cons, List.length_nil] at size
    omega
  | above =>
    simp only [put, up_concat noDrive, List.length_append, List.length_cons, List.length_nil] at size
    omega
  | inside text =>
    simp only [put, List.length_append, List.length_cons, List.length_nil] at size
    omega

theorem render_put {segs : Segments} {last : List Char} (noDrive : isDriveLetter last = false) (p : Place) :
    ((segs ++ [last]).put p).render = segs.render ++ leaves last p := by
  have one (s : List Char) : Segments.render [s] = '/' :: s := List.append_nil _
  cases p with
  | skipped => rw [put, render_append, one, leaves]
  | above => rw [put, up_concat noDrive, render_append, one, leaves]
  | inside text => rw [put, render_append, render_append, one, one, leaves, List.append_assoc]

theorem leaves_inj {last : List Char} (named : last ≠ []) {p q : Place} : leaves last p = leaves last q ↔ p = q := by
  refine ⟨fun same => ?_, fun same => by rw [same]⟩
  -- They differ in how much they leave, unless both are inside.
  have sizes := congrArg List.length same
  have size := List.length_pos_iff.mpr named
  cases p with
  | skipped =>
    cases q with
    | skipped => rfl
    | above => simp only [leaves, List.length_cons, List.length_nil] at sizes; omega
    | inside text => simp only [leaves, List.length_cons, List.length_append] at sizes; omega
  | above =>
    cases q with
    | skipped => simp only [leaves, List.length_cons, List.length_nil] at sizes; omega
    | above => rfl
    | inside text => simp only [leaves, List.length_cons, List.length_append, List.length_nil] at sizes; omega
  | inside text =>
    cases q with
    | skipped => simp only [leaves, List.length_cons, List.length_append] at sizes; omega
    | above => simp only [leaves, List.length_cons, List.length_append, List.length_nil] at sizes; omega
    | inside text' =>
      have escaped := List.cons.inj (List.append_cancel_left same)
      rw [escape_injective (s := .specialSegment) (by decide) escaped.2]

end Segments

end Entitlement.Url
