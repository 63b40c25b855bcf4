import Entitlement.Proofs.Url.Place
import Entitlement.Proofs.Url.Simple
import Mathlib.Data.List.DropRight

/-!
A path as it is read with something behind it. The segments of a text with a slash behind are its `directory`, whatever
follows the slash (`readSegments_slash`). The path of the text alone is the same but for an empty segment that may
be left at its end (`readSegments_end`).
-/

namespace Entitlement.Url

/-- Adds segments with more to come behind each of them. -/
def Segments.walk (segs : Segments) (parts : List (List Char)) : Segments := parts.foldl (add false false) segs

/-- The text behind a slash at its front. -/
def inner : List Char → List Char
  | [] => []
  | c :: r => if isSlash true c then r else c :: r

/-- The text between the slashes of a path, escaped. -/
def parts (cs : List Char) : List (List Char) :=
  if cs.isEmpty then [] else splitAt (isSlash true) (escape .path (inner cs))

/-- The segments of a path that goes on behind a slash. -/
def directory (cs : List Char) : Segments := Segments.walk [] (parts cs)

namespace Segments

theorem walk_append (segs : Segments) (before after : List (List Char)) :
    segs.walk (before ++ after) = (segs.walk before).walk after :=
  List.foldl_append

theorem walk_cons (segs : Segments) (s : List Char) (after : List (List Char)) :
    segs.walk (s :: after) = (segs.add false false s).walk after := rfl

theorem addAll_walk (segs : Segments) (before : List (List Char)) {after : List (List Char)} (more : after ≠ []) :
    segs.addAll false (before ++ after) = (segs.walk before).addAll false after := by
  induction before generalizing segs with
  | nil => rfl
  | cons s before ih =>
    obtain ⟨t, r, rest⟩ := List.exists_cons_of_ne_nil (List.append_ne_nil_of_right_ne_nil before more)
    have behind := ih (segs.add false false s)
    rw [rest] at behind
    rw [List.cons_append, rest, addAll, behind, walk_cons]

/-- Behind its last segment a path has no slash, but segments of dots leave one. -/
theorem add_last (segs : Segments) (s : List Char) :
    segs.add false true s = segs.add false false s ++ [[]] ∨
      (segs.add false true s = segs.add false false s ∧ segs.add false false s = segs ++ [s]) := by
  unfold add
  split
  · exact Or.inl rfl
  split
  · exact Or.inl rfl
  · exact Or.inr ⟨by simp only [Bool.false_eq_true, false_and, ↓reduceIte],
      by simp only [Bool.false_eq_true, false_and, ↓reduceIte]⟩

end Segments

/-! ### Texts with a slash behind them -/

theorem escape_slash (cs : List Char) : escape .path ('/' :: cs) = '/' :: escape .path cs := rfl

theorem inner_append {cs ds : List Char} (some : cs ≠ []) : inner (cs ++ ds) = inner cs ++ ds := by
  obtain ⟨c, r, rfl⟩ := List.exists_cons_of_ne_nil some
  simp only [List.cons_append, inner]
  split <;> rfl

theorem readSegments_parts {cs : List Char} (some : cs ≠ []) :
    readSegments true false cs = Segments.addAll false [] (parts cs) := by
  obtain ⟨c, r, rfl⟩ := List.exists_cons_of_ne_nil some
  rfl

/-- What stands before a slash makes the same segments, whatever stands behind it. -/
theorem readSegments_slash (cs ds : List Char) : readSegments true false (cs ++ '/' :: ds) =
    (directory cs).addAll false (splitAt (isSlash true) (escape .path ds)) := by
  by_cases none : cs = []
  · subst none
    rfl
  have split : parts (cs ++ '/' :: ds) = parts cs ++ splitAt (isSlash true) (escape .path ds) := by
    have some : (cs ++ '/' :: ds).isEmpty = false := by
      rw [List.isEmpty_eq_false_iff]
      exact List.append_ne_nil_of_left_ne_nil none _
    rw [parts, parts, some, List.isEmpty_eq_false_iff.mpr none]
    simp only [Bool.false_eq_true, ↓reduceIte]
    rw [inner_append none, escape_path_append, escape_slash, splitAt_stop (by decide)]
  rw [readSegments_parts (List.append_ne_nil_of_left_ne_nil none _), split, Segments.addAll_walk _ _ (splitAt_ne_nil _)]
  rfl

theorem readSegments_simple (cs : List Char) {segs : Segments} (simple : Simple segs) :
    readSegments true false (cs ++ segs.render) = directory cs ++ segs := by
  obtain ⟨s, rest, rfl⟩ := List.exists_cons_of_ne_nil simple.some
  obtain ⟨first, others⟩ := List.forall_mem_cons.mp simple.simple
  rw [render_cons, readSegments_slash, escape_path_append, escape_simple first, escape_render others,
    splitAt_simple simple.simple]
  exact addAll_simple simple.simple false

theorem splitAt_slashes (k : Nat) : splitAt (isSlash true) (escape .path (List.replicate k '/')) =
    List.replicate (k + 1) [] := by
  induction k with
  | zero => rfl
  | succ k ih =>
    have first : isSlash true '/' = true := by decide
    rw [List.replicate_succ, escape_slash, splitAt, if_pos first, ih]
    rfl

theorem readSegments_slashes (cs : List Char) (k : Nat) :
    readSegments true false (cs ++ List.replicate (k + 1) '/') = directory cs ++ List.replicate (k + 1) [] := by
  have noText : ∀ s ∈ List.replicate (k + 1) ([] : List Char), ∀ c ∈ s, isSimple c = true := by
    intro s own
    rw [List.eq_of_mem_replicate own]
    exact fun c none => (List.not_mem_nil none).elim
  rw [List.replicate_succ, readSegments_slash, splitAt_slashes]
  exact addAll_simple noText false

/-- A text that ends in a slash of either kind leaves an empty segment. -/
theorem directory_slash (cs : List Char) {c : Char} (slash : isSlash true c = true) :
    directory (cs ++ [c]) = directory cs ++ [[]] := by
  have own : escape .path [c] = [c] := by
    rcases Bool.or_eq_true_iff.mp slash with forward | backward
    · rw [of_decide_eq_true forward]
      rfl
    · rw [of_decide_eq_true backward]
      rfl
  have behind (segs : Segments) : segs.walk [[]] = segs ++ [[]] := rfl
  by_cases none : cs = []
  · subst none
    simp only [directory, parts, inner, List.nil_append, List.isEmpty_cons, slash, Bool.false_eq_true, ↓reduceIte]
    rfl
  have split : parts (cs ++ [c]) = parts cs ++ [[]] := by
    have some : (cs ++ [c]).isEmpty = false := List.isEmpty_eq_false_iff.mpr (List.append_ne_nil_of_left_ne_nil none _)
    rw [parts, parts, some, List.isEmpty_eq_false_iff.mpr none]
    simp only [Bool.false_eq_true, ↓reduceIte]
    rw [inner_append none, escape_path_append, own, splitAt_stop slash]
    rfl
  rw [directory, split, Segments.walk_append, behind]
  rfl

/-! ### Texts with nothing behind them -/

theorem splitAt_append {p : Char → Bool} {ds : List Char} (free : ∀ d ∈ ds, p d = false) (cs : List Char) :
    ∃ before last, splitAt p cs = before ++ [last] ∧ splitAt p (cs ++ ds) = before ++ [last ++ ds] := by
  induction cs with
  | nil => exact ⟨[], [], rfl, splitAt_whole free⟩
  | cons c cs ih =>
    obtain ⟨before, last, own, extended⟩ := ih
    rw [List.cons_append, splitAt, splitAt, own, extended]
    split
    · exact ⟨[] :: before, last, rfl, rfl⟩
    · cases before with
      | nil => exact ⟨[], c :: last, rfl, rfl⟩
      | cons part before => exact ⟨(c :: part) :: before, last, rfl, rfl⟩

theorem isSlash_escape {ds : List Char} (free : ∀ d ∈ ds, isSlash true d = false) :
    ∀ c ∈ escape .path ds, isSlash true c = false := by
  intro c own
  rcases mem_escape own with ⟨inside, _⟩ | rfl | word
  · exact free c inside
  · decide
  · exact isSlash_simple (Bool.or_eq_true_iff.mpr (Or.inl word))

/-- What is no slash goes on with the last part. -/
theorem parts_append (cs : List Char) {ds : List Char} (some : ds ≠ []) (free : ∀ d ∈ ds, isSlash true d = false) :
    ∃ before last, parts (cs ++ ds) = before ++ [last ++ escape .path ds] ∧
      (cs ≠ [] → parts cs = before ++ [last]) := by
  have whole : parts (cs ++ ds) = splitAt (isSlash true) (escape .path (inner cs) ++ escape .path ds) := by
    have more : (cs ++ ds).isEmpty = false := List.isEmpty_eq_false_iff.mpr (List.append_ne_nil_of_right_ne_nil cs some)
    rw [parts, more, ← escape_path_append]
    simp only [Bool.false_eq_true, ↓reduceIte]
    by_cases none : cs = []
    · obtain ⟨d, r, rfl⟩ := List.exists_cons_of_ne_nil some
      subst none
      simp only [List.nil_append, inner, free d List.mem_cons_self, Bool.false_eq_true, ↓reduceIte]
    · rw [inner_append none]
  obtain ⟨before, last, own, extended⟩ := splitAt_append (isSlash_escape free) (escape .path (inner cs))
  refine ⟨before, last, whole.trans extended, fun present => ?_⟩
  rw [parts, List.isEmpty_eq_false_iff.mpr present]
  exact own

/-- The number of slashes at the end of a text. -/
def endSlashes (cs : List Char) : Nat := (cs.rtakeWhile (· = '/')).length

theorem endSlashes_none {cs : List Char} (last : ∀ c ∈ cs.getLast?, c ≠ '/') : endSlashes cs = 0 := by
  have none : cs.rtakeWhile (· = '/') = [] := by
    refine List.rtakeWhile_eq_nil_iff.mpr fun some slash => ?_
    exact last _ (List.getLast?_eq_getLast_of_ne_nil some) (of_decide_eq_true slash)
  rw [endSlashes, none]
  rfl

theorem all_slashes {k : Nat} : ∀ d ∈ (List.replicate k '/').reverse, decide (d = '/') = true :=
  fun _ own => decide_eq_true (List.eq_of_mem_replicate (List.mem_reverse.mp own))

theorem rdropWhile_slashes (cs : List Char) (k : Nat) :
    (cs ++ List.replicate k '/').rdropWhile (· = '/') = cs.rdropWhile (· = '/') := by
  rw [List.rdropWhile, List.rdropWhile, List.reverse_append, List.dropWhile_append_of_pos all_slashes]

theorem endSlashes_slashes (cs : List Char) (k : Nat) : endSlashes (cs ++ List.replicate k '/') = endSlashes cs + k := by
  simp only [endSlashes, List.rtakeWhile, List.reverse_append, List.takeWhile_append_of_pos all_slashes, List.length_reverse,
    List.length_append, List.length_replicate, Nat.add_comm]

/-- Nothing is trimmed from a text that ends in no slash. -/
theorem rdropWhile_eq_self {cs : List Char} : cs.rdropWhile (· = '/') = cs ↔ endSlashes cs = 0 := by
  rw [endSlashes, List.length_eq_zero_iff, List.rdropWhile_eq_self_iff, List.rtakeWhile_eq_nil_iff]

theorem escape_ne_nil {s : EscapeSet} {cs : List Char} (some : cs ≠ []) : escape s cs ≠ [] := by
  obtain ⟨c, r, rfl⟩ := List.exists_cons_of_ne_nil some
  rw [escape_cons]
  refine List.append_ne_nil_of_left_ne_nil ?_ _
  split
  · obtain ⟨b, bs, bytes, _⟩ := Utf8.next_encodeChar c []
    rw [bytes, List.flatMap_cons]
    exact List.cons_ne_nil _ _
  · exact List.cons_ne_nil _ _

/-- A text that ends in no slash: at most one empty segment tells its path from its directory. -/
theorem readSegments_end {cs : List Char} (noSlash : ∀ c ∈ cs.getLast?, isSlash true c = false) :
    readSegments true false cs = directory cs ++ [[]] ∨
      (readSegments true false cs = directory cs ∧ endSlashes (directory cs).render = 0) := by
  rcases List.eq_nil_or_concat cs with rfl | ⟨front, c, rfl⟩
  · exact Or.inl rfl
  rw [List.concat_eq_append] at noSlash ⊢
  have free : ∀ d ∈ [c], isSlash true d = false := by
    intro d own
    exact noSlash d (by rw [List.getLast?_concat, List.mem_singleton.mp own]; rfl)
  obtain ⟨before, last, split, _⟩ := parts_append front (List.cons_ne_nil c []) free
  have path : readSegments true false (front ++ [c]) =
      (Segments.walk [] before).add false true (last ++ escape .path [c]) := by
    rw [readSegments_parts (List.append_ne_nil_of_right_ne_nil front (List.cons_ne_nil _ _)), split,
      Segments.addAll_walk _ _ (List.cons_ne_nil _ _), Segments.addAll]
  have walked : directory (front ++ [c]) =
      (Segments.walk [] before).add false false (last ++ escape .path [c]) := by
    rw [directory, split, Segments.walk_append]
    rfl
  rw [path, walked]
  rcases Segments.add_last (Segments.walk [] before) (last ++ escape .path [c]) with dots | ⟨same, pushed⟩
  · exact Or.inl dots
  · refine Or.inr ⟨same, ?_⟩
    rw [pushed]
    refine endSlashes_none fun d atEnd slash => ?_
    have some : escape .path [c] ≠ [] := escape_ne_nil (List.cons_ne_nil c [])
    have one : Segments.render [last ++ escape .path [c]] = '/' :: last ++ escape .path [c] := List.append_nil _
    rw [Segments.render_append, one, ← List.append_assoc, List.getLast?_append_of_ne_nil _ some] at atEnd
    have noSlash := isSlash_escape free d (List.mem_of_getLast? atEnd)
    rw [slash] at noSlash
    exact absurd noSlash (by decide)

theorem render_empty (segs : Segments) (k : Nat) :
    (segs ++ List.replicate k []).render = segs.render ++ List.replicate k '/' := by
  have slashes : Segments.render (List.replicate k []) = List.replicate k '/' := by
    induction k with
    | zero => rfl
    | succ k ih => rw [List.replicate_succ, render_cons, ih]; rfl
  rw [Segments.render_append, slashes]

/-- The path of a text that ends in `k` slashes is that of its directory up to slashes at the end. It has no more of
them than the text, or one, exactly if the directory has none. -/
theorem readSegments_directory {cs : List Char} (noSlash : ∀ c ∈ cs.getLast?, isSlash true c = false) (k : Nat) :
    (readSegments true false (cs ++ List.replicate k '/')).render.rdropWhile (· = '/') =
        (directory cs).render.rdropWhile (· = '/') ∧
      (endSlashes (readSegments true false (cs ++ List.replicate k '/')).render ≤ max 1 k ↔
        endSlashes (directory cs).render = 0) := by
  have left : ∃ j, readSegments true false (cs ++ List.replicate k '/') = directory cs ++ List.replicate j [] ∧
      (j = max 1 k ∨ (j ≤ max 1 k ∧ endSlashes (directory cs).render = 0)) := by
    cases k with
    | succ k => exact ⟨k + 1, readSegments_slashes cs k, Or.inl (by omega)⟩
    | zero =>
      rw [List.replicate_zero, List.append_nil]
      rcases readSegments_end noSlash with dots | ⟨same, clean⟩
      · exact ⟨1, dots, Or.inl rfl⟩
      · exact ⟨0, same.trans (List.append_nil _).symm, Or.inr ⟨Nat.zero_le _, clean⟩⟩
  obtain ⟨j, path, size⟩ := left
  rw [path, render_empty, rdropWhile_slashes, endSlashes_slashes]
  exact ⟨rfl, by omega⟩

end Entitlement.Url
