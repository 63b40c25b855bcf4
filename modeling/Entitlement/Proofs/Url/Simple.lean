import Entitlement.Proofs.Url.Escape
import Entitlement.Url

/-!
Segments of letters, digits and underscores mean themselves: they are not escaped (`escape_render`), and whatever path
they are added to, they are its last segments (`addAll_simple`).
-/

namespace Entitlement.Url

/-! ### Lists that stop -/

section Stops

variable {p : Char → Bool} {c : Char}

theorem takeWhile_stop (stop : p c = false) (cs ds : List Char) : (cs ++ c :: ds).takeWhile p = cs.takeWhile p := by
  rw [List.takeWhile_append]
  split
  · next whole =>
    rw [List.takeWhile_cons_of_neg (by simp [stop]), List.append_nil]
    exact ((List.takeWhile_prefix p).eq_of_length whole).symm
  · rfl

theorem dropWhile_stop (stop : p c = false) (cs ds : List Char) :
    (cs ++ c :: ds).dropWhile p = cs.dropWhile p ++ c :: ds := by
  rw [List.dropWhile_append]
  split
  · next none =>
    rw [List.dropWhile_cons_of_neg (by simp [stop]), List.isEmpty_iff.mp none, List.nil_append]
  · rfl

theorem splitAt_ne_nil (cs : List Char) : splitAt p cs ≠ [] := by
  cases cs with
  | nil => exact List.cons_ne_nil _ _
  | cons d cs =>
    unfold splitAt
    split
    · exact List.cons_ne_nil _ _
    · split
      · exact List.cons_ne_nil _ _
      · exact List.cons_ne_nil _ _

theorem splitAt_stop (stop : p c = true) (cs ds : List Char) :
    splitAt p (cs ++ c :: ds) = splitAt p cs ++ splitAt p ds := by
  induction cs with
  | nil => simp only [List.nil_append, splitAt, stop, ↓reduceIte, List.singleton_append]
  | cons d cs ih =>
    rw [List.cons_append, splitAt, splitAt, ih]
    split
    · rfl
    · cases parts : splitAt p cs with
      | nil => exact (splitAt_ne_nil cs parts).elim
      | cons part parts => rfl

theorem splitAt_whole {s : List Char} (free : ∀ d ∈ s, p d = false) : splitAt p s = [s] := by
  induction s with
  | nil => rfl
  | cons d s ih =>
    obtain ⟨first, rest⟩ := List.forall_mem_cons.mp free
    simp only [splitAt, first, ih rest, Bool.false_eq_true, ↓reduceIte]

end Stops

/-! ### Simple segments -/

/-- Letters, digits and the underscore, which mean nothing in a URL and are never escaped. -/
def isSimple (c : Char) : Bool := c.isAlphanum || c == '_'

theorem isSimple_ascii {c : Char} (simple : isSimple c = true) : c.toNat < 0x80 := by
  have upTo {high : Char} (range : c.val ≤ high.val) (ascii : high.toNat < 0x80) : c.toNat < 0x80 :=
    Nat.lt_of_le_of_lt range ascii
  rcases Bool.or_eq_true_iff.mp simple with word | line
  · rcases Bool.or_eq_true_iff.mp word with letter | digit
    · rcases Bool.or_eq_true_iff.mp letter with upper | lower
      · exact upTo (of_decide_eq_true upper).2 (by decide)
      · exact upTo (of_decide_eq_true (Bool.and_eq_true_iff.mp lower).2) (by decide)
    · exact upTo (of_decide_eq_true (Bool.and_eq_true_iff.mp digit).2) (by decide)
  · rw [beq_iff_eq.mp line]
    decide

/-- What a URL takes for more than itself, or escapes in a path, or drops. -/
def isMark (c : Char) : Bool :=
  EscapeSet.path.has c || isSlash true c || c == '.' || c == '%' || c == ':' || c == '|' || c.toNat ≤ 0x20

theorem isMark_code {n : Nat} (small : n < 0x80) (simple : isSimple (Char.ofNat n) = true) :
    isMark (Char.ofNat n) = false := by
  decide +revert

theorem isMark_simple {c : Char} (simple : isSimple c = true) : isMark c = false := by
  have code := isMark_code (isSimple_ascii simple)
  rw [Char.ofNat_toNat] at code
  exact code simple

theorem simple_ne {c d : Char} (simple : isSimple c = true) (mark : isMark d = true) : c ≠ d := by
  rintro rfl
  exact Bool.noConfusion (mark.symm.trans (isMark_simple simple))

theorem path_has_simple {c : Char} (simple : isSimple c = true) : EscapeSet.path.has c = false := by
  have none := isMark_simple simple
  simp only [isMark, Bool.or_eq_false_iff] at none
  exact none.1.1.1.1.1.1

theorem isSlash_simple {c : Char} (simple : isSimple c = true) : isSlash true c = false := by
  have none := isMark_simple simple
  simp only [isMark, Bool.or_eq_false_iff] at none
  exact none.1.1.1.1.1.2

/-- One or more segments without marks. -/
structure Simple (segs : Segments) : Prop where
  some : segs ≠ []
  simple : ∀ s ∈ segs, ∀ c ∈ s, isSimple c = true

theorem escape_simple {s : List Char} (simple : ∀ c ∈ s, isSimple c = true) : escape .path s = s := by
  induction s with
  | nil => rfl
  | cons c s ih =>
    obtain ⟨first, rest⟩ := List.forall_mem_cons.mp simple
    rw [escape_cons, ih rest, path_has_simple first]
    rfl

theorem dotless?_simple {s : List Char} (simple : ∀ c ∈ s, isSimple c = true) : dotless? s = none := by
  unfold dotless?
  split
  · exact absurd rfl (simple_ne (simple _ List.mem_cons_self) (by decide))
  · exact absurd rfl (simple_ne (simple _ List.mem_cons_self) (by decide))
  · rfl

theorem isDriveLetter_simple {s : List Char} (simple : ∀ c ∈ s, isSimple c = true) : isDriveLetter s = false := by
  unfold isDriveLetter
  split
  · next l m =>
    have last := simple m (List.mem_cons_of_mem l List.mem_cons_self)
    have colon : m ≠ ':' := simple_ne last (by decide)
    have bar : m ≠ '|' := simple_ne last (by decide)
    simp only [colon, bar, decide_false, Bool.or_false, Bool.and_false]
  · rfl

theorem add_simple {s : List Char} (simple : ∀ c ∈ s, isSimple c = true) (normal last : Bool) (segs : Segments) :
    segs.add normal last s = segs ++ [s] := by
  have noDot : isSingleDot s = false := by rw [isSingleDot, dotless?_simple simple]; rfl
  have noDots : isDoubleDot s = false := by rw [isDoubleDot, dotless?_simple simple]; rfl
  simp only [Segments.add, noDot, noDots, isDriveLetter_simple simple, Bool.false_eq_true, and_false, ↓reduceIte]

theorem addAll_simple {segs parts : Segments} (simple : ∀ s ∈ parts, ∀ c ∈ s, isSimple c = true) (normal : Bool) :
    segs.addAll normal parts = segs ++ parts := by
  fun_induction Segments.addAll normal segs parts with
  | case1 => rw [List.append_nil]
  | case2 => exact add_simple (simple _ List.mem_cons_self) normal true _
  | case3 segs s t r ih =>
    rw [ih fun u own => simple u (List.mem_cons_of_mem s own), add_simple (simple s List.mem_cons_self),
      List.append_assoc]
    rfl

theorem render_cons (s : List Char) (segs : Segments) : Segments.render (s :: segs) = '/' :: (s ++ segs.render) :=
  List.flatMap_cons

theorem notMem_render {segs : Segments} (simple : ∀ s ∈ segs, ∀ c ∈ s, isSimple c = true) {c : Char}
    (mark : isMark c = true) (slash : c ≠ '/') : c ∉ segs.render := by
  intro member
  obtain ⟨s, own, member⟩ := List.mem_flatMap.mp member
  rcases List.mem_cons.mp member with same | member
  · exact slash same
  · exact simple_ne (simple s own c member) mark rfl

theorem splitAt_simple {s : List Char} {segs : Segments} (simple : ∀ t ∈ s :: segs, ∀ c ∈ t, isSimple c = true) :
    splitAt (isSlash true) (s ++ segs.render) = s :: segs := by
  induction segs generalizing s with
  | nil =>
    have empty : Segments.render [] = [] := rfl
    rw [empty, List.append_nil]
    exact splitAt_whole fun c own => isSlash_simple (simple s List.mem_cons_self c own)
  | cons t segs ih =>
    obtain ⟨first, rest⟩ := List.forall_mem_cons.mp simple
    rw [render_cons, splitAt_stop (by decide), ih rest, splitAt_whole fun c own => isSlash_simple (first c own)]
    rfl

theorem escape_path_append (cs ds : List Char) : escape .path (cs ++ ds) = escape .path cs ++ escape .path ds :=
  List.flatMap_append

theorem escape_render {segs : Segments} (simple : ∀ s ∈ segs, ∀ c ∈ s, isSimple c = true) :
    escape .path segs.render = segs.render := by
  induction segs with
  | nil => rfl
  | cons s segs ih =>
    obtain ⟨first, rest⟩ := List.forall_mem_cons.mp simple
    rw [render_cons, escape_cons, escape_path_append, escape_simple first, ih rest]
    rfl

end Entitlement.Url
