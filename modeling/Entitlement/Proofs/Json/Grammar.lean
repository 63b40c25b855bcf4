import Entitlement.Json.Record
import Entitlement.Proofs.Json.Text
import Entitlement.Proofs.Json.Number

/-!
Which texts are JSON, said by a grammar that knows nothing of how they are read. A value stands for its bytes alone:
blanks belong to the list or object around it, and so they are kept with its elements and members.

A string here is any row of bytes that its quotes can enclose. Whether they decode to Unicode text is a question of
what the string means, not of whether it is well formed.
-/

namespace Entitlement.Json

def IsBlanks (bs : Bytes) : Prop := ∀ b ∈ bs, isBlank b = true

instance (bs : Bytes) : Decidable (IsBlanks bs) := decidable_of_iff (bs.all isBlank = true) List.all_eq_true

theorem skipBlank_append {ws : Bytes} (blank : IsBlanks ws) (rest : Bytes) : skipBlank (ws ++ rest) = skipBlank rest :=
  List.dropWhile_append_of_pos blank

/-- Blanks end where something else stands. -/
theorem skipBlank_first {ws : Bytes} (blank : IsBlanks ws) {b : UInt8} (other : isBlank b = false) (rest : Bytes) :
    skipBlank (ws ++ b :: rest) = b :: rest := by
  rw [skipBlank_append blank, skipBlank, List.dropWhile_cons, other]
  rfl

theorem isBlanks_nil : IsBlanks [] := fun _ none => nomatch none

/-! ### Numbers -/

structure IsDigits (ds : Bytes) : Prop where
  any : ds ≠ []
  digits : ∀ d ∈ ds, isDigit d = true

structure IsWhole (ds : Bytes) : Prop extends IsDigits ds where
  noZero : ¬ (ds.head? = some (code '0') ∧ 1 < ds.length)

inductive IsFraction : Bytes → Prop
  | none : IsFraction []
  | digits {ds : Bytes} (digits : IsDigits ds) : IsFraction (code '.' :: ds)

inductive IsExponent : Bytes → Prop
  | none : IsExponent []
  | unsigned {mark : UInt8} {ds : Bytes} (marked : mark = code 'e' ∨ mark = code 'E') (digits : IsDigits ds) :
      IsExponent (mark :: ds)
  | signed {mark sign : UInt8} {ds : Bytes} (marked : mark = code 'e' ∨ mark = code 'E')
      (signed : sign = code '-' ∨ sign = code '+') (digits : IsDigits ds) : IsExponent (mark :: sign :: ds)

inductive IsMagnitude : Bytes → Prop
  | of {ds f e : Bytes} (whole : IsWhole ds) (fraction : IsFraction f) (exponent : IsExponent e) :
      IsMagnitude (ds ++ (f ++ e))

/-! ### Strings -/

/-- What may stand between two quotes. -/
inductive IsContent : Bytes → Prop
  | nil : IsContent []
  | plain {b : UInt8} {bs : Bytes} (plain : isPlain b = true) (behind : IsContent bs) : IsContent (b :: bs)
  | letter {b : UInt8} {bs : Bytes} (letter : (simpleEscape? b).isSome = true) (behind : IsContent bs) :
      IsContent (code '\\' :: b :: bs)
  | digits {d d' d'' d''' : UInt8} {bs : Bytes}
      (hex : ∀ digit ∈ [d, d', d'', d'''], (hexValue? digit).isSome = true) (behind : IsContent bs) :
      IsContent (code '\\' :: code 'u' :: d :: d' :: d'' :: d''' :: bs)

/-! ### Lists and objects -/

structure ElementText where
  before : Bytes := []
  value : Bytes
  after : Bytes := []

/-- A member of an object: the bytes between the quotes of its name, and its value. -/
structure MemberText extends ElementText where
  beforeName : Bytes := []
  name : Bytes
  afterName : Bytes := []

namespace ElementText

def bytes (e : ElementText) : Bytes := e.before ++ (e.value ++ e.after)

structure Spaced (e : ElementText) : Prop where
  before : IsBlanks e.before
  after : IsBlanks e.after

end ElementText

namespace MemberText

def bytes (m : MemberText) : Bytes :=
  m.beforeName ++ code '"' :: (m.name ++ code '"' :: (m.afterName ++ code ':' :: m.toElementText.bytes))

structure Spaced (m : MemberText) : Prop where
  beforeName : IsBlanks m.beforeName
  content : IsContent m.name
  afterName : IsBlanks m.afterName
  element : m.toElementText.Spaced

end MemberText

/-- Parts with a comma between each two of them. -/
def commaSeparated : List Bytes → Bytes
  | [] => []
  | p :: ps => p ++ ps.flatMap (code ',' :: ·)

theorem length_le_parts (ps : List Bytes) : ps.length ≤ (ps.flatMap (code ',' :: ·)).length := by
  induction ps with
  | nil => exact Nat.le_refl 0
  | cons p ps ih =>
    rw [List.flatMap_cons, List.length_append, List.length_cons, List.length_cons]
    omega

/-- `gap` are the blanks of an empty list. -/
def listText (es : List ElementText) (gap : Bytes) : Bytes :=
  code '[' :: (commaSeparated (es.map ElementText.bytes) ++ (gap ++ [code ']']))

def objectText (ms : List MemberText) (gap : Bytes) : Bytes :=
  code '\x7b' :: (commaSeparated (ms.map MemberText.bytes) ++ (gap ++ [code '\x7d']))

inductive IsValue : Bytes → Prop
  | word {bs : Bytes} (known : bs ∈ [utf8 "null", utf8 "true", utf8 "false"]) : IsValue bs
  | positive {bs : Bytes} (magnitude : IsMagnitude bs) : IsValue bs
  | negative {bs : Bytes} (magnitude : IsMagnitude bs) : IsValue (code '-' :: bs)
  | string {bs : Bytes} (content : IsContent bs) : IsValue (code '"' :: (bs ++ [code '"']))
  | list {es : List ElementText} {gap : Bytes} (spaced : ∀ e ∈ es, e.Spaced) (values : ∀ e ∈ es, IsValue e.value)
      (blank : IsBlanks gap) : IsValue (listText es gap)
  | object {ms : List MemberText} {gap : Bytes} (spaced : ∀ m ∈ ms, m.Spaced) (values : ∀ m ∈ ms, IsValue m.value)
      (blank : IsBlanks gap) : IsValue (objectText ms gap)

structure MemberText.Formed (m : MemberText) : Prop where
  spaced : m.Spaced
  value : IsValue m.value

theorem isValue_object {ms : List MemberText} (formed : ∀ m ∈ ms, m.Formed) {gap : Bytes} (blank : IsBlanks gap) :
    IsValue (objectText ms gap) :=
  .object (fun m own => (formed m own).spaced) (fun m own => (formed m own).value) blank

/-! ### Plain texts -/

theorem isContent_append {bs rest : Bytes} (plain : ∀ b ∈ bs, isPlain b = true) (behind : IsContent rest) :
    IsContent (bs ++ rest) := by
  induction bs with
  | nil => exact behind
  | cons b bs ih =>
    obtain ⟨first, others⟩ := List.forall_mem_cons.mp plain
    exact .plain first (ih others)

theorem isContent_plain {bs : Bytes} (plain : ∀ b ∈ bs, isPlain b = true) : IsContent bs :=
  List.append_nil bs ▸ isContent_append plain .nil

theorem isMagnitude_digits {ds : Bytes} (whole : IsWhole ds) : IsMagnitude ds := by
  have magnitude := IsMagnitude.of whole .none .none
  rwa [List.append_nil, List.append_nil] at magnitude

/-! ### Beginnings and ends -/

theorem isDigit_ne {d b : UInt8} (digit : isDigit d = true) (other : isDigit b = false) : d ≠ b := by
  rintro rfl
  exact Bool.false_ne_true (other.symm.trans digit)

theorem IsMagnitude.exists_digit {bs : Bytes} (magnitude : IsMagnitude bs) :
    ∃ d r, bs = d :: r ∧ isDigit d = true := by
  obtain @⟨ds, f, e, whole, _, _⟩ := magnitude
  cases ds with
  | nil => exact (whole.any rfl).elim
  | cons d ds => exact ⟨d, ds ++ (f ++ e), rfl, whole.digits d List.mem_cons_self⟩

theorem word_cases {w : Bytes} (known : w ∈ [utf8 "null", utf8 "true", utf8 "false"]) :
    w = [code 'n', code 'u', code 'l', code 'l'] ∨ w = [code 't', code 'r', code 'u', code 'e'] ∨
      w = [code 'f', code 'a', code 'l', code 's', code 'e'] := by
  have listed : w = utf8 "null" ∨ w = utf8 "true" ∨ w = utf8 "false" := by
    simpa only [List.mem_cons, List.not_mem_nil, or_false] using known
  exact listed

/-- A value begins at once, and not with the bracket that ends a list. -/
theorem IsValue.exists_first {v : Bytes} (value : IsValue v) :
    ∃ b r, v = b :: r ∧ isBlank b = false ∧ b ≠ code ']' := by
  cases value with
  | word known =>
    rcases word_cases known with rfl | rfl | rfl <;> exact ⟨_, _, rfl, by decide, by decide⟩
  | positive magnitude =>
    obtain ⟨d, r, rfl, digit⟩ := magnitude.exists_digit
    exact ⟨d, r, rfl, isBlank_of_isDigit digit, isDigit_ne digit (by decide)⟩
  | _ => exact ⟨_, _, rfl, by decide, by decide⟩

def Continues (b : UInt8) (r : Bytes) : Prop :=
  if b = code 'n' then r = [code 'u', code 'l', code 'l']
  else if b = code 't' then r = [code 'r', code 'u', code 'e']
  else if b = code 'f' then r = [code 'a', code 'l', code 's', code 'e']
  else if b = code '-' then IsMagnitude r
  else if isDigit b then IsMagnitude (b :: r)
  else if b = code '"' then ∃ bs, IsContent bs ∧ r = bs ++ [code '"']
  else if b = code '[' then
    ∃ (es : List ElementText) (gap : Bytes), (∀ e ∈ es, e.Spaced ∧ IsValue e.value) ∧ IsBlanks gap ∧
      r = commaSeparated (es.map ElementText.bytes) ++ (gap ++ [code ']'])
  else
    ∃ (ms : List MemberText) (gap : Bytes), (∀ m ∈ ms, m.Formed) ∧ IsBlanks gap ∧
      r = commaSeparated (ms.map MemberText.bytes) ++ (gap ++ [code '\x7d'])

theorem continues_digit {d : UInt8} (digit : isDigit d = true) {r : Bytes} : Continues d r ↔ IsMagnitude (d :: r) := by
  rw [Continues, if_neg (isDigit_ne digit (by decide)), if_neg (isDigit_ne digit (by decide)),
    if_neg (isDigit_ne digit (by decide)), if_neg (isDigit_ne digit (by decide)), if_pos digit]

theorem IsValue.continues {b : UInt8} {r : Bytes} (value : IsValue (b :: r)) : Continues b r := by
  generalize same : b :: r = v at value
  cases value with
  | word known =>
    rcases word_cases known with rfl | rfl | rfl <;> obtain ⟨rfl, rfl⟩ := List.cons.inj same <;> exact rfl
  | positive magnitude =>
    obtain ⟨d, r', rfl, digit⟩ := magnitude.exists_digit
    obtain ⟨rfl, rfl⟩ := List.cons.inj same
    exact (continues_digit digit).mpr magnitude
  | negative magnitude =>
    obtain ⟨rfl, rfl⟩ := List.cons.inj same
    exact magnitude
  | string content =>
    obtain ⟨rfl, rfl⟩ := List.cons.inj same
    exact ⟨_, content, rfl⟩
  | list spaced values blank =>
    obtain ⟨rfl, rfl⟩ := List.cons.inj same
    exact ⟨_, _, fun e own => ⟨spaced e own, values e own⟩, blank, rfl⟩
  | object spaced values blank =>
    obtain ⟨rfl, rfl⟩ := List.cons.inj same
    exact ⟨_, _, fun m own => ⟨spaced m own, values m own⟩, blank, rfl⟩

/-- Nothing that stands here can belong to a number in front of it. -/
def Delimited (rest : Bytes) : Prop := ∀ b ∈ rest.head?, endsNumber b = true

theorem delimited_nil : Delimited [] := fun _ none => nomatch none

theorem delimited_cons {b : UInt8} (ends : endsNumber b = true) (rest : Bytes) : Delimited (b :: rest) := by
  rintro c ⟨⟩
  exact ends

theorem endsNumber_of_isBlank {b : UInt8} (blank : isBlank b = true) : endsNumber b = true := by
  simp only [isBlank, Bool.or_eq_true, decide_eq_true_eq] at blank
  rcases blank with ((rfl | rfl) | rfl) | rfl <;> decide

theorem Delimited.behind_blanks {ws rest : Bytes} (blank : IsBlanks ws) (delimited : Delimited rest) :
    Delimited (ws ++ rest) := by
  cases ws with
  | nil => exact delimited
  | cons b ws => exact delimited_cons (endsNumber_of_isBlank (blank b List.mem_cons_self)) _

theorem delimited_parts (ps : List Bytes) {gap : Bytes} (blank : IsBlanks gap) {close : UInt8}
    (ends : endsNumber close = true) (rest : Bytes) :
    Delimited (ps.flatMap (code ',' :: ·) ++ (gap ++ close :: rest)) := by
  cases ps with
  | nil =>
    show Delimited (gap ++ close :: rest)
    exact (delimited_cons ends rest).behind_blanks blank
  | cons p ps => exact delimited_cons (by decide) _

end Entitlement.Json
