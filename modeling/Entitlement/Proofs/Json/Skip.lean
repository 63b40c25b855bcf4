import Entitlement.Proofs.Json.Grammar

/-!
A value of the grammar is passed over exactly, whatever it is and however deep it is nested (`skipValue_value`). The
induction is on the value: what is shown of it is shown under any brackets that are open, so that it holds of the
elements of a list and the members of an object too.
-/

namespace Entitlement.Json

/-! ### Numbers -/

theorem fractionPart_append {f : Bytes} (fraction : IsFraction f) :
    ∃ read, ∀ rest : Bytes, (∀ b ∈ rest.head?, isDigit b = false ∧ b ≠ code '.') →
      fractionPart (f ++ rest) = .ok (read, rest) := by
  cases fraction with
  | none =>
    refine ⟨none, fun rest ends => ?_⟩
    cases rest with
    | nil => rfl
    | cons b rest => exact if_neg (ends b rfl).2
  | @digits ds written =>
    refine ⟨some ds, fun rest ends => ?_⟩
    have noDigit : ∀ b ∈ rest.head?, isDigit b = false := fun b first => (ends b first).1
    rw [List.cons_append, fractionPart, if_pos rfl, digits_append written.any written.digits noDigit]
    rfl

theorem exponentPart_append {e : Bytes} (exponent : IsExponent e) :
    ∃ read, ∀ rest, Delimited rest → exponentPart (e ++ rest) = .ok (read, rest) := by
  have noDigit {rest : Bytes} (delimited : Delimited rest) : ∀ b ∈ rest.head?, isDigit b = false := by
    intro b first
    have ends := delimited b first
    simp only [endsNumber, Bool.and_eq_true, Bool.not_eq_eq_eq_not, Bool.not_true] at ends
    exact ends.1.1.1
  cases exponent with
  | none =>
    refine ⟨none, fun rest delimited => ?_⟩
    cases rest with
    | nil => rfl
    | cons b rest =>
      have ends := delimited b rfl
      simp only [endsNumber, Bool.and_eq_true, decide_eq_true_eq] at ends
      exact if_neg (not_or.mpr ⟨ends.1.2, ends.2⟩)
  | @unsigned mark ds marked written =>
    refine ⟨some (false, ds), fun rest delimited => ?_⟩
    -- What follows the mark at once is a digit, so no sign is taken for one.
    obtain ⟨d, ds, rfl⟩ := List.exists_cons_of_ne_nil written.any
    have digit := written.digits d List.mem_cons_self
    have plain : exponentSign (d :: (ds ++ rest)) = (false, d :: (ds ++ rest)) := by
      rw [exponentSign, if_neg (isDigit_ne digit (by decide)), if_neg (isDigit_ne digit (by decide))]
    have run := digits_append written.any written.digits (noDigit delimited)
    rw [List.cons_append] at run
    rw [List.cons_append, List.cons_append, exponentPart, if_pos marked]
    simp only [plain, run]
    rfl
  | @signed mark sign ds marked signed written =>
    refine ⟨some (decide (sign = code '-'), ds), fun rest delimited => ?_⟩
    have taken : exponentSign (sign :: (ds ++ rest)) = (decide (sign = code '-'), ds ++ rest) := by
      rcases signed with rfl | rfl <;> rfl
    rw [List.cons_append, List.cons_append, exponentPart, if_pos marked]
    simp only [taken, digits_append written.any written.digits (noDigit delimited)]
    rfl

theorem notationOf_magnitude {bs : Bytes} (magnitude : IsMagnitude bs) (negative : Bool) :
    ∃ n, ∀ rest, Delimited rest → notationOf negative (bs ++ rest) = .ok (n, rest) := by
  obtain @⟨ds, f, e, whole, fraction, exponent⟩ := magnitude
  obtain ⟨readFraction, fractionRun⟩ := fractionPart_append fraction
  obtain ⟨readExponent, exponentRun⟩ := exponentPart_append exponent
  refine ⟨⟨negative, ds, readFraction, readExponent⟩, fun rest delimited => ?_⟩
  have behindFraction : ∀ b ∈ (e ++ rest).head?, isDigit b = false ∧ b ≠ code '.' := by
    cases exponent with
    | none =>
      intro b first
      have ends := delimited b first
      simp only [endsNumber, Bool.and_eq_true, Bool.not_eq_eq_eq_not, Bool.not_true, decide_eq_true_eq] at ends
      exact ends.1.1
    | unsigned marked _ => rintro b ⟨⟩; rcases marked with rfl | rfl <;> decide
    | signed marked _ _ => rintro b ⟨⟩; rcases marked with rfl | rfl <;> decide
  have behindWhole : ∀ b ∈ (f ++ (e ++ rest)).head?, isDigit b = false := by
    cases fraction with
    | none => exact fun b first => (behindFraction b first).1
    | digits _ => rintro b ⟨⟩; decide
  rw [List.append_assoc, List.append_assoc, notationOf, wholePart, digits_append whole.any whole.digits behindWhole]
  simp only [if_neg whole.noZero, fractionRun _ behindFraction, exponentRun _ delimited]
  rfl

theorem skipNumber_magnitude {bs rest : Bytes} (magnitude : IsMagnitude bs) (delimited : Delimited rest)
    (negative : Bool) : skipNumber negative (bs ++ rest) = .ok rest := by
  obtain ⟨n, run⟩ := notationOf_magnitude magnitude negative
  rw [skipNumber, run rest delimited]

/-! ### Strings -/

theorem hexEscape_digits {d d' d'' d''' : UInt8}
    (hex : ∀ digit ∈ [d, d', d'', d'''], (hexValue? digit).isSome = true) :
    ∃ n, ∀ rest, hexEscape (d :: d' :: d'' :: d''' :: rest) = .ok (n, rest) := by
  simp only [List.forall_mem_cons, Option.isSome_iff_exists] at hex
  obtain ⟨⟨a, first⟩, ⟨b, second⟩, ⟨c, third⟩, ⟨d, fourth⟩, _⟩ := hex
  exact ⟨_, fun rest => by simp only [hexEscape, first, second, third, fourth]; rfl⟩

theorem isPlain_iff {b : UInt8} : isPlain b = true ↔ b ≠ code '"' ∧ b ≠ code '\\' ∧ ¬ b < 0x20 := by
  simp only [isPlain, ne_eq, Bool.and_eq_true, decide_eq_true_eq, and_assoc, UInt8.not_lt]

theorem skipString_content {bs : Bytes} (content : IsContent bs) {fuel : Nat} (enough : bs.length < fuel)
    (rest : Bytes) : skipString fuel (bs ++ code '"' :: rest) = .ok rest := by
  have noQuote : code '\\' ≠ code '"' := by decide
  induction content generalizing fuel with
  | nil =>
    obtain ⟨fuel, rfl⟩ := Nat.exists_eq_add_of_lt enough
    exact if_pos rfl
  | plain plain behind ih =>
    obtain ⟨fuel, rfl⟩ := Nat.exists_eq_add_one_of_ne_zero (Nat.ne_zero_of_lt enough)
    obtain ⟨noEnd, noBackslash, noControl⟩ := isPlain_iff.mp plain
    rw [List.cons_append, skipString, if_neg noEnd, if_neg noBackslash, if_neg noControl]
    exact ih (Nat.lt_of_succ_lt_succ enough)
  | letter letter behind ih =>
    obtain ⟨fuel, rfl⟩ := Nat.exists_eq_add_one_of_ne_zero (Nat.ne_zero_of_lt enough)
    simp only [List.length_cons] at enough
    rw [List.cons_append, List.cons_append, skipString, if_neg noQuote, if_pos rfl, skipEscape, if_pos letter]
    exact ih (by omega)
  | digits hex behind ih =>
    obtain ⟨fuel, rfl⟩ := Nat.exists_eq_add_one_of_ne_zero (Nat.ne_zero_of_lt enough)
    obtain ⟨n, run⟩ := hexEscape_digits hex
    have noLetter : ¬ (simpleEscape? (code 'u')).isSome = true := by decide
    have mark : ¬ code 'u' ≠ code 'u' := fun differs => differs rfl
    simp only [List.length_cons] at enough
    simp only [List.cons_append, skipString, if_neg noQuote, ↓reduceIte, skipEscape, if_neg noLetter, if_neg mark, run]
    exact ih (by omega)

/-! ### Walking -/

/-- From one place to another, with no more steps than bytes passed. -/
def Walks (place : Place) (opened : List Bracket) (bs : Bytes) (place' : Place) (opened' : List Bracket)
    (bs' : Bytes) : Prop :=
  ∃ steps, steps + bs'.length ≤ bs.length ∧
    ∀ fuel, skipFrom (fuel + steps) place opened bs = skipFrom fuel place' opened' bs'

section Walks

variable {place place' place'' : Place} {opened opened' opened'' : List Bracket} {bs bs' bs'' : Bytes}

theorem Walks.one (less : bs'.length < bs.length)
    (step : ∀ fuel, skipFrom (fuel + 1) place opened bs = skipFrom fuel place' opened' bs') :
    Walks place opened bs place' opened' bs' :=
  ⟨1, by omega, step⟩

theorem Walks.trans (first : Walks place opened bs place' opened' bs')
    (second : Walks place' opened' bs' place'' opened'' bs'') : Walks place opened bs place'' opened'' bs'' := by
  obtain ⟨steps, few, run⟩ := first
  obtain ⟨steps', few', run'⟩ := second
  refine ⟨steps' + steps, by omega, fun fuel => ?_⟩
  rw [← Nat.add_assoc, run, run']

end Walks

variable {opened : List Bracket} {ws rest : Bytes}

theorem walks_scalar {b : UInt8} {r : Bytes} (blank : IsBlanks ws) (first : isBlank b = false)
    (noList : b ≠ code '[') (noObject : b ≠ code '\x7b') (run : skipScalar b (r ++ rest) = .ok rest) :
    Walks .value opened (ws ++ (b :: r ++ rest)) .after opened rest := by
  refine .one (by simp only [List.length_append, List.length_cons]; omega) fun fuel => ?_
  rw [skipFrom, List.cons_append, skipBlank_first blank first]
  simp only [if_neg noList, if_neg noObject, run]

/-! ### Lists and objects -/

def partPlace : Bracket → Place
  | .list => .value
  | .object => .name

def openBracket : Bracket → UInt8
  | .list => code '['
  | .object => code '\x7b'

def closeBracket : Bracket → UInt8
  | .list => code ']'
  | .object => code '\x7d'

theorem endsNumber_closeBracket (bracket : Bracket) : endsNumber (closeBracket bracket) = true := by
  cases bracket <;> decide

section Parts

variable {bracket : Bracket}

theorem walks_blanks (blank : IsBlanks ws) (rest : Bytes) :
    Walks .after (bracket :: opened) (ws ++ rest) .after (bracket :: opened) rest := by
  -- They take no step of their own: the next one passes them.
  refine ⟨0, by simp only [List.length_append]; omega, fun fuel => ?_⟩
  cases fuel with
  | zero => rfl
  | succ fuel => rw [Nat.add_zero, skipFrom, skipFrom, skipBlank_append blank]

theorem walks_comma (rest : Bytes) :
    Walks .after (bracket :: opened) (code ',' :: rest) (partPlace bracket) (bracket :: opened) rest := by
  refine .one (Nat.lt_succ_self _) fun fuel => ?_
  rw [skipFrom]
  cases bracket <;> rfl

theorem walks_close (rest : Bytes) :
    Walks .after (bracket :: opened) (closeBracket bracket :: rest) .after opened rest := by
  refine .one (Nat.lt_succ_self _) fun fuel => ?_
  rw [skipFrom]
  cases bracket <;> rfl

/-- The parts behind the first one, up to the end of the list or object. -/
theorem walks_parts {ps : List Bytes} {gap : Bytes} (blank : IsBlanks gap)
    (each : ∀ p ∈ ps, ∀ rest, Delimited rest →
      Walks (partPlace bracket) (bracket :: opened) (p ++ rest) .after (bracket :: opened) rest) :
    Walks .after (bracket :: opened) (ps.flatMap (code ',' :: ·) ++ (gap ++ closeBracket bracket :: rest)) .after opened
      rest := by
  induction ps with
  | nil => exact (walks_blanks blank _).trans (walks_close rest)
  | cons p ps ih =>
    obtain ⟨first, others⟩ := List.forall_mem_cons.mp each
    rw [List.flatMap_cons, List.cons_append, List.cons_append, List.append_assoc]
    exact (walks_comma _).trans
      ((first _ (delimited_parts ps blank (endsNumber_closeBracket bracket) rest)).trans (ih others))

theorem walks_bracketed (bracket : Bracket) {ps : List Bytes} {gap : Bytes} (blank : IsBlanks ws)
    (blankGap : IsBlanks gap)
    (begins : ∀ p ∈ ps, ∀ rest, ∃ b r, skipBlank (p ++ rest) = b :: r ∧ b ≠ closeBracket bracket)
    (each : ∀ p ∈ ps, ∀ rest, Delimited rest →
      Walks (partPlace bracket) (bracket :: opened) (p ++ rest) .after (bracket :: opened) rest) :
    Walks .value opened (ws ++ openBracket bracket :: (commaSeparated ps ++ (gap ++ closeBracket bracket :: rest)))
      .after opened rest := by
  have first : isBlank (openBracket bracket) = false := by cases bracket <;> decide
  cases ps with
  | nil =>
    refine .one (by simp only [List.length_append, List.length_cons]; omega) fun fuel => ?_
    rw [skipFrom, skipBlank_first blank first]
    have ending :
        skipBlank (commaSeparated [] ++ (gap ++ closeBracket bracket :: rest)) = closeBracket bracket :: rest :=
      skipBlank_first blankGap (by cases bracket <;> decide) rest
    cases bracket <;> simp only [ending] <;> rfl
  | cons p ps =>
    obtain ⟨walk, others⟩ := List.forall_mem_cons.mp each
    obtain ⟨b, r, start, noEnd⟩ := begins p List.mem_cons_self
      (ps.flatMap (code ',' :: ·) ++ (gap ++ closeBracket bracket :: rest))
    rw [commaSeparated, List.append_assoc]
    have opens : Walks .value opened
        (ws ++ openBracket bracket :: (p ++ (ps.flatMap (code ',' :: ·) ++ (gap ++ closeBracket bracket :: rest))))
        (partPlace bracket) (bracket :: opened)
        (p ++ (ps.flatMap (code ',' :: ·) ++ (gap ++ closeBracket bracket :: rest))) := by
      refine .one (by simp only [List.length_append, List.length_cons]; omega) fun fuel => ?_
      rw [skipFrom, skipBlank_first blank first]
      cases bracket with
      | list =>
        have noEnd : b ≠ code ']' := noEnd
        simp only [openBracket, ↓reduceIte, start, if_neg noEnd, partPlace]
      | object =>
        have noEnd : b ≠ code '\x7d' := noEnd
        have noList : code '\x7b' ≠ code '[' := by decide
        simp only [openBracket, if_neg noList, ↓reduceIte, start, if_neg noEnd, partPlace]
    exact opens.trans ((walk _ (delimited_parts ps blankGap (endsNumber_closeBracket bracket) rest)).trans
      (walks_parts blankGap others))

end Parts

theorem skipName_member {m : MemberText} (spaced : m.Spaced) (rest : Bytes) :
    skipName (m.bytes ++ rest) = .ok (m.toElementText.bytes ++ rest) := by
  have enough : m.name.length <
      (m.name ++ code '"' :: (m.afterName ++ code ':' :: (m.toElementText.bytes ++ rest))).length := by
    simp only [List.length_append, List.length_cons]
    omega
  have noQuote : isBlank (code '"') = false := by decide
  have noColon : isBlank (code ':') = false := by decide
  have mark : ¬ code '"' ≠ code '"' := fun differs => differs rfl
  simp only [MemberText.bytes, List.append_assoc, List.cons_append, skipName, skipBlank_first spaced.beforeName noQuote,
    if_neg mark, skipString_content spaced.content enough, skipBlank_first spaced.afterName noColon, ↓reduceIte]

theorem walks_name {m : MemberText} (spaced : m.Spaced) (rest : Bytes) :
    Walks .name opened (m.bytes ++ rest) .value opened (m.toElementText.bytes ++ rest) := by
  refine .one ?_ fun fuel => ?_
  · simp only [MemberText.bytes, List.length_append, List.length_cons]
    omega
  · rw [skipFrom, skipName_member spaced]

theorem walks_element {bracket : Bracket} {e : ElementText} (spaced : e.Spaced)
    (walk : ∀ {ws rest}, IsBlanks ws → Delimited rest →
      Walks .value (bracket :: opened) (ws ++ (e.value ++ rest)) .after (bracket :: opened) rest)
    (delimited : Delimited rest) :
    Walks .value (bracket :: opened) (e.bytes ++ rest) .after (bracket :: opened) rest := by
  rw [ElementText.bytes, List.append_assoc, List.append_assoc]
  exact (walk spaced.before (delimited.behind_blanks spaced.after)).trans (walks_blanks spaced.after rest)

/-! ### Values -/

/-- A value is walked past whole, whatever brackets are open around it. -/
theorem walks_value {v : Bytes} (value : IsValue v) (opened : List Bracket) {ws rest : Bytes} (blank : IsBlanks ws)
    (delimited : Delimited rest) : Walks .value opened (ws ++ (v ++ rest)) .after opened rest := by
  induction value generalizing opened ws rest with
  | word known =>
    rcases word_cases known with rfl | rfl | rfl
    · exact walks_scalar blank (by decide) (by decide) (by decide) rfl
    · exact walks_scalar blank (by decide) (by decide) (by decide) rfl
    · exact walks_scalar blank (by decide) (by decide) (by decide) rfl
  | positive magnitude =>
    have run := skipNumber_magnitude magnitude delimited false
    obtain ⟨d, r, rfl, digit⟩ := magnitude.exists_digit
    have other {b : UInt8} (noDigit : isDigit b = false) : d ≠ b := isDigit_ne digit noDigit
    refine walks_scalar blank (isBlank_of_isDigit digit) (other (by decide)) (other (by decide)) ?_
    rw [skipScalar, if_neg (other (by decide)), if_neg (other (by decide)), if_neg (other (by decide)),
      if_neg (other (by decide)), if_pos digit]
    exact run
  | negative magnitude =>
    exact walks_scalar blank (by decide) (by decide) (by decide) (skipNumber_magnitude magnitude delimited true)
  | @string bs content =>
    refine walks_scalar blank (by decide) (by decide) (by decide) ?_
    rw [List.append_assoc]
    exact skipString_content content (by simp only [List.length_append, List.length_cons]; omega) rest
  | @list es gap spaced values blankGap ih =>
    rw [listText, List.cons_append, List.append_assoc, List.append_assoc]
    refine walks_bracketed .list blank blankGap ?_ ?_
    · intro p member rest
      obtain ⟨e, own, rfl⟩ := List.mem_map.mp member
      obtain ⟨b, r, same, first, noEnd⟩ := (values e own).exists_first
      refine ⟨b, r ++ (e.after ++ rest), ?_, noEnd⟩
      rw [ElementText.bytes, same, List.append_assoc, List.append_assoc]
      exact skipBlank_first (spaced e own).before first _
    · intro p member rest delimited
      obtain ⟨e, own, rfl⟩ := List.mem_map.mp member
      exact walks_element (spaced e own) (fun blank delimited => ih e own _ blank delimited) delimited
  | @object ms gap spaced values blankGap ih =>
    rw [objectText, List.cons_append, List.append_assoc, List.append_assoc]
    refine walks_bracketed .object blank blankGap ?_ ?_
    · intro p member rest
      obtain ⟨m, own, rfl⟩ := List.mem_map.mp member
      refine ⟨code '"', m.name ++ code '"' :: (m.afterName ++ code ':' :: m.toElementText.bytes) ++ rest, ?_, by decide⟩
      rw [MemberText.bytes, List.append_assoc]
      exact skipBlank_first (spaced m own).beforeName (by decide) _
    · intro p member rest delimited
      obtain ⟨m, own, rfl⟩ := List.mem_map.mp member
      exact (walks_name (spaced m own) rest).trans
        (walks_element (spaced m own).element (fun blank delimited => ih m own _ blank delimited) delimited)

theorem skipValue_value {v : Bytes} (value : IsValue v) {ws rest : Bytes} (blank : IsBlanks ws)
    (delimited : Delimited rest) : skipValue (ws ++ (v ++ rest)) = .ok rest := by
  obtain ⟨steps, few, run⟩ := walks_value value [] blank delimited
  -- The fuel is two more than there are bytes, and the last step is one that takes none.
  obtain ⟨fuel, enough⟩ : ∃ fuel, (ws ++ (v ++ rest)).length + 2 = fuel + 1 + steps :=
    ⟨(ws ++ (v ++ rest)).length + 1 - steps, by omega⟩
  rw [skipValue, enough, run]
  rfl

end Entitlement.Json
