import Entitlement.Proofs.Json.Parts
import Entitlement.Proofs.Outcome

/-!
Only what is a value of the grammar is passed over (`skipValue_strict`). Each of the readers that it takes to do so is
shown to leave a rest in front of which something of the grammar stands.
-/

namespace Entitlement.Json

/-! ### Words and numbers -/

theorem expect_strict {w bs r : Bytes} (read : expect w bs = .ok r) : bs = w ++ r := by
  induction w generalizing bs with
  | nil => exact Except.ok.inj read
  | cons b w ih =>
    cases bs with
    | nil => cases read
    | cons b' bs =>
      rw [expect] at read
      split at read
      · next same => rw [same, ih read, List.cons_append]
      · cases read

theorem digits_strict {bs ds r : Bytes} (read : digits bs = .ok (ds, r)) : IsDigits ds ∧ bs = ds ++ r := by
  unfold digits at read
  cases taken : bs.takeWhile isDigit with
  | nil =>
    rw [taken] at read
    cases left : bs.dropWhile isDigit <;> rw [left] at read <;> cases read
  | cons d ds' =>
    simp only [taken, Except.ok.injEq, Prod.mk.injEq] at read
    obtain ⟨rfl, rfl⟩ := read
    refine ⟨⟨List.cons_ne_nil d ds', fun d' own => ?_⟩, ?_⟩
    · exact List.mem_takeWhile_imp (taken ▸ own)
    · exact taken ▸ List.takeWhile_append_dropWhile.symm

theorem wholePart_strict {bs ds r : Bytes} (read : wholePart bs = .ok (ds, r)) : IsWhole ds ∧ bs = ds ++ r := by
  unfold wholePart at read
  rcases run : digits bs with f | ⟨ds', r'⟩
  · simp only [run, reduceCtorEq] at read
  · simp only [run] at read
    split at read
    · cases read
    · next noZero =>
      obtain ⟨rfl, rfl⟩ := Prod.mk.inj (Except.ok.inj read)
      obtain ⟨digits, same⟩ := digits_strict run
      exact ⟨⟨digits, noZero⟩, same⟩

theorem fractionPart_strict {bs r : Bytes} {fraction : Option Bytes} (read : fractionPart bs = .ok (fraction, r)) :
    ∃ f, IsFraction f ∧ bs = f ++ r := by
  cases bs with
  | nil =>
    obtain ⟨_, rfl⟩ := Prod.mk.inj (Except.ok.inj read)
    exact ⟨[], .none, rfl⟩
  | cons b bs =>
    rw [fractionPart] at read
    split at read
    · next point =>
      obtain ⟨⟨ds, r'⟩, run, same⟩ := ok_of_map read
      obtain ⟨_, rfl⟩ := Prod.mk.inj same
      obtain ⟨digits, rfl⟩ := digits_strict run
      exact ⟨code '.' :: ds, .digits digits, congrArg (· :: (ds ++ r')) point⟩
    · obtain ⟨_, rfl⟩ := Prod.mk.inj (Except.ok.inj read)
      exact ⟨[], .none, rfl⟩

theorem exponentSign_cases (bs : Bytes) :
    (exponentSign bs).2 = bs ∨ ∃ sign, (sign = code '-' ∨ sign = code '+') ∧ bs = sign :: (exponentSign bs).2 := by
  cases bs with
  | nil => exact Or.inl rfl
  | cons b bs =>
    rw [exponentSign]
    split
    · next minus => exact Or.inr ⟨b, Or.inl minus, rfl⟩
    split
    · next plus => exact Or.inr ⟨b, Or.inr plus, rfl⟩
    · exact Or.inl rfl

theorem exponentPart_strict {bs r : Bytes} {exponent : Option (Bool × Bytes)}
    (read : exponentPart bs = .ok (exponent, r)) : ∃ e, IsExponent e ∧ bs = e ++ r := by
  cases bs with
  | nil =>
    obtain ⟨_, rfl⟩ := Prod.mk.inj (Except.ok.inj read)
    exact ⟨[], .none, rfl⟩
  | cons b bs =>
    rw [exponentPart] at read
    split at read
    · next marked =>
      obtain ⟨⟨ds, r'⟩, run, same⟩ := ok_of_map read
      obtain ⟨_, rfl⟩ := Prod.mk.inj same
      obtain ⟨digits, behind⟩ := digits_strict run
      have behind : (exponentSign bs).2 = ds ++ r' := behind
      rcases exponentSign_cases bs with none | ⟨sign, signed, same⟩
      · exact ⟨b :: ds, .unsigned marked digits, congrArg (b :: ·) (none.symm.trans behind)⟩
      · refine ⟨b :: sign :: ds, .signed marked signed digits, ?_⟩
        rw [same, behind, List.cons_append, List.cons_append]
    · obtain ⟨_, rfl⟩ := Prod.mk.inj (Except.ok.inj read)
      exact ⟨[], .none, rfl⟩

theorem notationOf_strict {negative : Bool} {bs r : Bytes} {n : Notation}
    (read : notationOf negative bs = .ok (n, r)) : ∃ m, IsMagnitude m ∧ bs = m ++ r := by
  unfold notationOf at read
  rcases whole : wholePart bs with f | ⟨ds, r₁⟩
  · simp only [whole, reduceCtorEq] at read
  rcases fraction : fractionPart r₁ with f | ⟨f, r₂⟩
  · simp only [whole, fraction, reduceCtorEq] at read
  simp only [whole, fraction] at read
  obtain ⟨⟨e, r₃⟩, exponent, same⟩ := ok_of_map read
  obtain ⟨_, rfl⟩ := Prod.mk.inj same
  obtain ⟨isWhole, rfl⟩ := wholePart_strict whole
  obtain ⟨f, isFraction, rfl⟩ := fractionPart_strict fraction
  obtain ⟨e, isExponent, rfl⟩ := exponentPart_strict exponent
  refine ⟨ds ++ (f ++ e), .of isWhole isFraction isExponent, ?_⟩
  simp only [List.append_assoc]

/-! ### Strings -/

/-- What stands behind a backslash, however the string goes on. -/
def IsEscape (es : Bytes) : Prop := ∀ ⦃bs : Bytes⦄, IsContent bs → IsContent (code '\\' :: (es ++ bs))

theorem hexEscape_strict {bs r : Bytes} {n : Nat} (read : hexEscape bs = .ok (n, r)) :
    ∃ ds, IsEscape (code 'u' :: ds) ∧ bs = ds ++ r := by
  unfold hexEscape at read
  split at read
  · next d d' d'' d''' rest =>
    split at read
    · next first second third fourth =>
      obtain ⟨_, rfl⟩ := Prod.mk.inj (Except.ok.inj read)
      refine ⟨[d, d', d'', d'''], fun bs behind => .digits ?_ behind, rfl⟩
      simp only [List.forall_mem_cons, first, second, third, fourth, Option.isSome_some, true_and]
      exact List.forall_mem_nil _
    · cases read
  · cases read

theorem lowSurrogate_strict {high : Nat} {bs cs r : Bytes} (read : lowSurrogate high bs = .ok (cs, r)) :
    ∃ es, IsEscape es ∧ bs = code '\\' :: (es ++ r) := by
  cases bs with
  | nil => cases read
  | cons b bs =>
    cases bs with
    | nil =>
      simp only [lowSurrogate] at read
      split at read <;> cases read
    | cons u bs =>
      simp only [lowSurrogate] at read
      split at read
      · cases read
      next backslash =>
      split at read
      · cases read
      next mark =>
      rcases run : hexEscape bs with f | ⟨low, r'⟩
      · simp only [run, reduceCtorEq] at read
      simp only [run] at read
      split at read
      · obtain ⟨_, rfl⟩ := Prod.mk.inj (Except.ok.inj read)
        obtain ⟨ds, escaped, rfl⟩ := hexEscape_strict run
        refine ⟨code 'u' :: ds, escaped, ?_⟩
        rw [Decidable.not_not.mp backslash, Decidable.not_not.mp mark, List.cons_append]
      · cases read

theorem isEscape_letter {b : UInt8} (letter : (simpleEscape? b).isSome = true) : IsEscape [b] :=
  fun _ behind => .letter letter behind

/-- An escape is one of the grammar, or two of them for the halves of one character. -/
theorem escape_strict {bs cs r : Bytes} (read : escape bs = .ok (cs, r)) : ∃ es, IsEscape es ∧ bs = es ++ r := by
  cases bs with
  | nil => cases read
  | cons b bs =>
    rw [escape] at read
    cases letter : simpleEscape? b with
    | some c =>
      simp only [letter] at read
      obtain ⟨_, rfl⟩ := Prod.mk.inj (Except.ok.inj read)
      exact ⟨[b], isEscape_letter (letter ▸ rfl), rfl⟩
    | none =>
      simp only [letter] at read
      split at read
      · cases read
      next mark =>
      obtain rfl := Decidable.not_not.mp mark
      rcases run : hexEscape bs with f | ⟨n, r'⟩
      · simp only [run, reduceCtorEq] at read
      obtain ⟨ds, escaped, rfl⟩ := hexEscape_strict run
      simp only [run] at read
      split at read
      · cases read
      split at read
      · obtain ⟨es, second, rfl⟩ := lowSurrogate_strict read
        refine ⟨code 'u' :: (ds ++ code '\\' :: es), fun bs behind => ?_, ?_⟩
        · rw [List.cons_append, List.append_assoc]
          exact escaped (second behind)
        · rw [List.cons_append, List.append_assoc, List.cons_append]
      · obtain ⟨_, rfl⟩ := Prod.mk.inj (Except.ok.inj read)
        exact ⟨code 'u' :: ds, escaped, rfl⟩

theorem skipEscape_strict {bs r : Bytes} (read : skipEscape bs = .ok r) : ∃ es, IsEscape es ∧ bs = es ++ r := by
  cases bs with
  | nil => cases read
  | cons b bs =>
    rw [skipEscape] at read
    split at read
    · next letter =>
      obtain rfl := Except.ok.inj read
      exact ⟨[b], isEscape_letter letter, rfl⟩
    split at read
    · cases read
    · next mark =>
      obtain rfl := Decidable.not_not.mp mark
      obtain ⟨⟨n, r'⟩, run, rfl⟩ := ok_of_map read
      obtain ⟨ds, escaped, rfl⟩ := hexEscape_strict run
      exact ⟨code 'u' :: ds, escaped, rfl⟩

/-- Up to `rest`, the content of a string and the quote that ends it. -/
def IsContentUpTo (bs rest : Bytes) : Prop := ∃ content, IsContent content ∧ bs = content ++ code '"' :: rest

theorem isContentUpTo_quote (rest : Bytes) : IsContentUpTo (code '"' :: rest) rest := ⟨[], .nil, rfl⟩

namespace IsContentUpTo

variable {bs rest : Bytes}

theorem behind_escape {es : Bytes} (escape : IsEscape es) (content : IsContentUpTo bs rest) :
    IsContentUpTo (code '\\' :: (es ++ bs)) rest := by
  obtain ⟨content, valid, rfl⟩ := content
  refine ⟨code '\\' :: (es ++ content), escape valid, ?_⟩
  rw [List.cons_append, List.append_assoc]

theorem behind_plain {b : UInt8} (plain : isPlain b = true) (content : IsContentUpTo bs rest) :
    IsContentUpTo (b :: bs) rest := by
  obtain ⟨content, valid, rfl⟩ := content
  exact ⟨b :: content, .plain plain valid, rfl⟩

end IsContentUpTo

theorem unescape_strict {fuel : Nat} {bs cs r : Bytes} (read : unescape fuel bs = .ok (cs, r)) :
    IsContentUpTo bs r := by
  induction fuel generalizing bs cs with
  | zero => cases bs <;> cases read
  | succ fuel ih =>
    cases bs with
    | nil => cases read
    | cons b bs =>
      rw [unescape] at read
      split at read
      · next quote =>
        obtain ⟨_, rfl⟩ := Prod.mk.inj (Except.ok.inj read)
        exact quote ▸ isContentUpTo_quote bs
      next noQuote =>
      split at read
      · next backslash =>
        rcases run : escape bs with f | ⟨es, r'⟩
        · simp only [run, reduceCtorEq] at read
        simp only [run] at read
        obtain ⟨⟨more, r''⟩, behind, same⟩ := ok_of_map read
        obtain ⟨_, rfl⟩ := Prod.mk.inj same
        obtain ⟨es, escaped, rfl⟩ := escape_strict run
        exact backslash ▸ (ih behind).behind_escape escaped
      next noBackslash =>
      split at read
      · cases read
      · next noControl =>
        obtain ⟨⟨more, r''⟩, behind, same⟩ := ok_of_map read
        obtain ⟨_, rfl⟩ := Prod.mk.inj same
        exact (ih behind).behind_plain (isPlain_iff.mpr ⟨noQuote, noBackslash, noControl⟩)

theorem skipString_strict {fuel : Nat} {bs r : Bytes} (read : skipString fuel bs = .ok r) : IsContentUpTo bs r := by
  induction fuel generalizing bs with
  | zero => cases bs <;> cases read
  | succ fuel ih =>
    cases bs with
    | nil => cases read
    | cons b bs =>
      rw [skipString] at read
      split at read
      · next quote =>
        obtain rfl := Except.ok.inj read
        exact quote ▸ isContentUpTo_quote bs
      next noQuote =>
      split at read
      · next backslash =>
        cases run : skipEscape bs with
        | error f => simp only [run, reduceCtorEq] at read
        | ok r' =>
          simp only [run] at read
          obtain ⟨es, escaped, rfl⟩ := skipEscape_strict run
          exact backslash ▸ (ih read).behind_escape escaped
      next noBackslash =>
      split at read
      · cases read
      · next noControl => exact (ih read).behind_plain (isPlain_iff.mpr ⟨noQuote, noBackslash, noControl⟩)

theorem string_strict {bs r : Bytes} {s : String} (read : string bs = .ok (s, r)) : IsContentUpTo bs r := by
  unfold string at read
  rcases run : unescape bs.length bs with f | ⟨content, r'⟩
  · simp only [run, reduceCtorEq] at read
  simp only [run] at read
  split at read
  · obtain ⟨_, rfl⟩ := Prod.mk.inj (Except.ok.inj read)
    exact unescape_strict run
  · cases read

/-! ### Values that are passed over -/

theorem skipNumber_strict {negative : Bool} {bs r : Bytes} (read : skipNumber negative bs = .ok r) :
    ∃ m, IsMagnitude m ∧ bs = m ++ r := by
  unfold skipNumber at read
  rcases run : notationOf negative bs with f | ⟨n, r'⟩
  · simp only [run, reduceCtorEq] at read
  · simp only [run] at read
    obtain rfl := Except.ok.inj read
    exact notationOf_strict run

theorem IsContentUpTo.exists_string {bs rest : Bytes} (content : IsContentUpTo bs rest) :
    ∃ v, IsValue v ∧ code '"' :: bs = v ++ rest := by
  obtain ⟨content, valid, rfl⟩ := content
  refine ⟨code '"' :: (content ++ [code '"']), .string valid, ?_⟩
  rw [List.cons_append, List.append_assoc, List.singleton_append]

theorem exists_word {b : UInt8} {w bs r : Bytes} (known : b :: w ∈ [utf8 "null", utf8 "true", utf8 "false"])
    (read : expect w bs = .ok r) : ∃ v, IsValue v ∧ b :: bs = v ++ r :=
  ⟨b :: w, .word known, congrArg (b :: ·) (expect_strict read)⟩

theorem skipScalar_strict {b : UInt8} {r r' : Bytes} (read : skipScalar b r = .ok r') :
    ∃ v, IsValue v ∧ b :: r = v ++ r' := by
  unfold skipScalar at read
  split at read
  · next null => exact null ▸ exists_word (by decide) read
  split at read
  · next yes => exact yes ▸ exists_word (by decide) read
  split at read
  · next no => exact no ▸ exists_word (by decide) read
  split at read
  · next minus =>
    obtain ⟨m, magnitude, rfl⟩ := skipNumber_strict read
    exact ⟨code '-' :: m, .negative magnitude, congrArg (· :: _) minus⟩
  split at read
  · obtain ⟨m, magnitude, same⟩ := skipNumber_strict read
    exact ⟨m, .positive magnitude, same⟩
  split at read
  · next quote => exact quote ▸ (skipString_strict read).exists_string
  · cases read

theorem skipName_strict {bs r : Bytes} (read : skipName bs = .ok r) : IsNameUpTo bs r := by
  unfold skipName at read
  cases begins : skipBlank bs with
  | nil => simp only [begins, reduceCtorEq] at read
  | cons b r₁ =>
    simp only [begins] at read
    split at read
    · cases read
    next quote =>
    obtain rfl := Decidable.not_not.mp quote
    cases run : skipString r₁.length r₁ with
    | error f => simp only [run, reduceCtorEq] at read
    | ok r₂ =>
      simp only [run] at read
      cases colon : skipBlank r₂ with
      | nil => simp only [colon, reduceCtorEq] at read
      | cons c r₃ =>
        simp only [colon] at read
        split at read
        · next mark =>
          subst mark
          obtain rfl := Except.ok.inj read
          obtain ⟨ws, blank, rfl⟩ := exists_blanks begins
          obtain ⟨name, content, rfl⟩ := skipString_strict run
          obtain ⟨ws', blank', rfl⟩ := exists_blanks colon
          exact ⟨ws, name, ws', blank, content, blank', rfl⟩
        · cases read

/-- What the brackets that are open still take, up to `rest`. -/
def Closes : List Bracket → Bytes → Bytes → Prop
  | [], bs, rest => bs = rest
  | bracket :: outer, bs, rest => ∃ mid, IsTail bracket bs mid ∧ Closes outer mid rest

def Follows : Place → List Bracket → Bytes → Bytes → Prop
  | .value, opened, bs, rest => ∃ mid, IsValueUpTo bs mid ∧ Closes opened mid rest
  | .name, opened, bs, rest => ∃ mid, IsPartUpTo .object bs mid ∧ Closes opened mid rest
  | .after, opened, bs, rest => Closes opened bs rest

theorem Follows.exists_part {bracket : Bracket} {opened : List Bracket} {bs rest : Bytes}
    (follows : Follows (partPlace bracket) opened bs rest) :
    ∃ mid, IsPartUpTo bracket bs mid ∧ Closes opened mid rest := by
  cases bracket <;> exact follows

theorem follows_bracket (bracket : Bracket) {opened : List Bracket} {fuel : Nat} {r r' rest : Bytes} {c : UInt8}
    (ih : ∀ {place opened bs}, skipFrom fuel place opened bs = .ok rest → Follows place opened bs rest)
    (begins : skipBlank r = c :: r')
    (read : (if c = closeBracket bracket then skipFrom fuel .after opened r'
      else skipFrom fuel (partPlace bracket) (bracket :: opened) r) = .ok rest) {ws : Bytes} (blank : IsBlanks ws) :
    Follows .value opened (ws ++ openBracket bracket :: r) rest := by
  split at read
  · next close =>
    obtain ⟨gap, blankGap, rfl⟩ := exists_blanks begins
    exact ⟨r', (close ▸ IsBody.empty blankGap).isValueUpTo blank, ih read⟩
  · obtain ⟨mid, part, mid', tail, closes⟩ := (ih read).exists_part
    exact ⟨mid', (IsBody.parts part tail).isValueUpTo blank, closes⟩

/-- Whatever has been begun goes on as the grammar has it. All places are shown at once, by induction on the steps: each
of them leads to another one. -/
theorem skipFrom_strict {fuel : Nat} {rest : Bytes} : ∀ {place : Place} {opened : List Bracket} {bs : Bytes},
    skipFrom fuel place opened bs = .ok rest → Follows place opened bs rest := by
  induction fuel with
  | zero =>
    intro place opened bs read
    cases read
  | succ fuel ih =>
    intro place opened bs read
    cases place with
    | value =>
      rw [skipFrom] at read
      cases begins : skipBlank bs with
      | nil => simp only [begins, reduceCtorEq] at read
      | cons b r =>
        simp only [begins] at read
        obtain ⟨ws, blank, rfl⟩ := exists_blanks begins
        split at read
        · next list =>
          cases inner : skipBlank r with
          | nil => simp only [inner, reduceCtorEq] at read
          | cons c r' =>
            simp only [inner] at read
            exact list ▸ follows_bracket .list ih inner read blank
        split at read
        · next object =>
          cases inner : skipBlank r with
          | nil => simp only [inner, reduceCtorEq] at read
          | cons c r' =>
            simp only [inner] at read
            exact object ▸ follows_bracket .object ih inner read blank
        · cases run : skipScalar b r with
          | error f => simp only [run, reduceCtorEq] at read
          | ok r' =>
            simp only [run] at read
            obtain ⟨v, value, same⟩ := skipScalar_strict run
            exact ⟨r', ⟨ws, v, blank, value, congrArg (ws ++ ·) same⟩, ih read⟩
    | name =>
      rw [skipFrom] at read
      cases run : skipName bs with
      | error f => simp only [run, reduceCtorEq] at read
      | ok r =>
        simp only [run] at read
        obtain ⟨mid, value, closes⟩ := ih read
        exact ⟨mid, ⟨r, skipName_strict run, value⟩, closes⟩
    | after =>
      cases opened with
      | nil => exact Except.ok.inj read
      | cons bracket outer =>
        rw [skipFrom] at read
        cases begins : skipBlank bs with
        | nil => simp only [begins, reduceCtorEq] at read
        | cons b r =>
          simp only [begins] at read
          obtain ⟨ws, blank, rfl⟩ := exists_blanks begins
          have read : (if b = code ',' then skipFrom fuel (partPlace bracket) (bracket :: outer) r
              else if b = closeBracket bracket then skipFrom fuel .after outer r
              else .error .malformed) = .ok rest := by cases bracket <;> exact read
          split at read
          · next comma =>
            obtain ⟨mid, part, mid', tail, closes⟩ := (ih read).exists_part
            exact ⟨mid', comma ▸ .more blank part tail, closes⟩
          split at read
          · next close => exact ⟨r, close ▸ .close blank, ih read⟩
          · cases read

theorem skipValue_strict {bs rest : Bytes} (read : skipValue bs = .ok rest) : IsValueUpTo bs rest := by
  obtain ⟨mid, value, rfl⟩ : Follows .value [] bs rest := skipFrom_strict read
  exact value

end Entitlement.Json
