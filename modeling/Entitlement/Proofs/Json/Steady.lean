import Entitlement.Proofs.Json.Skip

/-!
What a reader makes of a value does not depend on what stands around it: it takes the value whole, or it refuses it, and
it does the same wherever the value stands (`Steady`). That is what lets the members of an object change places.
-/

namespace Entitlement.Json

variable {α β : Type}

/-! ### Outcomes -/

/-- A reader stops in front of `rest` with `out`, or it fails if that is none. -/
def Yields (run : Read α) (out : Option α) (rest : Bytes) : Prop := run.toOption = out.map (·, rest)

namespace Yields

variable {run : Read α} {out : Option α} {rest : Bytes}

theorem error (f : Fault) (rest : Bytes) : Yields (.error f : Read α) none rest := rfl

theorem cases (yields : Yields run out rest) :
    (∃ a, run = .ok (a, rest) ∧ out = some a) ∨ ∃ f, run = .error f ∧ out = none := by
  cases run with
  | error f =>
    cases out with
    | none => exact Or.inr ⟨f, rfl, rfl⟩
    | some a => cases yields
  | ok found =>
    cases out with
    | none => cases yields
    | some a => exact Or.inl ⟨a, congrArg Except.ok (Option.some.inj yields), rfl⟩

theorem ok_iff (yields : Yields run out rest) {a : α} {r : Bytes} : run = .ok (a, r) ↔ out = some a ∧ r = rest := by
  rcases yields.cases with ⟨a', rfl, rfl⟩ | ⟨f, rfl, rfl⟩
  · simp only [Except.ok.injEq, Prod.mk.injEq, Option.some.injEq, eq_comm]
  · exact ⟨nofun, nofun⟩

theorem value (yields : Yields run out rest) : run.toOption.map Prod.fst = out := by
  rcases yields.cases with ⟨a, rfl, rfl⟩ | ⟨f, rfl, rfl⟩ <;> rfl

theorem map (yields : Yields run out rest) (f : α → β) : Yields (run.map fun (a, r) => (f a, r)) (out.map f) rest := by
  rcases yields.cases with ⟨a, rfl, rfl⟩ | ⟨e, rfl, rfl⟩ <;> rfl

theorem narrow (yields : Yields run out rest) (f : α → Option β) : Yields (narrow f run) (out.bind f) rest := by
  rcases yields.cases with ⟨a, rfl, rfl⟩ | ⟨e, rfl, rfl⟩
  · cases found : f a <;> simp only [Json.narrow, Option.bind_some, found] <;> rfl
  · rfl

theorem refuse (b : UInt8) (r rest : Bytes) : Yields (refuse b r : Read α) none rest := by
  unfold Json.refuse
  dsimp only
  repeat' split
  all_goals rfl

end Yields

/-! ### Strings -/

/-- What these bytes mean is settled by the quote behind them. -/
def Decodes (bs : Bytes) : Prop :=
  ∃ out, ∀ {fuel : Nat} (rest : Bytes), bs.length < fuel → Yields (unescape fuel (bs ++ code '"' :: rest)) out rest

theorem decodes_nil : Decodes [] := by
  refine ⟨some [], fun {fuel} rest enough => ?_⟩
  obtain ⟨fuel, rfl⟩ := Nat.exists_eq_add_of_lt enough
  exact congrArg Except.toOption (if_pos rfl)

theorem Decodes.plain {b : UInt8} {bs : Bytes} (plain : isPlain b = true) (behind : Decodes bs) :
    Decodes (b :: bs) := by
  obtain ⟨out, decoded⟩ := behind
  obtain ⟨noEnd, noBackslash, noControl⟩ := isPlain_iff.mp plain
  refine ⟨out.map (b :: ·), fun {fuel} rest enough => ?_⟩
  obtain ⟨fuel, rfl⟩ := Nat.exists_eq_add_one_of_ne_zero (Nat.ne_zero_of_lt enough)
  rw [List.cons_append, unescape, if_neg noEnd, if_neg noBackslash, if_neg noControl]
  exact (decoded rest (Nat.lt_of_succ_lt_succ enough)).map _

theorem decodes_escape {es : Bytes}
    (run : (∃ cs bs, Decodes bs ∧ bs.length ≤ es.length ∧
        ∀ rest, escape (es ++ code '"' :: rest) = .ok (cs, bs ++ code '"' :: rest)) ∨
      ∀ rest, ∃ f, escape (es ++ code '"' :: rest) = .error f) : Decodes (code '\\' :: es) := by
  have noQuote : code '\\' ≠ code '"' := by decide
  rcases run with ⟨cs, bs, ⟨out, decoded⟩, shorter, run⟩ | run
  · refine ⟨out.map (cs ++ ·), fun {fuel} rest enough => ?_⟩
    obtain ⟨fuel, rfl⟩ := Nat.exists_eq_add_one_of_ne_zero (Nat.ne_zero_of_lt enough)
    rw [List.length_cons] at enough
    rw [List.cons_append, unescape, if_neg noQuote, if_pos rfl, run]
    exact (decoded rest (by omega)).map _
  · refine ⟨none, fun {fuel} rest enough => ?_⟩
    obtain ⟨fuel, rfl⟩ := Nat.exists_eq_add_one_of_ne_zero (Nat.ne_zero_of_lt enough)
    obtain ⟨f, failed⟩ := run rest
    rw [List.cons_append, unescape, if_neg noQuote, if_pos rfl, failed]
    exact .error f rest

def Completes (bs : Bytes) : Prop :=
  ∀ high, (∃ cs bs', Decodes bs' ∧ bs'.length ≤ bs.length ∧
      ∀ rest, lowSurrogate high (bs ++ code '"' :: rest) = .ok (cs, bs' ++ code '"' :: rest)) ∨
    ∀ rest, ∃ f, lowSurrogate high (bs ++ code '"' :: rest) = .error f

/-- The escape of a character above the first plane is one of two halves, and so what stands behind an escape matters
to it. -/
theorem decodes_content {bs : Bytes} (content : IsContent bs) : Decodes bs ∧ Completes bs := by
  have noLetter : simpleEscape? (code 'u') = none := by decide
  have backslash : ¬ code '\\' ≠ code '\\' := fun differs => differs rfl
  have mark : ¬ code 'u' ≠ code 'u' := fun differs => differs rfl
  induction content with
  | nil =>
    exact ⟨decodes_nil, fun high => Or.inr fun rest => ⟨.malformed, rfl⟩⟩
  | plain plain behind ih =>
    have noBackslash := (isPlain_iff.mp plain).2.1
    exact ⟨ih.1.plain plain, fun high => Or.inr fun rest => ⟨.malformed, if_pos noBackslash⟩⟩
  | @letter b bs letter behind ih =>
    obtain ⟨c, letter⟩ := Option.isSome_iff_exists.mp letter
    refine ⟨decodes_escape (Or.inl ⟨[c], bs, ih.1, Nat.le_succ _, fun rest => ?_⟩), fun high => Or.inr fun rest => ?_⟩
    · rw [List.cons_append, escape, letter]
    · have noDigits : b ≠ code 'u' := by
        rintro rfl
        cases noLetter.symm.trans letter
      exact ⟨.malformed, by simp only [List.cons_append, lowSurrogate, if_neg backslash, if_pos noDigits]⟩
  | @digits d d' d'' d''' bs hex behind ih =>
    obtain ⟨n, run⟩ := hexEscape_digits hex
    refine ⟨decodes_escape ?_, fun high => ?_⟩
    · simp only [List.cons_append, escape, noLetter, if_neg mark, run]
      by_cases low : isLowSurrogate n = true
      · exact Or.inr fun rest => ⟨_, if_pos low⟩
      by_cases high : isHighSurrogate n = true
      · simp only [if_neg low, if_pos high]
        -- Half a character needs the other half at once, and what stands here settles whether it comes.
        rcases ih.2 n with ⟨cs, bs', decodes, shorter, completed⟩ | failed
        · exact Or.inl ⟨cs, bs', decodes, by simp only [List.length_cons]; omega, completed⟩
        · exact Or.inr failed
      · simp only [if_neg low, if_neg high]
        exact Or.inl ⟨_, bs, ih.1, by simp only [List.length_cons]; omega, fun rest => rfl⟩
    · simp only [List.cons_append, lowSurrogate, if_neg backslash, if_neg mark, run]
      by_cases low : isLowSurrogate n = true
      · simp only [if_pos low]
        exact Or.inl ⟨_, bs, ih.1, by simp only [List.length_cons]; omega, fun rest => rfl⟩
      · exact Or.inr fun rest => ⟨_, if_neg low⟩

/-- What the bytes between two quotes mean, if that is Unicode text. -/
def textOf (content : Bytes) : Option String := (string (content ++ [code '"'])).toOption.map Prod.fst

theorem string_content {bs : Bytes} (content : IsContent bs) (rest : Bytes) :
    Yields (string (bs ++ code '"' :: rest)) (textOf bs) rest := by
  obtain ⟨out, decoded⟩ := (decodes_content content).1
  have settled : ∀ rest, Yields (string (bs ++ code '"' :: rest))
      (out.bind fun content => (Utf8.decode? content).map String.ofList) rest := by
    intro rest
    have enough : bs.length < (bs ++ code '"' :: rest).length := by
      simp only [List.length_append, List.length_cons]
      omega
    rcases (decoded rest enough).cases with ⟨cs, run, rfl⟩ | ⟨f, run, rfl⟩
    · cases decode : Utf8.decode? cs <;> simp only [string, run, decode, Option.bind_some] <;> rfl
    · rw [string, run]
      exact .error f rest
  have same : textOf bs = out.bind fun content => (Utf8.decode? content).map String.ofList := (settled []).value
  rw [same]
  exact settled rest

/-! ### Readers -/

/-- What a reader makes of a value that stands alone. -/
def valueOf (read : Bytes → Read α) (v : Bytes) : Option α := (read v).toOption.map Prod.fst

/-- Of a value that stands elsewhere, the reader makes the same. -/
def Steady (read : Bytes → Read α) : Prop :=
  ∀ ⦃v : Bytes⦄, IsValue v → ∀ ⦃ws rest : Bytes⦄, IsBlanks ws → Delimited rest →
    Yields (read (ws ++ (v ++ rest))) (valueOf read v) rest

theorem steady_of {read : Bytes → Read α} (settled : ∀ {v : Bytes}, IsValue v → ∃ out, ∀ {ws rest : Bytes},
    IsBlanks ws → Delimited rest → Yields (read (ws ++ (v ++ rest))) out rest) : Steady read := by
  intro v value ws rest blank delimited
  obtain ⟨out, yields⟩ := settled value
  have alone := (yields isBlanks_nil delimited_nil).value
  rw [List.nil_append, List.append_nil] at alone
  rw [valueOf, alone]
  exact yields blank delimited

theorem steady_fromFirst {f : UInt8 → Bytes → Read α} (settled : ∀ {b : UInt8} {r : Bytes}, IsValue (b :: r) →
    ∃ out, ∀ {rest}, Delimited rest → Yields (f b (r ++ rest)) out rest) : Steady (fromFirst f) := by
  refine steady_of fun value => ?_
  obtain ⟨b, r, rfl, first, _⟩ := value.exists_first
  obtain ⟨out, yields⟩ := settled value
  refine ⟨out, fun blank delimited => ?_⟩
  rw [List.cons_append, fromFirst, skipBlank_first blank first]
  exact yields delimited

theorem valueOf_member {σ : Type} (name : String) (required : Bool) (read : Bytes → Read α) (set : α → σ → σ)
    (v : Bytes) : valueOf (Member.of name required read set).read v = (valueOf read v).map set := by
  show ((read v).map fun (a, r) => (set a, r)).toOption.map Prod.fst = ((read v).toOption.map Prod.fst).map set
  rcases read v with f | ⟨a, r⟩ <;> rfl

theorem valueOf_null (read : Bytes → Read α) : valueOf (readOptional read) (utf8 "null") = some none := rfl

theorem steady_readText : Steady readText := by
  refine steady_fromFirst fun {b r} value => ?_
  by_cases quote : b = code '"'
  · subst quote
    obtain ⟨bs, content, rfl⟩ : ∃ bs, IsContent bs ∧ r = bs ++ [code '"'] := value.continues
    refine ⟨textOf bs, fun {rest} _ => ?_⟩
    rw [if_pos rfl, List.append_assoc]
    exact string_content content rest
  · exact ⟨none, fun {rest} _ => by rw [if_neg quote]; exact .refuse b _ rest⟩

theorem steady_readBool : Steady readBool := by
  refine steady_fromFirst fun {b r} value => ?_
  by_cases yes : b = code 't'
  · subst yes
    obtain rfl : r = [code 'r', code 'u', code 'e'] := value.continues
    exact ⟨some true, fun _ => rfl⟩
  by_cases no : b = code 'f'
  · subst no
    obtain rfl : r = [code 'a', code 'l', code 's', code 'e'] := value.continues
    exact ⟨some false, fun _ => rfl⟩
  · exact ⟨none, fun {rest} _ => by rw [if_neg yes, if_neg no]; exact .refuse b _ rest⟩

theorem number_magnitude {bs : Bytes} (magnitude : IsMagnitude bs) (negative : Bool) :
    ∃ out, ∀ {rest}, Delimited rest → Yields (number negative (bs ++ rest)) out rest := by
  obtain ⟨n, run⟩ := notationOf_magnitude magnitude negative
  refine ⟨n.value.toOption, fun {rest} delimited => ?_⟩
  rw [number, run rest delimited]
  show Yields (n.value.map fun v => (v, rest)) _ rest
  cases n.value <;> rfl

theorem steady_readNumber : Steady readNumber := by
  refine steady_fromFirst fun {b r} value => ?_
  by_cases minus : b = code '-'
  · subst minus
    obtain ⟨out, yields⟩ := number_magnitude value.continues true
    exact ⟨out, fun delimited => by rw [if_pos rfl]; exact yields delimited⟩
  by_cases digit : isDigit b = true
  · obtain ⟨out, yields⟩ := number_magnitude ((continues_digit digit).mp value.continues) false
    exact ⟨out, fun delimited => by rw [if_neg minus, if_pos digit]; exact yields delimited⟩
  · exact ⟨none, fun {rest} _ => by rw [if_neg minus, if_neg digit]; exact .refuse b _ rest⟩

namespace Steady

variable {read : Bytes → Read α}

theorem narrow (steady : Steady read) (f : α → Option β) : Steady fun bs => Json.narrow f (read bs) := by
  refine steady_of fun {v} value => ⟨(valueOf read v).bind f, fun blank delimited => ?_⟩
  exact (steady value blank delimited).narrow f

theorem optional (steady : Steady read) : Steady (readOptional read) := by
  refine steady_fromFirst fun {b r} value => ?_
  by_cases none : b = code 'n'
  · subst none
    obtain rfl : r = [code 'u', code 'l', code 'l'] := value.continues
    exact ⟨some .none, fun _ => rfl⟩
  · refine ⟨(valueOf read (b :: r)).map some, fun delimited => ?_⟩
    rw [if_neg none]
    exact (steady value isBlanks_nil delimited).map some

theorem member {σ : Type} (steady : Steady read) (name : String) (required : Bool) (set : α → σ → σ) :
    Steady (Member.of name required read set).read := by
  refine steady_of fun {v} value => ⟨(valueOf read v).map set, fun blank delimited => ?_⟩
  exact (steady value blank delimited).map set

end Steady

theorem steady_readInt64 : Steady readInt64 := steady_readNumber.narrow _

theorem steady_readUInt64 : Steady readUInt64 := steady_readNumber.narrow _

theorem steady_readFloat : Steady readFloat := steady_readNumber.narrow _

end Entitlement.Json
