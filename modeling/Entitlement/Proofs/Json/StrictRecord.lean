import Entitlement.Proofs.Json.Rearrange
import Entitlement.Proofs.Json.StrictSkip

/-!
Only what is a value of the grammar is read (`Strict`), and so an object that makes a record is one of the grammar
(`exists_objectText`): what holds of those holds of every object that is accepted.
-/

namespace Entitlement.Json

variable {α β σ : Type}

/-- A reader takes nothing but values. -/
def Strict (read : Bytes → Read α) : Prop :=
  ∀ ⦃bs : Bytes⦄ ⦃a : α⦄ ⦃rest : Bytes⦄, read bs = .ok (a, rest) → IsValueUpTo bs rest

theorem refuse_ne_ok {b : UInt8} {r rest : Bytes} {a : α} : refuse b r ≠ .ok (a, rest) := by
  intro read
  cases ((Yields.refuse b r rest).ok_iff.mp read).1

theorem ok_of_fromFirst {f : UInt8 → Bytes → Read α} {bs rest : Bytes} {a : α}
    (read : fromFirst f bs = .ok (a, rest)) : ∃ ws b r, IsBlanks ws ∧ bs = ws ++ b :: r ∧ f b r = .ok (a, rest) := by
  unfold fromFirst at read
  cases begins : skipBlank bs with
  | nil => simp only [begins, reduceCtorEq] at read
  | cons b r =>
    simp only [begins] at read
    obtain ⟨ws, blank, same⟩ := exists_blanks begins
    exact ⟨ws, b, r, blank, same, read⟩

theorem strict_fromFirst {f : UInt8 → Bytes → Read α} (strict : ∀ {b : UInt8} {r : Bytes} {a : α} {rest : Bytes},
    f b r = .ok (a, rest) → ∃ v, IsValue v ∧ b :: r = v ++ rest) : Strict (fromFirst f) := by
  intro bs a rest read
  obtain ⟨ws, b, r, blank, rfl, taken⟩ := ok_of_fromFirst read
  obtain ⟨v, value, same⟩ := strict taken
  exact ⟨ws, v, blank, value, congrArg (ws ++ ·) same⟩

theorem ok_of_map_fst {run : Read α} {f : α → β} {b : β} {rest : Bytes}
    (read : (run.map fun (a, r) => (f a, r)) = .ok (b, rest)) : ∃ a, run = .ok (a, rest) := by
  obtain ⟨⟨a, r⟩, taken, same⟩ := ok_of_map read
  obtain ⟨_, rfl⟩ := Prod.mk.inj same
  exact ⟨a, taken⟩

theorem strict_readText : Strict readText := by
  refine strict_fromFirst fun {b r a rest} read => ?_
  split at read
  · next quote => exact quote ▸ (string_strict read).exists_string
  · exact (refuse_ne_ok read).elim

theorem ok_of_map_const {run : Except Fault Bytes} {a b : α} {rest : Bytes}
    (read : (run.map fun r => (a, r)) = .ok (b, rest)) : run = .ok rest := by
  obtain ⟨r, taken, same⟩ := ok_of_map read
  obtain ⟨_, rfl⟩ := Prod.mk.inj same
  exact taken

theorem strict_readBool : Strict readBool := by
  refine strict_fromFirst fun {b r a rest} read => ?_
  split at read
  · next yes => exact yes ▸ exists_word (by decide) (ok_of_map_const read)
  split at read
  · next no => exact no ▸ exists_word (by decide) (ok_of_map_const read)
  · exact (refuse_ne_ok read).elim

theorem number_strict {negative : Bool} {bs rest : Bytes} {n : Number} (read : number negative bs = .ok (n, rest)) :
    ∃ m, IsMagnitude m ∧ bs = m ++ rest := by
  unfold number at read
  rcases run : notationOf negative bs with f | ⟨n', r⟩
  · simp only [run, reduceCtorEq] at read
  · simp only [run] at read
    obtain ⟨_, _, same⟩ := ok_of_map read
    obtain ⟨_, rfl⟩ := Prod.mk.inj same
    exact notationOf_strict run

theorem strict_readNumber : Strict readNumber := by
  refine strict_fromFirst fun {b r a rest} read => ?_
  split at read
  · next minus =>
    obtain ⟨m, magnitude, rfl⟩ := number_strict read
    exact ⟨code '-' :: m, .negative magnitude, congrArg (· :: _) minus⟩
  split at read
  · obtain ⟨m, magnitude, same⟩ := number_strict read
    exact ⟨m, .positive magnitude, same⟩
  · exact (refuse_ne_ok read).elim

namespace Strict

variable {read : Bytes → Read α}

theorem narrow (strict : Strict read) (f : α → Option β) : Strict fun bs => Json.narrow f (read bs) := by
  intro bs b rest narrowed
  unfold Json.narrow at narrowed
  rcases run : read bs with f | ⟨a, r⟩
  · simp only [run, reduceCtorEq] at narrowed
  simp only [run] at narrowed
  split at narrowed
  · obtain ⟨_, rfl⟩ := Prod.mk.inj (Except.ok.inj narrowed)
    exact strict run
  · cases narrowed

theorem optional (strict : Strict read) : Strict (readOptional read) := by
  intro bs a rest taken
  obtain ⟨ws, b, r, blank, rfl, behind⟩ := ok_of_fromFirst taken
  split at behind
  · next null =>
    obtain ⟨v, value, same⟩ := exists_word (b := code 'n') (by decide) (ok_of_map_const behind)
    exact ⟨ws, v, blank, value, congrArg (ws ++ ·) (null ▸ same)⟩
  · obtain ⟨_, run⟩ := ok_of_map_fst behind
    exact (strict run).behind_blanks blank

theorem member (strict : Strict read) (name : String) (required : Bool) (set : α → σ → σ) :
    Strict (Member.of name required read set).read := by
  intro bs a rest taken
  obtain ⟨_, run⟩ := ok_of_map_fst taken
  exact strict run

end Strict

theorem strict_readInt64 : Strict readInt64 := strict_readNumber.narrow _

theorem strict_readFloat : Strict readFloat := strict_readNumber.narrow _

/-! ### Records -/

theorem memberName_strict {bs rest : Bytes} {name : String} (read : memberName bs = .ok (name, rest)) :
    ∃ ws, IsBlanks ws ∧ ∃ r, IsContentUpTo r rest ∧ bs = ws ++ code '"' :: r := by
  obtain ⟨ws, b, r, blank, rfl, behind⟩ := ok_of_fromFirst (f := fun b r =>
    if b = code '"' then string r else .error .malformed) read
  split at behind
  · next quote => exact ⟨ws, blank, r, string_strict behind, quote ▸ rfl⟩
  · cases behind

theorem colon_strict {bs rest : Bytes} (read : colon bs = .ok rest) : ∃ ws, IsBlanks ws ∧ bs = ws ++ code ':' :: rest := by
  unfold colon at read
  cases begins : skipBlank bs with
  | nil => simp only [begins, reduceCtorEq] at read
  | cons b r =>
    simp only [begins] at read
    split at read
    · next mark =>
      obtain rfl := Except.ok.inj read
      exact mark ▸ exists_blanks begins
    · cases read

theorem memberEnd_strict {bs rest : Bytes} {more : Bool} (read : memberEnd bs = .ok (more, rest)) :
    ∃ ws, IsBlanks ws ∧ bs = ws ++ (if more then code ',' else code '\x7d') :: rest := by
  obtain ⟨ws, b, r, blank, rfl, behind⟩ := ok_of_fromFirst (f := fun b r =>
    if b = code ',' then .ok (true, r) else if b = code '\x7d' then .ok (false, r) else .error .malformed) read
  split at behind
  · next comma =>
    obtain ⟨rfl, rfl⟩ := Prod.mk.inj (Except.ok.inj behind)
    exact ⟨ws, blank, comma ▸ rfl⟩
  split at behind
  · next close =>
    obtain ⟨rfl, rfl⟩ := Prod.mk.inj (Except.ok.inj behind)
    exact ⟨ws, blank, close ▸ rfl⟩
  · cases behind

section Fields

variable {fields : List (Member σ)} (strict : ∀ f ∈ fields, Strict f.read)
include strict

theorem memberValue_strict {seen seen' : List String} {name : String} {s s' : σ} {bs rest : Bytes}
    (read : memberValue fields seen name s bs = .ok (seen', s', rest)) :
    ∃ mid, colon bs = .ok mid ∧ IsValueUpTo mid rest := by
  unfold memberValue at read
  cases found : fields.find? fun f => f.name = name with
  | none =>
    simp only [found] at read
    cases run : colon bs with
    | error f => simp only [run, reduceCtorEq] at read
    | ok mid =>
      simp only [run] at read
      obtain ⟨r, passed, same⟩ := ok_of_map read
      obtain rfl := (Prod.mk.inj (Prod.mk.inj same).2).2
      exact ⟨mid, rfl, skipValue_strict passed⟩
  | some f =>
    simp only [found] at read
    split at read
    · cases read
    cases run : colon bs with
    | error f => simp only [run, reduceCtorEq] at read
    | ok mid =>
      simp only [run] at read
      obtain ⟨⟨set, r⟩, taken, same⟩ := ok_of_map read
      obtain rfl := (Prod.mk.inj (Prod.mk.inj same).2).2
      exact ⟨mid, rfl, strict f (List.mem_of_find?_eq_some found) taken⟩

theorem readFields_strict {fuel : Nat} {seen : List String} {s : σ} {bs rest : Bytes} {out : List String × σ}
    (read : readFields fields fuel seen s bs = .ok (out, rest)) :
    ∃ mid, IsPartUpTo .object bs mid ∧ IsTail .object mid rest := by
  induction fuel generalizing seen s bs with
  | zero => cases read
  | succ fuel ih =>
    rw [readFields] at read
    rcases named : memberName bs with f | ⟨name, r₁⟩
    · simp only [named, reduceCtorEq] at read
    rcases set : memberValue fields seen name s r₁ with f | ⟨seen', s', r₂⟩
    · simp only [named, set, reduceCtorEq] at read
    obtain ⟨ws, blank, r, ⟨content, valid, rfl⟩, rfl⟩ := memberName_strict named
    obtain ⟨r₃, apart, value⟩ := memberValue_strict strict set
    obtain ⟨ws', blank', rfl⟩ := colon_strict apart
    have part : IsPartUpTo .object (ws ++ code '"' :: (content ++ code '"' :: (ws' ++ code ':' :: r₃))) r₂ :=
      ⟨r₃, ⟨ws, content, ws', blank, valid, blank', rfl⟩, value⟩
    refine ⟨r₂, part, ?_⟩
    rcases ending : memberEnd r₂ with f | ⟨_ | _, r₄⟩
    · simp only [named, set, ending, reduceCtorEq] at read
    · simp only [named, set, ending] at read
      obtain ⟨_, rfl⟩ := Prod.mk.inj (Except.ok.inj read)
      obtain ⟨gap, blankGap, rfl⟩ := memberEnd_strict ending
      exact .close blankGap
    · simp only [named, set, ending] at read
      obtain ⟨gap, blankGap, rfl⟩ := memberEnd_strict ending
      obtain ⟨mid, next, tail⟩ := ih read
      exact .more blankGap next tail

theorem readObject_strict {start s : σ} {bs rest : Bytes} (read : readObject fields start bs = .ok (s, rest)) :
    IsBody .object bs rest := by
  unfold readObject at read
  cases begins : skipBlank bs with
  | nil => simp only [begins, reduceCtorEq] at read
  | cons b r =>
    simp only [begins] at read
    obtain ⟨out, members⟩ : ∃ out, (if b = code '\x7d' then .ok (([], start), r)
        else readFields fields bs.length [] start bs) = .ok (out, rest) := by
      rcases run : (if b = code '\x7d' then .ok (([], start), r)
        else readFields fields bs.length [] start bs : Read (List String × σ)) with f | ⟨⟨seen, s'⟩, r'⟩
      · simp only [run, reduceCtorEq] at read
      · simp only [run] at read
        split at read
        · cases read
        · obtain ⟨_, rfl⟩ := Prod.mk.inj (Except.ok.inj read)
          exact ⟨_, rfl⟩
    split at members
    · next close =>
      obtain ⟨_, rfl⟩ := Prod.mk.inj (Except.ok.inj members)
      obtain ⟨gap, blank, rfl⟩ := exists_blanks begins
      exact close ▸ .empty blank
    · obtain ⟨mid, part, tail⟩ := readFields_strict strict members
      exact .parts part tail

end Fields

/-- What is left of a list, in front of its first element or behind another one. -/
def IsRest : Bool → Bytes → Bytes → Prop
  | true => IsBody .list
  | false => IsTail .list

theorem isRest_close (first : Bool) {ws : Bytes} (blank : IsBlanks ws) (rest : Bytes) :
    IsRest first (ws ++ code ']' :: rest) rest := by
  cases first with
  | true => exact .empty blank
  | false => exact .close blank

theorem IsRest.behind_blanks {first : Bool} {ws bs rest : Bytes} (blank : IsBlanks ws) (left : IsRest first bs rest) :
    IsRest first (ws ++ bs) rest := by
  cases first with
  | true =>
    cases left with
    | empty blank' =>
      rw [← List.append_assoc]
      exact .empty (List.forall_mem_append.mpr ⟨blank, blank'⟩)
    | parts part tail => exact .parts (part.behind_blanks blank) tail
  | false => exact IsTail.behind_blanks blank left

/-- If there is another element, the list goes on with it; if there is none, only blanks have been passed. -/
theorem elementStart_strict {first another : Bool} {bs mid : Bytes} (read : elementStart first bs = .ok (another, mid)) :
    if another then ∀ {next rest}, IsValueUpTo mid next → IsTail .list next rest → IsRest first bs rest
    else ∃ ws, IsBlanks ws ∧ bs = ws ++ mid := by
  obtain ⟨ws, b, r, blank, rfl, behind⟩ := ok_of_fromFirst (f := fun b r =>
    if b = code ']' then .ok (false, b :: r)
    else if first then .ok (true, b :: r)
    else if b ≠ code ',' then .error .malformed
    else fromFirst (fun c r => if c = code ']' then .error .malformed else .ok (true, c :: r)) r) read
  split at behind
  · obtain ⟨rfl, rfl⟩ := Prod.mk.inj (Except.ok.inj behind)
    exact ⟨ws, blank, rfl⟩
  cases first with
  | true =>
    obtain ⟨rfl, rfl⟩ := Prod.mk.inj (Except.ok.inj behind)
    exact fun value tail => .parts (value.behind_blanks blank) tail
  | false =>
    split at behind
    · next no => cases no
    split at behind
    · cases behind
    next comma =>
    obtain rfl := Decidable.not_not.mp comma
    obtain ⟨ws', c, r', blank', rfl, element⟩ := ok_of_fromFirst behind
    split at element
    · cases element
    · obtain ⟨rfl, rfl⟩ := Prod.mk.inj (Except.ok.inj element)
      exact fun value tail => .more blank (value.behind_blanks blank') tail

theorem listEnd_strict {bs rest : Bytes} (read : listEnd bs = .ok rest) :
    ∃ ws, IsBlanks ws ∧ bs = ws ++ code ']' :: rest := by
  unfold listEnd at read
  cases begins : skipBlank bs with
  | nil => simp only [begins, reduceCtorEq] at read
  | cons b r =>
    simp only [begins] at read
    split at read
    · next close =>
      obtain rfl := Except.ok.inj read
      exact close ▸ exists_blanks begins
    · cases read

theorem readRow_strict {fields : List (Member σ)} (strict : ∀ f ∈ fields, Strict f.read) {first : Bool} {s s' : σ}
    {bs rest : Bytes} (read : readRow first s fields bs = .ok (s', rest)) : IsRest first bs rest := by
  induction fields generalizing first s bs with
  | nil =>
    obtain ⟨ws, blank, rfl⟩ := listEnd_strict (ok_of_map_const read)
    exact isRest_close first blank rest
  | cons f fs ih =>
    obtain ⟨strictFirst, strictOthers⟩ := List.forall_mem_cons.mp strict
    rw [readRow, readElements] at read
    rcases started : elementStart first bs with e | ⟨_ | _, mid⟩
    · simp only [started, reduceCtorEq] at read
    · simp only [started] at read
      obtain ⟨ws, blank, rfl⟩ : ∃ ws, IsBlanks ws ∧ bs = ws ++ mid := elementStart_strict started
      by_cases required : f.required = true
      · simp only [required, ↓reduceIte, reduceCtorEq] at read
      · simp only [if_neg required] at read
        -- A field that may be missing is left out, and the next one looks at the same bracket.
        exact (ih strictOthers read).behind_blanks blank
    · have goesOn : ∀ {next rest}, IsValueUpTo mid next → IsTail .list next rest → IsRest first bs rest :=
        elementStart_strict started
      rcases taken : f.read mid with e | ⟨set, next⟩
      · simp only [started, taken, reduceCtorEq] at read
      · simp only [started, taken] at read
        have others : readRow false (set s) fs next = .ok (s', rest) := read
        exact goesOn (strictFirst taken) (ih strictOthers others)

theorem strict_readRecord {fields : List (Member σ)} (strict : ∀ f ∈ fields, Strict f.read) (start : σ) :
    Strict (readRecord fields start) := by
  intro bs s rest read
  obtain ⟨ws, b, r, blank, rfl, behind⟩ := ok_of_fromFirst read
  split at behind
  · next list =>
    have row : readRow true start fields r = .ok (s, rest) := behind
    have body : IsBody .list r rest := readRow_strict strict row
    exact list ▸ body.isValueUpTo blank
  split at behind
  · next object => exact object ▸ (readObject_strict strict behind).isValueUpTo blank
  · exact (refuse_ne_ok behind).elim

/-- Every object that is accepted is one of the grammar. -/
theorem exists_objectText {fields : List (Member σ)} (strict : ∀ f ∈ fields, Strict f.read) {start s : σ} {bs : Bytes}
    (read : parseRecord fields start bs = .ok s) (object : (skipBlank bs).head? = some (code '\x7b')) :
    ∃ t : ObjectText, t.Formed ∧ t.text = bs := by
  unfold parseRecord at read
  rcases run : readRecord fields start bs with f | ⟨s', after⟩
  · simp only [run, reduceCtorEq] at read
  simp only [run] at read
  split at read
  · next nothing =>
    have blankAfter : IsBlanks after := List.dropWhile_eq_nil_iff.mp (List.isEmpty_iff.mp nothing)
    cases begins : skipBlank bs with
    | nil =>
      rw [begins] at object
      cases object
    | cons b r =>
      rw [begins] at object
      obtain rfl : b = code '\x7b' := Option.some.inj object
      obtain ⟨before, blankBefore, rfl⟩ := exists_blanks begins
      have members : readObject fields start r = .ok (s', after) := by
        rw [readRecord, fromFirst, begins] at run
        exact run
      obtain ⟨ms, gap, formed, blankGap, same⟩ := (readObject_strict strict members).exists_members
      exact ⟨⟨before, ms, gap, after⟩, ⟨⟨blankBefore, blankGap, blankAfter⟩, formed⟩, congrArg (before ++ ·) same.symm⟩
  · cases read

end Entitlement.Json
