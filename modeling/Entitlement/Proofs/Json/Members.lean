import Entitlement.Proofs.Json.Steady

/-!
What a record makes of the members of an object. Each of them sets a field, or is passed over, or cannot be read, and
which of these it is depends on the member alone (`settingOf`); the object is read if the members can be taken one after
the other (`recordOf`), which comes down to what they are and not where they stand (`recordOf_eq_some_iff`).
-/

namespace Entitlement.Json

variable {σ : Type}

/-- The name of a member, if that is Unicode text. -/
def MemberText.title (m : MemberText) : Option String := textOf m.name

/-- What a member sets, and in which field: nothing if it is not known. -/
def settingOf (fields : List (Member σ)) (m : MemberText) : Option (Option (String × (σ → σ))) :=
  match m.title with
  | none => none
  | some name =>
    match fields.find? fun f => f.name = name with
    | none => some none
    | some f => (valueOf f.read m.value).map fun set => some (name, set)

/-- One more member, after those of the names `state.1`. -/
def takeMember (fields : List (Member σ)) (state : List String × σ) (m : MemberText) : Option (List String × σ) :=
  match settingOf fields m with
  | none => none
  | some none => some state
  | some (some (name, set)) => if state.1.contains name then none else some (name :: state.1, set state.2)

/-- The record of an object with these members. -/
def recordOf (fields : List (Member σ)) (start : σ) (ms : List MemberText) : Option σ :=
  (ms.foldlM (takeMember fields) ([], start)).bind fun (seen, s) => if incomplete fields seen then none else some s

/-! ### Reading members -/

theorem memberName_member {m : MemberText} (spaced : m.Spaced) (rest : Bytes) :
    Yields (memberName (m.bytes ++ rest)) m.title (m.afterName ++ code ':' :: (m.toElementText.bytes ++ rest)) := by
  have noBlank : isBlank (code '"') = false := by decide
  have read := string_content spaced.content (m.afterName ++ code ':' :: (m.toElementText.bytes ++ rest))
  simpa only [MemberText.bytes, MemberText.title, List.append_assoc, List.cons_append, memberName,
    skipBlank_first spaced.beforeName noBlank, ↓reduceIte] using read

theorem colon_member {m : MemberText} (spaced : m.Spaced) (rest : Bytes) :
    colon (m.afterName ++ code ':' :: rest) = .ok rest := by
  have noBlank : isBlank (code ':') = false := by decide
  simp only [colon, skipBlank_first spaced.afterName noBlank, ↓reduceIte]

theorem readObject_complete {fields : List (Member σ)} {start : σ} {bs : Bytes} {b : UInt8} {r : Bytes}
    (begins : skipBlank bs = b :: r) {out : Option (List String × σ)} {rest : Bytes}
    (yields : Yields
      (if b = code '\x7d' then .ok (([], start), r) else readFields fields bs.length [] start bs) out rest) :
    Yields (readObject fields start bs)
      (out.bind fun (seen, s) => if incomplete fields seen then none else some s) rest := by
  unfold readObject
  simp only [begins]
  rcases yields.cases with ⟨⟨seen, s⟩, run, rfl⟩ | ⟨f, run, rfl⟩
  · simp only [run, Option.bind_some]
    split <;> rfl
  · rw [run]
    rfl

section Fields

variable {fields : List (Member σ)} (steady : ∀ f ∈ fields, Steady f.read) {seen : List String} {s : σ}
include steady

theorem memberValue_member {m : MemberText} (formed : m.Formed) {name : String} (titled : m.title = some name)
    {rest : Bytes} (delimited : Delimited rest) :
    (∃ next, takeMember fields (seen, s) m = some next ∧
      memberValue fields seen name s (m.afterName ++ code ':' :: (m.toElementText.bytes ++ rest)) =
        .ok (next.1, next.2, m.after ++ rest)) ∨
    takeMember fields (seen, s) m = none ∧
      ∃ f, memberValue fields seen name s (m.afterName ++ code ':' :: (m.toElementText.bytes ++ rest)) = .error f := by
  have apart : m.toElementText.bytes ++ rest = m.before ++ (m.value ++ (m.after ++ rest)) := by
    rw [ElementText.bytes, List.append_assoc, List.append_assoc]
  have behind : Delimited (m.after ++ rest) := delimited.behind_blanks formed.spaced.element.after
  have before := formed.spaced.element.before
  unfold memberValue takeMember settingOf
  rw [titled, colon_member formed.spaced, apart]
  cases found : fields.find? fun f => f.name = name with
  | none =>
    simp only [found, skipValue_value formed.value before behind]
    exact Or.inl ⟨_, rfl, rfl⟩
  | some f =>
    simp only [found]
    rcases (steady f (List.mem_of_find?_eq_some found) formed.value before behind).cases with
      ⟨set, run, value⟩ | ⟨fault, run, value⟩
    · simp only [run, value, Option.map_some]
      by_cases known : seen.contains name = true
      · simp only [if_pos known]
        exact Or.inr ⟨trivial, _, rfl⟩
      · simp only [if_neg known]
        exact Or.inl ⟨_, rfl, rfl⟩
    · simp only [run, value, Option.map_none]
      refine Or.inr ⟨trivial, ?_⟩
      split
      · exact ⟨_, rfl⟩
      · exact ⟨_, rfl⟩

/-- A member is taken, and what stands behind it decides whether another one comes. -/
theorem readFields_taken {m : MemberText} (formed : m.Formed) {rest : Bytes} (delimited : Delimited rest) (fuel : Nat) :
    (∃ next, takeMember fields (seen, s) m = some next ∧
      readFields fields (fuel + 1) seen s (m.bytes ++ rest) =
        match memberEnd (m.after ++ rest) with
        | .error f => .error f
        | .ok (true, r) => readFields fields fuel next.1 next.2 r
        | .ok (false, r) => .ok ((next.1, next.2), r)) ∨
    takeMember fields (seen, s) m = none ∧ ∃ f, readFields fields (fuel + 1) seen s (m.bytes ++ rest) = .error f := by
  rw [readFields]
  rcases (memberName_member formed.spaced rest).cases with ⟨name, run, titled⟩ | ⟨f, run, untitled⟩
  · rw [run]
    rcases memberValue_member steady formed titled delimited with ⟨next, taken, read⟩ | ⟨refused, f, failed⟩
    · refine Or.inl ⟨next, taken, ?_⟩
      rcases ending : memberEnd (m.after ++ rest) with f | ⟨_ | _, r⟩ <;> simp only [read, ending]
    · exact Or.inr ⟨refused, f, by simp only [failed]⟩
  · rw [run, takeMember, settingOf, untitled]
    exact Or.inr ⟨rfl, f, rfl⟩

theorem readFields_members {m : MemberText} {ms : List MemberText} (formed : ∀ m' ∈ m :: ms, m'.Formed) {gap : Bytes}
    (blank : IsBlanks gap) {fuel : Nat} (enough : ms.length < fuel) (rest : Bytes) :
    Yields (readFields fields fuel seen s
        (m.bytes ++ ((ms.map MemberText.bytes).flatMap (code ',' :: ·) ++ (gap ++ code '\x7d' :: rest))))
      ((m :: ms).foldlM (takeMember fields) (seen, s)) rest := by
  have ends : endsNumber (code '\x7d') = true := by decide
  obtain ⟨fuel, rfl⟩ := Nat.exists_eq_add_one_of_ne_zero (Nat.ne_zero_of_lt enough)
  induction ms generalizing m fuel seen s with
  | nil =>
    have first := formed m List.mem_cons_self
    have ending : memberEnd (m.after ++ (gap ++ code '\x7d' :: rest)) = .ok (false, rest) := by
      rw [memberEnd, skipBlank_append first.spaced.element.after, skipBlank_first blank (by decide)]
      rfl
    rcases readFields_taken steady first (delimited_parts [] blank ends rest) fuel with
      ⟨next, taken, run⟩ | ⟨refused, f, failed⟩
    · rw [List.foldlM_cons, taken, List.map_nil, run]
      simp only [List.flatMap_nil, List.nil_append, ending]
      rfl
    · rw [List.foldlM_cons, refused, List.map_nil, failed]
      rfl
  | cons m' ms ih =>
    obtain ⟨first, others⟩ := List.forall_mem_cons.mp formed
    have comma (r : Bytes) : memberEnd (m.after ++ code ',' :: r) = .ok (true, r) := by
      rw [memberEnd, skipBlank_first first.spaced.element.after (by decide)]
      rfl
    rcases readFields_taken steady first
      (delimited_parts ((m' :: ms).map MemberText.bytes) blank ends rest) fuel with
      ⟨next, taken, run⟩ | ⟨refused, f, failed⟩
    · rw [List.foldlM_cons, taken, run]
      simp only [List.map_cons, List.flatMap_cons, List.cons_append, comma, List.append_assoc]
      rw [List.length_cons] at enough
      -- A member takes one unit of fuel, so there is one left for the next.
      obtain ⟨fuel, rfl⟩ := Nat.exists_eq_add_one_of_ne_zero (Nat.ne_zero_of_lt (Nat.lt_of_succ_lt_succ enough))
      exact ih others fuel (Nat.lt_of_succ_lt_succ enough)
    · rw [List.foldlM_cons, refused, failed]
      rfl

theorem readObject_members (start : σ) {ms : List MemberText} (formed : ∀ m ∈ ms, m.Formed) {gap : Bytes}
    (blank : IsBlanks gap) (rest : Bytes) :
    Yields (readObject fields start (commaSeparated (ms.map MemberText.bytes) ++ (gap ++ code '\x7d' :: rest)))
      (recordOf fields start ms) rest := by
  cases ms with
  | nil => exact readObject_complete (skipBlank_first blank (by decide) rest) rfl
  | cons m ms =>
    have begins (r : Bytes) : ∃ r', skipBlank (m.bytes ++ r) = code '"' :: r' := by
      rw [MemberText.bytes, List.append_assoc]
      exact ⟨_, skipBlank_first (formed m List.mem_cons_self).spaced.beforeName (by decide) _⟩
    have enough (r : Bytes) : ms.length <
        (m.bytes ++ ((ms.map MemberText.bytes).flatMap (code ',' :: ·) ++ r)).length := by
      have few := length_le_parts (ms.map MemberText.bytes)
      rw [List.length_map] at few
      rw [MemberText.bytes]
      simp only [List.length_append, List.length_cons]
      omega
    rw [List.map_cons, commaSeparated, List.append_assoc]
    obtain ⟨r, begins⟩ := begins ((ms.map MemberText.bytes).flatMap (code ',' :: ·) ++ (gap ++ code '\x7d' :: rest))
    refine readObject_complete begins ?_
    rw [if_neg (by decide)]
    exact readFields_members steady formed blank (enough _) rest

theorem readRecord_object (start : σ) {ms : List MemberText} (formed : ∀ m ∈ ms, m.Formed) {gap ws : Bytes}
    (blankGap : IsBlanks gap) (blank : IsBlanks ws) (rest : Bytes) :
    Yields (readRecord fields start (ws ++ (objectText ms gap ++ rest))) (recordOf fields start ms) rest := by
  rw [objectText, List.cons_append, List.append_assoc, List.append_assoc, readRecord, fromFirst,
    skipBlank_first blank (by decide)]
  exact readObject_members steady start formed blankGap rest

theorem valueOf_object (start : σ) {ms : List MemberText} (formed : ∀ m ∈ ms, m.Formed) {gap : Bytes}
    (blank : IsBlanks gap) : valueOf (readRecord fields start) (objectText ms gap) = recordOf fields start ms := by
  have alone := (readRecord_object steady start formed blank isBlanks_nil []).value
  rwa [List.nil_append, List.append_nil] at alone

theorem parseRecord_object (start : σ) {ms : List MemberText} (formed : ∀ m ∈ ms, m.Formed) {before gap after : Bytes}
    (blankBefore : IsBlanks before) (blankGap : IsBlanks gap) (blankAfter : IsBlanks after) {s : σ} :
    parseRecord fields start (before ++ (objectText ms gap ++ after)) = .ok s ↔ recordOf fields start ms = some s := by
  have nothing : skipBlank after = [] := by
    have passed := skipBlank_append blankAfter []
    rwa [List.append_nil] at passed
  rw [parseRecord]
  rcases (readRecord_object steady start formed blankGap blankBefore after).cases with ⟨s', run, out⟩ | ⟨f, run, out⟩
  · rw [run, out]
    simp only [nothing, List.isEmpty_nil, ↓reduceIte, Except.ok.injEq, Option.some.injEq]
  · rw [run, out]
    exact ⟨nofun, nofun⟩

end Fields

/-! ### A list of the fields -/

/-- The elements from here on: behind the first one, each has a comma in front. -/
def rowText (first : Bool) (es : List ElementText) : Bytes :=
  if first then commaSeparated (es.map ElementText.bytes) else (es.map ElementText.bytes).flatMap (code ',' :: ·)

theorem rowText_nil (first : Bool) : rowText first [] = [] := by cases first <;> rfl

theorem elementStart_close (first : Bool) {ws : Bytes} (blank : IsBlanks ws) (rest : Bytes) :
    elementStart first (ws ++ code ']' :: rest) = .ok (false, code ']' :: rest) := by
  rw [elementStart, skipBlank_first blank (by decide)]
  rfl

section Element

variable {e : ElementText} (spaced : e.Spaced) (value : IsValue e.value) {ws : Bytes} (blank : IsBlanks ws)
include spaced value blank

theorem elementStart_element (first : Bool) (es : List ElementText) (rest : Bytes) :
    elementStart first (ws ++ (rowText first (e :: es) ++ rest)) =
      .ok (true, e.value ++ (e.after ++ (rowText false es ++ rest))) := by
  obtain ⟨b, r, same, other, noEnd⟩ := value.exists_first
  cases first with
  | false =>
    have comma : skipBlank (ws ++ (rowText false (e :: es) ++ rest)) =
        code ',' :: (e.before ++ b :: (r ++ (e.after ++ (rowText false es ++ rest)))) := by
      rw [rowText, if_neg Bool.false_ne_true, List.map_cons, List.flatMap_cons, List.cons_append, List.cons_append,
        skipBlank_first blank (by decide), ElementText.bytes, same]
      simp only [List.append_assoc, List.cons_append, rowText, Bool.false_eq_true, ↓reduceIte]
    have noClose : code ',' ≠ code ']' := by decide
    have mark : ¬ code ',' ≠ code ',' := fun differs => differs rfl
    simp only [elementStart, comma, if_neg noClose, Bool.false_eq_true, ↓reduceIte, if_neg mark,
      skipBlank_first spaced.before other, if_neg noEnd, same, List.cons_append]
  | true =>
    have begins : skipBlank (ws ++ (rowText true (e :: es) ++ rest)) =
        b :: (r ++ (e.after ++ (rowText false es ++ rest))) := by
      rw [rowText, if_pos rfl, List.map_cons, commaSeparated, skipBlank_append blank, ElementText.bytes, same]
      simp only [List.append_assoc, List.cons_append, skipBlank_first spaced.before other, rowText, Bool.false_eq_true,
        ↓reduceIte]
    simp only [elementStart, begins, if_neg noEnd, ↓reduceIte, same, List.cons_append]

end Element

theorem listEnd_of_element {first : Bool} {bs r : Bytes} (another : elementStart first bs = .ok (true, r)) :
    ∃ f, listEnd bs = .error f := by
  unfold elementStart at another
  unfold listEnd
  cases begins : skipBlank bs with
  | nil => exact ⟨_, rfl⟩
  | cons b r' =>
    rw [begins] at another
    by_cases close : b = code ']'
    · cases (if_pos close).symm.trans another
    · exact ⟨_, if_neg close⟩

def readRow (first : Bool) (s : σ) (fields : List (Member σ)) (bs : Bytes) : Read σ :=
  match readElements first s fields bs with
  | .error f => .error f
  | .ok (s, r) => (listEnd r).map fun r => (s, r)

/-- Each field takes one element, as long as there are some; what is left of either is refused, or passed over where
fields may be missing. -/
theorem readRow_settled {fields : List (Member σ)} (steady : ∀ f ∈ fields, Steady f.read) {es : List ElementText}
    (formed : ∀ e ∈ es, e.Spaced ∧ IsValue e.value) {gap : Bytes} (blankGap : IsBlanks gap) (first : Bool) (s : σ) :
    ∃ out, ∀ {ws rest : Bytes}, IsBlanks ws →
      Yields (readRow first s fields (ws ++ (rowText first es ++ (gap ++ code ']' :: rest)))) out rest := by
  have noBlank : isBlank (code ']') = false := by decide
  induction fields generalizing es gap first s with
  | nil =>
    cases es with
    | nil =>
      refine ⟨some s, fun {ws rest} blank => ?_⟩
      have ending : listEnd (ws ++ (gap ++ code ']' :: rest)) = .ok rest := by
        rw [listEnd, skipBlank_append blank, skipBlank_first blankGap noBlank]
        rfl
      rw [rowText_nil, List.nil_append, readRow, readElements]
      simp only [ending]
      rfl
    | cons e es =>
      obtain ⟨⟨spaced, value⟩, _⟩ := List.forall_mem_cons.mp formed
      refine ⟨none, fun {ws rest} blank => ?_⟩
      obtain ⟨f, failed⟩ := listEnd_of_element
        (elementStart_element spaced value blank first es (gap ++ code ']' :: rest))
      rw [readRow, readElements]
      simp only [failed]
      rfl
  | cons f fs ih =>
    obtain ⟨steadyFirst, steadyOthers⟩ := List.forall_mem_cons.mp steady
    cases es with
    | nil =>
      obtain ⟨out, settled⟩ := ih steadyOthers formed isBlanks_nil first s
      -- The bracket is left where it is, for the next field to meet it without blanks.
      refine ⟨if f.required then none else out, fun {ws rest} blank => ?_⟩
      have close : elementStart first (ws ++ (gap ++ code ']' :: rest)) = .ok (false, code ']' :: rest) := by
        rw [← List.append_assoc]
        exact elementStart_close first (List.forall_mem_append.mpr ⟨blank, blankGap⟩) rest
      rw [rowText_nil, List.nil_append, readRow, readElements, close]
      by_cases required : f.required = true
      · simp only [if_pos required]
        rfl
      · have others := @settled [] rest isBlanks_nil
        rw [rowText_nil, List.nil_append, List.nil_append, readRow] at others
        simp only [if_neg required]
        exact others
    | cons e es =>
      obtain ⟨⟨spaced, value⟩, others⟩ := List.forall_mem_cons.mp formed
      have behind (rest : Bytes) : Delimited (e.after ++ (rowText false es ++ (gap ++ code ']' :: rest))) :=
        (delimited_parts (es.map ElementText.bytes) blankGap (by decide) rest).behind_blanks spaced.after
      rcases taken : valueOf f.read e.value with _ | set
      · refine ⟨none, fun {ws rest} blank => ?_⟩
        have run := steadyFirst value isBlanks_nil (behind rest)
        rw [taken, List.nil_append] at run
        rcases run.cases with ⟨_, _, found⟩ | ⟨fault, failed, _⟩
        · cases found
        · rw [readRow, readElements, elementStart_element spaced value blank]
          simp only [failed]
          rfl
      · obtain ⟨out, settled⟩ := ih steadyOthers others blankGap false (set s)
        refine ⟨out, fun {ws rest} blank => ?_⟩
        have run := steadyFirst value isBlanks_nil (behind rest)
        rw [taken, List.nil_append] at run
        rw [readRow, readElements, elementStart_element spaced value blank]
        simp only [run.ok_iff.mpr ⟨rfl, rfl⟩]
        exact settled spaced.after

theorem steady_readRecord {fields : List (Member σ)} (steady : ∀ f ∈ fields, Steady f.read) (start : σ) :
    Steady (readRecord fields start) := by
  refine steady_fromFirst fun {b r} value => ?_
  by_cases list : b = code '['
  · subst list
    obtain ⟨es, gap, formed, blank, rfl⟩ : ∃ (es : List ElementText) (gap : Bytes),
        (∀ e ∈ es, e.Spaced ∧ IsValue e.value) ∧ IsBlanks gap ∧
          r = commaSeparated (es.map ElementText.bytes) ++ (gap ++ [code ']']) := value.continues
    obtain ⟨out, settled⟩ := readRow_settled steady formed blank true start
    refine ⟨out, fun {rest} _ => ?_⟩
    rw [if_pos rfl, List.append_assoc, List.append_assoc]
    exact settled isBlanks_nil
  by_cases object : b = code '\x7b'
  · subst object
    obtain ⟨ms, gap, formed, blank, rfl⟩ : ∃ (ms : List MemberText) (gap : Bytes), (∀ m ∈ ms, m.Formed) ∧ IsBlanks gap ∧
        r = commaSeparated (ms.map MemberText.bytes) ++ (gap ++ [code '\x7d']) := value.continues
    refine ⟨recordOf fields start ms, fun {rest} _ => ?_⟩
    rw [if_neg list, if_pos rfl, List.append_assoc, List.append_assoc]
    exact readObject_members steady start formed blank rest
  · exact ⟨none, fun {rest} _ => by rw [if_neg list, if_neg object]; exact .refuse b _ rest⟩

end Entitlement.Json
