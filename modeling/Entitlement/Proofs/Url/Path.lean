import Entitlement.Proofs.Outcome
import Entitlement.Proofs.Url.Escape
import Entitlement.Url

/-!
A URL that was read has its path on one line, whatever stood in the text (`parse_ok`), and so it stays when
segments are added (`push?_oneLine`): line feeds are escaped in every part of a path.
-/

namespace Entitlement.Url

theorem mem_splitAt {p : Char → Bool} {cs part : List Char} {c : Char} (own : part ∈ splitAt p cs)
    (member : c ∈ part) : c ∈ cs := by
  induction cs generalizing part with
  | nil =>
    rw [List.mem_singleton.mp own] at member
    cases member
  | cons d cs ih =>
    rw [splitAt] at own
    split at own
    · rcases List.mem_cons.mp own with rfl | own
      · cases member
      · exact List.mem_cons_of_mem d (ih own member)
    · split at own
      · next first others split =>
        rcases List.mem_cons.mp own with rfl | own
        · rcases List.mem_cons.mp member with rfl | member
          · exact List.mem_cons_self
          · exact List.mem_cons_of_mem d (ih (split ▸ List.mem_cons_self) member)
        · exact List.mem_cons_of_mem d (ih (split ▸ List.mem_cons_of_mem first own) member)
      · rw [List.mem_singleton.mp own, List.mem_singleton] at member
        exact List.mem_cons.mpr (Or.inl member)

theorem escape_oneLine {s : EscapeSet} (escaped : s.has '\n' = true) (cs : List Char) : '\n' ∉ escape s cs :=
  notMem_escape escaped (by decide) (by decide) cs

namespace Segments

/-- No segment holds a line feed. -/
def OneLine (segs : Segments) : Prop := ∀ s ∈ segs, '\n' ∉ s

theorem oneLine_nil : OneLine [] := nofun

theorem OneLine.append {segs segs' : Segments} (line : OneLine segs) (line' : OneLine segs') :
    OneLine (segs ++ segs') := by
  intro s own
  rcases List.mem_append.mp own with own | own
  · exact line s own
  · exact line' s own

theorem oneLine_one {s : List Char} (free : '\n' ∉ s) : OneLine [s] := by
  intro t own
  rwa [List.mem_singleton.mp own]

theorem OneLine.up {segs : Segments} (line : OneLine segs) : OneLine segs.up := by
  unfold Segments.up
  split
  · split
    · exact line
    · exact fun s own => line s (List.dropLast_subset segs own)
  · exact line

theorem OneLine.add {segs : Segments} {s : List Char} (normal last : Bool) (line : OneLine segs) (free : '\n' ∉ s) :
    OneLine (segs.add normal last s) := by
  have empty : OneLine [[]] := oneLine_one List.not_mem_nil
  unfold Segments.add
  split
  · split
    · exact line.up.append empty
    · exact line.up
  · split
    · split
      · exact line.append empty
      · exact line
    · split
      -- A drive letter, with its bar made a colon.
      · refine line.append (oneLine_one fun member => ?_)
        rcases List.mem_append.mp member with letter | colon
        · exact free (List.mem_of_mem_take letter)
        · exact absurd (List.mem_singleton.mp colon) (by decide)
      · exact line.append (oneLine_one free)

theorem OneLine.addAll {segs : Segments} {parts : List (List Char)} (normal : Bool) (line : OneLine segs)
    (free : ∀ s ∈ parts, '\n' ∉ s) : OneLine (segs.addAll normal parts) := by
  fun_induction Segments.addAll normal segs parts with
  | case1 => exact line
  | case2 => exact line.add normal true (free _ List.mem_cons_self)
  | case3 segs s t r ih =>
    exact ih (line.add normal false (free s List.mem_cons_self)) fun u own => free u (List.mem_cons_of_mem s own)

theorem OneLine.dropLeadingEmpty {segs : Segments} (line : OneLine segs) : OneLine segs.dropLeadingEmpty := by
  fun_induction Segments.dropLeadingEmpty segs with
  | case1 s r ih => exact ih fun u own => line u (List.mem_cons_of_mem _ own)
  | case2 => exact line

theorem OneLine.push {segs : Segments} (special file : Bool) (line : OneLine segs) (text : List Char) :
    OneLine (segs.push special file text) := by
  unfold Segments.push
  split
  · exact line
  · have free : '\n' ∉ escape (if special then .specialSegment else .segment) (text.filter (!isStripped ·)) :=
      escape_oneLine (by cases special <;> decide) _
    have base : OneLine (if segs = [[]] then [] else segs) := by
      split
      · exact oneLine_nil
      · exact line
    dsimp only
    split
    · exact (base.add file true free).dropLeadingEmpty
    · exact base.add file true free

theorem OneLine.render {segs : Segments} (line : OneLine segs) : '\n' ∉ segs.render := by
  intro member
  obtain ⟨s, own, member⟩ := List.mem_flatMap.mp member
  rcases List.mem_cons.mp member with slash | member
  · exact absurd slash (by decide)
  · exact line s own member

end Segments

/-- The path holds no line feed. -/
def Path.OneLine : Path → Prop
  | .opaqueText text => '\n' ∉ text
  | .segments segs => segs.OneLine

theorem Path.OneLine.pathText {url : Url} (line : url.path.OneLine) : '\n' ∉ url.pathText.toList := by
  rw [Url.pathText, String.toList_ofList]
  unfold Path.render
  split
  · next text opaquePath => rwa [opaquePath] at line
  · next segs listed =>
    rw [listed] at line
    exact Segments.OneLine.render line

theorem readSegments_oneLine (special normal : Bool) (cs : List Char) : (readSegments special normal cs).OneLine := by
  unfold readSegments
  split
  · split
    · exact Segments.oneLine_one List.not_mem_nil
    · exact Segments.oneLine_nil
  · refine Segments.oneLine_nil.addAll normal fun s own member => ?_
    exact escape_oneLine (by decide) _ (mem_splitAt own member)

theorem ofAuthority_ok {scheme cs : List Char} {url : Url} (read : ofAuthority scheme cs = .ok url) :
    url.scheme = scheme ∧ ∃ path, url.path = .segments (readSegments (isSpecial scheme) false path) := by
  unfold ofAuthority at read
  obtain ⟨⟨authority, rest⟩, _, read⟩ := ok_of_bind read
  cases read
  exact ⟨rfl, _, rfl⟩

theorem ofFile_ok {cs : List Char} {url : Url} (read : ofFile cs = .ok url) :
    url.scheme = fileScheme ∧ ∃ normal path, url.path = .segments (readSegments true normal path).dropLeadingEmpty := by
  unfold ofFile at read
  dsimp only at read
  split at read
  case' h_1 => split at read
  all_goals
    obtain ⟨⟨host, tail⟩, _, read⟩ := ok_of_bind read
    cases read
    exact ⟨rfl, _, _, rfl⟩

/-- The scheme is the one in front of the text, and the path is on one line. -/
theorem parse_ok {text : String} {url : Url} (read : parse text = .ok url) :
    (∃ rest, splitScheme (clean text.toList) = .ok (url.scheme, rest)) ∧ url.path.OneLine := by
  unfold parse at read
  obtain ⟨⟨scheme, rest⟩, front, read⟩ := ok_of_bind read
  suffices url.scheme = scheme ∧ url.path.OneLine from ⟨⟨rest, by rw [this.1]; exact front⟩, this.2⟩
  dsimp only at read
  split at read
  · next file =>
    obtain ⟨same, normal, path, listed⟩ := ofFile_ok read
    rw [listed]
    exact ⟨same.trans file.symm, (readSegments_oneLine _ _ _).dropLeadingEmpty⟩
  split at read
  · obtain ⟨same, path, listed⟩ := ofAuthority_ok read
    rw [listed]
    exact ⟨same, readSegments_oneLine _ _ _⟩
  split at read
  · obtain ⟨same, path, listed⟩ := ofAuthority_ok read
    rw [listed]
    exact ⟨same, readSegments_oneLine _ _ _⟩
  · cases read
    exact ⟨rfl, readSegments_oneLine _ _ _⟩
  · cases read
    exact ⟨rfl, escape_oneLine (by decide) _⟩

theorem push?_oneLine {url pushed : Url} (line : url.path.OneLine) {text : String}
    (push : url.push? text = some pushed) : pushed.path.OneLine := by
  unfold Url.push? at push
  split at push
  · cases push
  · next segs listed =>
    rw [listed] at line
    cases push
    exact Segments.OneLine.push _ _ line _

end Entitlement.Url
