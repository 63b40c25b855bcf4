import Entitlement.Proofs.Url.BlankEnd

/-!
Which addresses on the web a path can be put behind, once the slashes at their end are taken off: exactly those that are
`Extensible` lead to that path below their own (`reached_iff`). They have no query and no fragment, and their end means
the same with something behind it.
-/

namespace Entitlement.Url

theorem mem_cleanFront_visible {cs : List Char} {c : Char} (own : c ∈ cs) (visible : isEdge c = false) :
    c ∈ cleanFront cs := by
  have behind : c ∈ cs.dropWhile isEdge := by
    rw [← List.takeWhile_append_dropWhile (p := isEdge) (l := cs)] at own
    exact (List.mem_append.mp own).resolve_left fun edge =>
      Bool.noConfusion (visible.symm.trans (List.mem_takeWhile_imp edge))
  exact List.mem_filter.mpr ⟨behind, by rw [isStripped_edge visible, Bool.not_false]⟩

theorem webUrl_marks {scheme tail : List Char} {authority : Authority}
    (noQuery : (webUrl scheme authority tail).query = none) (noFragment : (webUrl scheme authority tail).fragment = none) :
    '?' ∉ tail ∧ '#' ∉ tail := by
  rcases split : splitTail tail with ⟨path, query, fragment⟩
  simp only [webUrl, withTail, split, Option.map_eq_none_iff] at noQuery noFragment
  rw [noQuery, noFragment] at split
  exact splitTail_marks split

namespace Reading

variable {front : List Char} {k : Nat} {base : Url} (r : Reading front k base)
include r

theorem getLast?_cleanFront : (cleanFront front).getLast? = (r.text ++ r.blanks).getLast? := by
  rw [r.cleaned, List.append_assoc,
    List.getLast?_append_of_ne_nil _ (List.append_ne_nil_of_left_ne_nil r.text_ne_nil r.blanks)]

theorem base_read (web : IsWeb base.scheme) (noQuery : '?' ∉ pathPart r.text) (noFragment : '#' ∉ pathPart r.text) :
    ∃ authority, readAuthority base.scheme (hostPart r.text) true = .ok (authority, []) ∧
      base.authority = some authority ∧
      base.path = .segments (readSegments true false (pathPart r.text ++ List.replicate k '/')) := by
  have noSlash {c : Char} (free : c ∉ pathPart r.text) (other : c ≠ '/') : c ∉ pathPart r.text ++ List.replicate k '/' := by
    intro own
    exact (List.mem_append.mp own).elim free fun own => other (List.eq_of_mem_replicate own)
  obtain ⟨authority, reads, made⟩ := (ofAuthority_web web.special).mp r.read
  rw [(parts_slashes r.text k).1] at reads
  rw [(parts_slashes r.text k).2, webUrl_plain (noSlash noQuery (by decide)) (noSlash noFragment (by decide))] at made
  exact ⟨authority, reads, congrArg Url.authority made, congrArg Url.path made⟩

/-- A mark that ends the authority is found in the path, wherever it stands in the address. -/
theorem mark {c : Char} (ends : endsAuthority true c = true) (visible : isEdge c = false) (unnamed : c ∉ r.named)
    (free : c ∉ pathPart (r.text ++ r.blanks)) : c ∉ front := by
  intro own
  have inside := mem_cleanFront_visible own visible
  rw [r.cleaned, List.append_assoc] at inside
  have behind := (List.mem_append.mp inside).resolve_left unnamed
  rw [← List.takeWhile_append_dropWhile (p := (!endsAuthority true ·)) (l := r.text ++ r.blanks)] at behind
  rcases List.mem_append.mp behind with host | path
  · have noEnd := List.mem_takeWhile_imp host
    rw [ends] at noEnd
    cases noEnd
  · exact free path

/-- Only blanks at the very end of an address are dropped. -/
theorem blanks_eq_nil_iff : r.blanks = [] ↔ (k = 0 → ∀ c ∈ (cleanFront front).getLast?, isEdge c = false) := by
  rw [r.getLast?_cleanFront]
  constructor
  · intro none zero
    rw [none, List.append_nil]
    exact r.text_visible zero
  · intro visible
    by_contra some
    have edge := r.isEdge_blanks _ (List.getLast_mem some)
    have last : (r.text ++ r.blanks).getLast? = Option.some (r.blanks.getLast some) := by
      rw [List.getLast?_append_of_ne_nil _ some, List.getLast?_eq_some_getLast some]
    rw [visible (r.blanks_bare some) _ last] at edge
    cases edge

theorem pathPart_blanks (begun : pathPart r.text ≠ []) : pathPart (r.text ++ r.blanks) = pathPart r.text ++ r.blanks := by
  rw [pathPart, List.dropWhile_append, if_neg (by simpa [pathPart] using begun)]
  rfl

theorem mem_pathPart {c : Char} (own : c ∈ pathPart r.text) : c ∈ pathPart (r.text ++ r.blanks) := by
  rw [r.pathPart_blanks (List.ne_nil_of_mem own)]
  exact List.mem_append_left _ own

theorem getLast?_pathPart {c : Char} (last : c ∈ (pathPart r.text).getLast?) : c ∈ r.text.getLast? := by
  have some : pathPart r.text ≠ [] := List.ne_nil_of_mem (List.mem_of_getLast? last)
  have apart : r.text = hostPart r.text ++ pathPart r.text := List.takeWhile_append_dropWhile.symm
  rw [apart, List.getLast?_append_of_ne_nil _ some]
  exact last

/-- A slash at the end of the text stays behind the last segment. -/
theorem noSlash (clean : endSlashes (directory (pathPart r.text)).render = 0) :
    ∀ c ∈ r.text.getLast?, isSlash true c = false := by
  intro c last
  by_contra slash
  have slash : isSlash true c = true := Bool.not_eq_false _ ▸ slash
  obtain ⟨before, ends⟩ := List.getLast?_eq_some_iff.mp last
  have stop : (!endsAuthority true c) = false := by
    rw [endsAuthority, slash]
    rfl
  have path : pathPart (before ++ [c]) = pathPart before ++ [c] := dropWhile_stop stop before []
  rw [ends, path, directory_slash _ slash] at clean
  have more := endSlashes_slashes (directory (pathPart before)).render 1
  rw [← render_empty] at more
  rw [List.replicate_one] at more
  omega

/-- Blanks at the end disturb what is read behind them. -/
theorem blanks_eq_nil (web : IsWeb base.scheme) {authority : Authority}
    (reads : readAuthority base.scheme (hostPart (r.text ++ r.blanks)) true = .ok (authority, []))
    (noQuery : '?' ∉ pathPart r.text) (noFragment : '#' ∉ pathPart r.text)
    (short : (directory (pathPart (r.text ++ r.blanks))).render.length ≤ base.path.render.length) : r.blanks = [] := by
  by_contra some
  have inHost : ∀ c ∈ r.blanks, (!endsAuthority true c) = true := fun c own =>
    of_isEdge (fun c => (!endsAuthority true c) = true) (r.isEdge_blanks c own) (by decide)
  by_cases onlyHost : pathPart r.text = []
  · have noEnd : ∀ c ∈ r.text, (!endsAuthority true c) = true := List.dropWhile_eq_nil_iff.mp onlyHost
    have host : hostPart (r.text ++ r.blanks) = r.text ++ r.blanks := by
      refine List.takeWhile_eq_self_iff.mpr fun c own => ?_
      exact (List.mem_append.mp own).elim (noEnd c) (inHost c)
    rw [host] at reads
    exact readAuthority_blank web.special r.isEdge_blanks some (fun own => absurd (noEnd _ own) (by decide)) reads
  · obtain ⟨_, _, _, listed⟩ := r.base_read web noQuery noFragment
    have bare : List.replicate k '/' = [] := by rw [r.blanks_bare some, List.replicate_zero]
    have longer := directory_blank onlyHost r.isEdge_blanks some
    rw [bare, List.append_nil] at listed
    rw [r.pathPart_blanks onlyHost, listed] at short
    exact absurd longer (Nat.not_lt.mpr short)

end Reading

/-! ### Addresses with a path behind them -/

/-- An address, `k` slashes at the end of which are left out of `front`, and which something can be put behind. -/
structure Extensible (front : List Char) (k : Nat) (base : Url) : Prop where
  noQuery : '?' ∉ front
  noFragment : '#' ∉ front
  /-- No blank is dropped from its end, only tabs and line breaks. -/
  noBlank : k = 0 → ∀ c ∈ (cleanFront front).getLast?, isEdge c = false
  /-- Without its slashes it ends in no backslash, nor in a slash that tabs or line breaks hid. -/
  noSlash : ∀ c ∈ (cleanFront front).getLast?, isSlash true c = false
  /-- The path ends in the slashes of the address, or in one; segments of dots may leave more. -/
  pathEnd : endSlashes base.path.render ≤ max 1 k

/-- What is read from an address with a path behind it is the address with this path behind its own. -/
def Reached (front : List Char) (base : Url) (segs : Segments) (url : Url) : Prop :=
  parse (String.ofList (front ++ segs.render)) = .ok url ∧ url.scheme = base.scheme ∧ url.authority = base.authority ∧
    url.path.render = base.path.render.rdropWhile (· = '/') ++ segs.render ∧ url.query = none ∧ url.fragment = none

section Address

variable {address : String} {base : Url} {front : List Char} {k : Nat} {segs : Segments}
  (parsed : parse address = .ok base) (web : IsWeb base.scheme)
  (whole : address.toList = front ++ List.replicate k '/') (simple : Simple segs)
include parsed web whole simple

theorem extensible_of_reached {url : Url} (reached : Reached front base segs url) : Extensible front k base := by
  obtain ⟨extended, _, _, below, noQuery, noFragment⟩ := reached
  obtain ⟨r⟩ := parse_slashes parsed web whole
  rw [r.read_behind _ (head?_render simple) fun _ => isEdge_render simple.simple] at extended
  obtain ⟨authority, reads, rfl⟩ := (ofAuthority_web web.special).mp extended
  rw [(parts_render _ simple).1] at reads
  rw [(parts_render _ simple).2] at noQuery noFragment below
  -- Marks of a query or a fragment would stand in the path, and make one.
  obtain ⟨free, free'⟩ := webUrl_marks noQuery noFragment
  have noQuery : '?' ∉ pathPart (r.text ++ r.blanks) := fun own => free (List.mem_append_left _ own)
  have noFragment : '#' ∉ pathPart (r.text ++ r.blanks) := fun own => free' (List.mem_append_left _ own)
  rw [webUrl_simple noQuery noFragment simple, Path.render, Segments.render_append] at below
  have trimmed := List.append_cancel_right below
  have bare : r.blanks = [] := by
    refine r.blanks_eq_nil web reads (fun own => noQuery (r.mem_pathPart own)) (fun own => noFragment (r.mem_pathPart own)) ?_
    rw [trimmed]
    exact (List.rdropWhile_prefix _ _).length_le
  have noMark := r.mark (c := '?') (by decide) (by decide) r.noMark.1 noQuery
  have noMark' := r.mark (c := '#') (by decide) (by decide) r.noMark.2 noFragment
  rw [bare, List.append_nil] at trimmed noQuery noFragment
  have clean : endSlashes (directory (pathPart r.text)).render = 0 := by
    rw [trimmed]
    exact rdropWhile_eq_self.mp (List.rdropWhile_idempotent _ _)
  have noSlash := r.noSlash clean
  obtain ⟨_, _, _, listed⟩ := r.base_read web noQuery noFragment
  refine ⟨noMark, noMark', r.blanks_eq_nil_iff.mp bare, ?_, ?_⟩
  · rw [r.getLast?_cleanFront, bare, List.append_nil]
    exact noSlash
  · rw [listed]
    exact (readSegments_directory (fun c last => noSlash c (r.getLast?_pathPart last)) k).2.mpr clean

theorem reached_of_extensible (fits : Extensible front k base) : ∃ url, Reached front base segs url := by
  obtain ⟨r⟩ := parse_slashes parsed web whole
  have bare : r.blanks = [] := r.blanks_eq_nil_iff.mpr fits.noBlank
  have inFront {c : Char} (own : c ∈ pathPart r.text) : c ∈ front := by
    refine mem_cleanFront ?_
    rw [r.cleaned, List.append_assoc]
    exact List.mem_append_right _ (List.mem_append_left _ ((List.dropWhile_suffix _).subset own))
  have noQuery : '?' ∉ pathPart r.text := fun own => fits.noQuery (inFront own)
  have noFragment : '#' ∉ pathPart r.text := fun own => fits.noFragment (inFront own)
  obtain ⟨authority, reads, known, listed⟩ := r.base_read web noQuery noFragment
  have noSlash : ∀ c ∈ (pathPart r.text).getLast?, isSlash true c = false := by
    intro c last
    refine fits.noSlash c ?_
    rw [r.getLast?_cleanFront, bare, List.append_nil]
    exact r.getLast?_pathPart last
  obtain ⟨trimmed, few⟩ := readSegments_directory noSlash k
  have clean : endSlashes (directory (pathPart r.text)).render = 0 := by
    refine few.mp ?_
    have pathEnd := fits.pathEnd
    rwa [listed] at pathEnd
  have extended : parse (String.ofList (front ++ segs.render)) =
      .ok (webUrl base.scheme authority (pathPart r.text ++ segs.render)) := by
    rw [r.read_behind _ (head?_render simple) fun _ => isEdge_render simple.simple, bare, List.append_nil,
      ofAuthority_web web.special]
    exact ⟨authority, by rw [(parts_render _ simple).1]; exact reads, by rw [(parts_render _ simple).2]⟩
  rw [webUrl_simple noQuery noFragment simple] at extended
  refine ⟨_, extended, rfl, known.symm, ?_, rfl, rfl⟩
  have kept : (directory (pathPart r.text)).render.rdropWhile (· = '/') = (directory (pathPart r.text)).render :=
    rdropWhile_eq_self.mpr clean
  rw [Path.render, Segments.render_append, listed, Path.render, trimmed, kept]

theorem reached_iff : (∃ url, Reached front base segs url) ↔ Extensible front k base :=
  ⟨fun ⟨_, reached⟩ => extensible_of_reached parsed web whole simple reached,
    reached_of_extensible parsed web whole simple⟩

end Address

end Entitlement.Url
