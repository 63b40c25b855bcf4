import Entitlement.Proofs.Url.Directory
import Entitlement.Proofs.Url.Path

/-!
A path put behind the text of an address on the web, without the slashes at its end. Where the address is read up to
them, what stands there instead is read too (`parse_slashes`), as part of the path unless the host goes on; but blanks
are kept that were dropped from the end. If no query and no fragment stand before it, the path ends with the one put
there (`parse_extended`).
-/

namespace Entitlement.Url

/-! ### Authorities -/

theorem mem_splitUserInfo {cs : List Char} {c : Char} (own : c ∈ (splitUserInfo cs).2) : c ∈ cs := by
  unfold splitUserInfo at own
  dsimp only at own
  split at own
  · exact own
  · exact List.mem_reverse.mp ((List.takeWhile_prefix _).subset (List.mem_reverse.mp own))

theorem mem_splitHost {inBrackets : Bool} {cs : List Char} {c : Char} (own : c ∈ (splitHost inBrackets cs).2) :
    c ∈ cs := by
  induction cs generalizing inBrackets with
  | nil => exact own
  | cons d cs ih =>
    unfold splitHost at own
    split at own
    · exact own
    · exact List.mem_cons_of_mem d (ih own)

theorem mem_readPort {cs rest : List Char} {port : Option Nat} {c : Char} (read : readPort cs = .ok (port, rest))
    (own : c ∈ rest) : c ∈ cs := by
  unfold readPort at read
  split at read
  · next r =>
    dsimp only at read
    split at read
    · cases read
    · cases read
      exact List.mem_cons_of_mem _ ((List.dropWhile_suffix _).subset own)
  · cases read
    exact own

/-- A host is read, and behind it a port, but nothing more. -/
theorem readAuthority_port {scheme text rest : List Char} {more : Bool} {authority : Authority}
    (read : readAuthority scheme text more = .ok (authority, rest)) :
    (isSpecial scheme = true → ∃ host, Host.parse (splitHost false (splitUserInfo text).2).1 = .ok host) ∧
      ∃ port, readPort (splitHost false (splitUserInfo text).2).2 = .ok (port, rest) := by
  unfold readAuthority at read
  dsimp only at read
  split at read
  · cases read
  split at read
  · cases read
  split at read
  case' isTrue special =>
    obtain ⟨host, parsed, read⟩ := ok_of_bind read
    have named : isSpecial scheme = true → ∃ host, Host.parse (splitHost false (splitUserInfo text).2).1 = .ok host :=
      fun _ => ⟨host, parsed⟩
  case' isFalse ordinary =>
    obtain ⟨host, _, read⟩ := ok_of_bind read
    have named : isSpecial scheme = true → ∃ host, Host.parse (splitHost false (splitUserInfo text).2).1 = .ok host :=
      fun special => (ordinary special).elim
  all_goals
    split at read
    · cases read
    obtain ⟨⟨port, behind⟩, reads, read⟩ := ok_of_bind read
    dsimp only at read
    split at read
    · cases read
    · cases read
      exact ⟨named, port, reads⟩

theorem mem_readAuthority {scheme text rest : List Char} {more : Bool} {authority : Authority} {c : Char}
    (read : readAuthority scheme text more = .ok (authority, rest)) (own : c ∈ rest) : c ∈ text := by
  obtain ⟨_, port, reads⟩ := readAuthority_port read
  exact mem_splitUserInfo (mem_splitHost (mem_readPort reads own))

theorem cut_none {c : Char} {cs : List Char} (free : c ∉ cs) : cut c cs = (cs, none) := by
  have passed : cs.dropWhile (· ≠ c) = [] :=
    List.dropWhile_eq_nil_iff.mpr fun d own => decide_eq_true fun same => free (same ▸ own)
  rw [cut, passed]

theorem splitTail_none {cs : List Char} (noQuery : '?' ∉ cs) (noFragment : '#' ∉ cs) :
    splitTail cs = (cs, none, none) := by
  simp only [splitTail, cut_none noFragment, cut_none noQuery]

/-- A text without query and fragment holds neither mark. -/
theorem splitTail_marks {cs path : List Char} (split : splitTail cs = (path, none, none)) : '?' ∉ cs ∧ '#' ∉ cs := by
  have cut_free {c : Char} {cs path : List Char} (none : cut c cs = (path, none)) : path = cs ∧ c ∉ cs := by
    unfold cut at none
    split at none
    · next passed =>
      cases none
      exact ⟨rfl, fun own => of_decide_eq_true (List.dropWhile_eq_nil_iff.mp passed c own) rfl⟩
    · cases none
  rcases first : cut '#' cs with ⟨front, fragment⟩
  rcases second : cut '?' front with ⟨path', query⟩
  simp only [splitTail, first, second, Prod.mk.injEq] at split
  obtain ⟨rfl, rfl, rfl⟩ := split
  obtain ⟨rfl, noFragment⟩ := cut_free first
  exact ⟨(cut_free second).2, noFragment⟩

theorem splitHost_colon (inBrackets : Bool) (cs : List Char) :
    (splitHost inBrackets cs).2 = [] ∨ ∃ r, (splitHost inBrackets cs).2 = ':' :: r := by
  induction cs generalizing inBrackets with
  | nil => exact Or.inl rfl
  | cons c cs ih =>
    unfold splitHost
    split
    · next colon => exact Or.inr ⟨cs, by rw [colon.1]⟩
    · exact ih _

/-- Behind the port only a backslash may follow. -/
theorem readPort_rest {cs rest : List Char} {port : Option Nat} (colon : cs = [] ∨ ∃ r, cs = ':' :: r)
    (read : readPort cs = .ok (port, rest)) : rest = [] ∨ rest.head? = some '\\' := by
  rcases colon with rfl | ⟨r, rfl⟩
  · cases read
    exact Or.inl rfl
  · simp only [readPort] at read
    split at read
    · cases read
    · next fits =>
      cases read
      have behind := (not_or.mp fits).2
      by_cases none : r.dropWhile Decimal.isDigit = []
      · exact Or.inl none
      · exact Or.inr (not_not.mp fun other => behind ⟨none, other⟩)

theorem readAuthority_rest {scheme text rest : List Char} {more : Bool} {authority : Authority}
    (noBackslash : '\\' ∉ text) (read : readAuthority scheme text more = .ok (authority, rest)) : rest = [] := by
  obtain ⟨_, port, reads⟩ := readAuthority_port read
  rcases readPort_rest (splitHost_colon false _) reads with none | backslash
  · exact none
  · exact (noBackslash (mem_readAuthority read (List.mem_of_mem_head? backslash))).elim

/-- That nothing follows a text makes no difference, since a host must be there anyway. -/
theorem readAuthority_more {scheme text : List Char} (special : isSpecial scheme = true) {more : Bool}
    {found : Authority × List Char} (read : readAuthority scheme text more = .ok found) (more' : Bool) :
    readAuthority scheme text more' = .ok found := by
  by_cases nobody : (splitUserInfo text).1 = some [] ∧ (splitUserInfo text).2.isEmpty = true
  · have none : (splitUserInfo text).2 = [] := List.isEmpty_iff.mp nobody.2
    have empty : splitHost false [] = ([], []) := rfl
    unfold readAuthority at read
    dsimp only at read
    rw [none, empty, special] at read
    split at read <;> cases read
  · have passed (m : Bool) :
        ¬ ((splitUserInfo text).1 = some [] ∧ (splitUserInfo text).2.isEmpty = true ∧ m = true) :=
      fun both => nobody ⟨both.1, both.2.1⟩
    rw [← read]
    unfold readAuthority
    dsimp only
    rw [if_neg (passed more'), if_neg (passed more)]

/-- What stands in a text before the path. -/
def hostPart (cs : List Char) : List Char := cs.takeWhile (!endsAuthority true ·)

/-- The path and all that stands behind it. -/
def pathPart (cs : List Char) : List Char := cs.dropWhile (!endsAuthority true ·)

/-- A URL on the web. -/
def webUrl (scheme : List Char) (authority : Authority) (tail : List Char) : Url :=
  withTail scheme (some authority) (fun p => .segments (readSegments true false p)) tail

theorem ofAuthority_web {scheme cs : List Char} {url : Url} (special : isSpecial scheme = true) :
    ofAuthority scheme cs = .ok url ↔
      ∃ authority, readAuthority scheme (hostPart cs) true = .ok (authority, []) ∧
        url = webUrl scheme authority (pathPart cs) := by
  have noBackslash : '\\' ∉ hostPart cs := fun own => absurd (List.mem_takeWhile_imp own) (by decide)
  have unfolded : ofAuthority scheme cs = readAuthority scheme (hostPart cs) (!(pathPart cs).isEmpty) >>=
      fun found => .ok (webUrl scheme found.1 (found.2 ++ pathPart cs)) := by
    simp only [ofAuthority, special, hostPart, pathPart, webUrl]
    rfl
  rw [unfolded]
  constructor
  · intro read
    obtain ⟨⟨authority, rest⟩, reads, made⟩ := ok_of_bind read
    cases readAuthority_rest noBackslash reads
    exact ⟨authority, readAuthority_more special reads true, (Except.ok.inj made).symm⟩
  · rintro ⟨authority, reads, rfl⟩
    rw [readAuthority_more special reads]
    rfl

theorem webUrl_plain {tail : List Char} (noQuery : '?' ∉ tail) (noFragment : '#' ∉ tail) (scheme : List Char)
    (authority : Authority) :
    webUrl scheme authority tail = ⟨scheme, some authority, .segments (readSegments true false tail), none, none⟩ := by
  rw [webUrl, withTail, splitTail_none noQuery noFragment]
  rfl

theorem webUrl_simple {tail : List Char} {segs : Segments} (noQuery : '?' ∉ tail) (noFragment : '#' ∉ tail)
    (simple : Simple segs) (scheme : List Char) (authority : Authority) :
    webUrl scheme authority (tail ++ segs.render) =
      ⟨scheme, some authority, .segments (directory tail ++ segs), none, none⟩ := by
  have noMark {c : Char} (free : c ∉ tail) (mark : isMark c = true) (slash : c ≠ '/') : c ∉ tail ++ segs.render := by
    intro own
    rcases List.mem_append.mp own with own | own
    · exact free own
    · exact notMem_render simple.simple mark slash own
  rw [webUrl_plain (noMark noQuery (by decide) (by decide)) (noMark noFragment (by decide) (by decide)),
    readSegments_simple tail simple]

theorem parts_slash (cs ds : List Char) :
    hostPart (cs ++ '/' :: ds) = hostPart cs ∧ pathPart (cs ++ '/' :: ds) = pathPart cs ++ '/' :: ds :=
  ⟨takeWhile_stop (by decide) cs ds, dropWhile_stop (by decide) cs ds⟩

theorem parts_render (cs : List Char) {segs : Segments} (simple : Simple segs) :
    hostPart (cs ++ segs.render) = hostPart cs ∧ pathPart (cs ++ segs.render) = pathPart cs ++ segs.render := by
  obtain ⟨s, rest, rfl⟩ := List.exists_cons_of_ne_nil simple.some
  exact parts_slash cs (s ++ Segments.render rest)

theorem parts_slashes (cs : List Char) (k : Nat) : hostPart (cs ++ List.replicate k '/') = hostPart cs ∧
    pathPart (cs ++ List.replicate k '/') = pathPart cs ++ List.replicate k '/' := by
  cases k with
  | zero => rw [List.replicate_zero, List.append_nil, List.append_nil]; exact ⟨rfl, rfl⟩
  | succ k => exact parts_slash cs (List.replicate k '/')

/-! ### Texts -/

theorem splitScheme_ok {cs scheme rest : List Char} :
    splitScheme cs = .ok (scheme, rest) ↔
      ∃ c name, cs = c :: name ++ ':' :: rest ∧ (∀ d ∈ c :: name, isSchemeChar d = true) ∧ c.isAlpha = true ∧
        scheme = (c :: name).map Char.toLower := by
  constructor
  · intro read
    unfold splitScheme at read
    split at read
    · next c name rest' front back =>
      split at read
      · next letter =>
        cases read
        refine ⟨c, name, ?_, ?_, letter, rfl⟩
        · rw [← front, ← back, List.takeWhile_append_dropWhile]
        · intro d own
          exact List.mem_takeWhile_imp (front ▸ own)
      · cases read
    · cases read
  · rintro ⟨c, name, rfl, chars, letter, rfl⟩
    have stop : isSchemeChar ':' = false := by decide
    have front : (c :: name ++ ':' :: rest).takeWhile isSchemeChar = c :: name := by
      rw [takeWhile_stop stop, List.takeWhile_eq_self_iff.mpr chars]
    have back : (c :: name ++ ':' :: rest).dropWhile isSchemeChar = ':' :: rest := by
      rw [dropWhile_stop stop, List.dropWhile_eq_nil_iff.mpr chars, List.nil_append]
    rw [splitScheme, front, back]
    exact if_pos letter

theorem splitScheme_append {cs scheme rest : List Char} (split : splitScheme cs = .ok (scheme, rest))
    (more : List Char) : splitScheme (cs ++ more) = .ok (scheme, rest ++ more) := by
  obtain ⟨c, name, rfl, chars, letter, lower⟩ := splitScheme_ok.mp split
  exact splitScheme_ok.mpr ⟨c, name, by rw [List.append_assoc]; rfl, chars, letter, lower⟩

/-- What holds no colon cannot end a scheme. -/
theorem splitScheme_front {cs more scheme rest : List Char} (noColon : ':' ∉ more)
    (split : splitScheme (cs ++ more) = .ok (scheme, rest)) :
    ∃ rest', rest = rest' ++ more ∧ splitScheme cs = .ok (scheme, rest') := by
  obtain ⟨c, name, whole, chars, letter, lower⟩ := splitScheme_ok.mp split
  rcases List.append_eq_append_iff.mp whole with ⟨middle, named, back⟩ | ⟨middle, front, back⟩
  · have inside : ':' ∈ more := by
      rw [back]
      exact List.mem_append_right middle List.mem_cons_self
    exact (noColon inside).elim
  · cases middle with
    | nil => exact (noColon (by rw [List.nil_append] at back; rw [← back]; exact List.mem_cons_self)).elim
    | cons d middle =>
      obtain ⟨rfl, rfl⟩ := List.cons.inj back
      exact ⟨middle, rfl, splitScheme_ok.mpr ⟨c, name, front, chars, letter, lower⟩⟩

/-- Scheme, colon and slashes hold none of the marks of a query or a fragment. -/
theorem splitScheme_named {cs scheme rest : List Char} (split : splitScheme cs = .ok (scheme, rest)) :
    ∃ named, cs = named ++ rest.dropWhile (isSlash true) ∧ '?' ∉ named ∧ '#' ∉ named := by
  obtain ⟨c, name, rfl, chars, _⟩ := splitScheme_ok.mp split
  have noMark {d : Char} (scheme : isSchemeChar d = false) (colon : d ≠ ':') (slash : isSlash true d = false) :
      d ∉ c :: name ++ ':' :: rest.takeWhile (isSlash true) := by
    intro own
    rcases List.mem_append.mp own with own | own
    · exact Bool.noConfusion (scheme.symm.trans (chars d own))
    · rcases List.mem_cons.mp own with same | own
      · exact colon same
      · exact Bool.noConfusion (slash.symm.trans (List.mem_takeWhile_imp own))
  refine ⟨c :: name ++ ':' :: rest.takeWhile (isSlash true), ?_, noMark (by decide) (by decide) (by decide),
    noMark (by decide) (by decide) (by decide)⟩
  rw [List.append_assoc]
  exact congrArg (fun r => c :: name ++ ':' :: r) List.takeWhile_append_dropWhile.symm

/-- Blanks and controls are dropped at the edges of a text. -/
def isEdge (c : Char) : Bool := c.toNat ≤ 0x20

/-- The text cleaned at its front, where nothing of it is dropped at its end. -/
def cleanFront (cs : List Char) : List Char := (cs.dropWhile isEdge).filter (!Segments.isStripped ·)

theorem mem_cleanFront {cs : List Char} {c : Char} (own : c ∈ cleanFront cs) : c ∈ cs :=
  (List.dropWhile_suffix isEdge).subset (List.mem_of_mem_filter own)

/-- What begins with a slash is kept to its beginning. -/
theorem cleanFront_append (cs : List Char) {ds : List Char} (slash : ds.head? = some '/')
    (kept : ∀ d ∈ ds, Segments.isStripped d = false) : cleanFront (cs ++ ds) = cleanFront cs ++ ds := by
  obtain ⟨ds, rfl⟩ := List.head?_eq_some_iff.mp slash
  have whole : ('/' :: ds).filter (!Segments.isStripped ·) = '/' :: ds :=
    List.filter_eq_self.mpr fun d own => by rw [kept d own, Bool.not_false]
  rw [cleanFront, dropWhile_stop (by decide), List.filter_append, whole, cleanFront]

theorem isStripped_edge {c : Char} (inner : isEdge c = false) : Segments.isStripped c = false := by
  simp only [isEdge, decide_eq_false_iff_not] at inner
  simp only [Segments.isStripped, Bool.or_eq_false_iff, decide_eq_false_iff_not]
  refine ⟨⟨?_, ?_⟩, ?_⟩
  all_goals
    rintro rfl
    exact inner (by decide)

theorem isEdge_render {segs : Segments} (simple : ∀ s ∈ segs, ∀ c ∈ s, isSimple c = true) {c : Char}
    (own : c ∈ segs.render) : isEdge c = false := by
  cases edge : isEdge c with
  | false => rfl
  | true =>
    have mark : isMark c = true := by
      simp only [isEdge] at edge
      simp only [isMark, edge, Bool.or_true]
    exact (notMem_render simple mark (by rintro rfl; cases edge) own).elim

/-- What begins with a slash and holds no blanks is kept to its end too. -/
theorem clean_append (cs : List Char) {ds : List Char} (slash : ds.head? = some '/') (visible : ∀ d ∈ ds, isEdge d = false) :
    clean (cs ++ ds) = cleanFront cs ++ ds := by
  have some : ds ≠ [] := by
    rintro rfl
    cases slash
  have uncut : (cs ++ ds).dropWhile isEdge = cs.dropWhile isEdge ++ ds := by
    obtain ⟨p, starts⟩ := List.head?_eq_some_iff.mp slash
    rw [starts, dropWhile_stop (by decide)]
  have unended : ((cs ++ ds).dropWhile isEdge).rdropWhile isEdge = (cs ++ ds).dropWhile isEdge := by
    rw [uncut]
    refine List.rdropWhile_eq_self_iff.mpr fun _ edge => ?_
    rw [List.getLast_append_of_right_ne_nil _ _ some, visible _ (List.getLast_mem some)] at edge
    cases edge
  rw [← cleanFront_append cs slash fun d own => isStripped_edge (visible d own)]
  exact congrArg (List.filter (!Segments.isStripped ·)) unended

theorem head?_render {segs : Segments} (simple : Simple segs) : segs.render.head? = some '/' := by
  obtain ⟨s, rest, rfl⟩ := List.exists_cons_of_ne_nil simple.some
  rfl

theorem visible_slashes {k : Nat} : ∀ d ∈ List.replicate k '/', isEdge d = false := by
  intro d own
  rw [List.eq_of_mem_replicate own]
  decide

/-- Slashes at the end keep the blanks before them. -/
theorem clean_slashes (front : List Char) (k : Nat) :
    ∃ kept blanks, cleanFront front = kept ++ blanks ∧ clean (front ++ List.replicate k '/') = kept ++ List.replicate k '/' ∧
      (∀ c ∈ blanks, isEdge c = true) ∧ (blanks ≠ [] → k = 0) ∧ (k = 0 → ∀ c ∈ kept.getLast?, isEdge c = false) := by
  cases k with
  | succ k =>
    refine ⟨cleanFront front, [], (List.append_nil _).symm, clean_append front rfl visible_slashes, ?_, ?_, ?_⟩
    · exact fun c own => (List.not_mem_nil own).elim
    · exact fun some => (some rfl).elim
    · exact fun zero => (Nat.succ_ne_zero k zero).elim
  | zero =>
    have whole : front.dropWhile isEdge =
        (front.dropWhile isEdge).rdropWhile isEdge ++ (front.dropWhile isEdge).rtakeWhile isEdge :=
      (List.rdropWhile_append_rtakeWhile ..).symm
    refine ⟨clean front, ((front.dropWhile isEdge).rtakeWhile isEdge).filter (!Segments.isStripped ·), ?_, ?_, ?_,
      fun _ => rfl, fun _ c last => ?_⟩
    · rw [cleanFront, whole, List.filter_append, ← whole]
      rfl
    · rw [List.replicate_zero, List.append_nil, List.append_nil]
    · exact fun c own => List.mem_rtakeWhile_imp (List.mem_of_mem_filter own)
    · rcases List.eq_nil_or_concat ((front.dropWhile isEdge).rdropWhile isEdge) with none | ⟨before, d, ends⟩
      · have empty : clean front = [] := congrArg (List.filter (!Segments.isStripped ·)) none
        rw [empty] at last
        cases last
      · rw [List.concat_eq_append] at ends
        have visible : isEdge d = false := by
          have some : (front.dropWhile isEdge).rdropWhile isEdge ≠ [] := by
            rw [ends]
            exact List.append_ne_nil_of_right_ne_nil before (List.cons_ne_nil d [])
          have inner := List.rdropWhile_last_not isEdge (front.dropWhile isEdge) some
          simp only [ends, List.getLast_append_of_right_ne_nil _ _ (List.cons_ne_nil d []), List.getLast_singleton] at inner
          exact Bool.eq_false_iff.mpr inner
        have own : clean front = before.filter (!Segments.isStripped ·) ++ [d] := by
          have filtered : clean front = (before ++ [d]).filter (!Segments.isStripped ·) :=
            congrArg (List.filter (!Segments.isStripped ·)) ends
          rw [filtered, List.filter_append, List.filter_singleton, isStripped_edge visible]
          rfl
        rw [own, List.getLast?_concat] at last
        cases last
        exact visible

/-! ### Addresses -/

/-- The schemes of the web. -/
def IsWeb (scheme : List Char) : Prop := scheme = "http".toList ∨ scheme = "https".toList

theorem IsWeb.special {scheme : List Char} (web : IsWeb scheme) : isSpecial scheme = true := by
  rcases web with rfl | rfl <;> decide

theorem IsWeb.ne_file {scheme : List Char} (web : IsWeb scheme) : scheme ≠ fileScheme := by
  rcases web with rfl | rfl <;> decide

theorem parse_web {text : String} {scheme rest : List Char} (web : IsWeb scheme)
    (split : splitScheme (clean text.toList) = .ok (scheme, rest)) :
    parse text = ofAuthority scheme (rest.dropWhile (isSlash true)) := by
  unfold parse
  rw [split]
  exact (if_neg web.ne_file).trans (if_pos web.special)

theorem ofAuthority_nil {scheme : List Char} (special : isSpecial scheme = true) :
    ofAuthority scheme [] = .error .emptyHost := by
  simp only [ofAuthority, readAuthority, special]
  rfl

/-- How an address is read of which `front` is left without the `k` slashes at its end. -/
structure Reading (front : List Char) (k : Nat) (base : Url) where
  /-- Scheme, colon and slashes. -/
  named : List Char
  /-- What is read behind them. -/
  text : List Char
  /-- What is dropped from the end. -/
  blanks : List Char
  cleaned : cleanFront front = named ++ text ++ blanks
  noMark : '?' ∉ named ∧ '#' ∉ named
  text_ne_nil : text ≠ []
  isEdge_blanks : ∀ c ∈ blanks, isEdge c = true
  blanks_bare : blanks ≠ [] → k = 0
  text_visible : k = 0 → ∀ c ∈ text.getLast?, isEdge c = false
  read : ofAuthority base.scheme (text ++ List.replicate k '/') = .ok base
  /-- What is put in the place of the slashes is read behind the text and the blanks. -/
  read_behind : ∀ ds : List Char, ds.head? = some '/' → (∀ d ∈ ds, isEdge d = false) →
    parse (String.ofList (front ++ ds)) = ofAuthority base.scheme (text ++ blanks ++ ds)

theorem parse_slashes {address : String} {base : Url} {front : List Char} {k : Nat} (read : parse address = .ok base)
    (web : IsWeb base.scheme) (whole : address.toList = front ++ List.replicate k '/') :
    Nonempty (Reading front k base) := by
  obtain ⟨⟨rest, split⟩, _⟩ := parse_ok read
  obtain ⟨kept, blanks, cleaned, slashed, blank, bare, visible⟩ := clean_slashes front k
  have noColon : ':' ∉ List.replicate k '/' := fun own => absurd (List.eq_of_mem_replicate own) (by decide)
  rw [parse_web web split] at read
  rw [whole, slashed] at split
  obtain ⟨rest', rfl, split'⟩ := splitScheme_front noColon split
  obtain ⟨named, rfl, noMark⟩ := splitScheme_named split'
  -- The slashes at the end are not the host, since the address has one.
  have host : rest'.dropWhile (isSlash true) ≠ [] := by
    intro empty
    have none : (rest' ++ List.replicate k '/').dropWhile (isSlash true) = [] := by
      rw [List.dropWhile_eq_nil_iff] at empty ⊢
      intro c own
      rcases List.mem_append.mp own with own | own
      · exact empty c own
      · rw [List.eq_of_mem_replicate own]
        rfl
    rw [none, ofAuthority_nil web.special] at read
    cases read
  have passed (ds : List Char) :
      (rest' ++ ds).dropWhile (isSlash true) = rest'.dropWhile (isSlash true) ++ ds := by
    rw [List.dropWhile_append, if_neg (by simpa using host)]
  refine ⟨⟨named, rest'.dropWhile (isSlash true), blanks, cleaned, noMark, host, blank, bare, fun zero d last => ?_, ?_,
    fun ds slash inner => ?_⟩⟩
  · exact visible zero d ((List.getLast?_append_of_ne_nil _ host).symm ▸ last)
  · rw [← passed]
    exact read
  · have extended : splitScheme (clean (String.ofList (front ++ ds)).toList) =
        .ok (base.scheme, rest' ++ (blanks ++ ds)) := by
      rw [String.toList_ofList, clean_append front slash inner, cleaned, List.append_assoc]
      exact splitScheme_append split' (blanks ++ ds)
    rw [parse_web web extended, passed, List.append_assoc]

/-- With a path of simple segments in the place of the slashes, it is these that end the path. -/
theorem parse_extended {address : String} {base url : Url} {front : List Char} {k : Nat} {segs : Segments}
    (read : parse address = .ok base) (web : IsWeb base.scheme) (whole : address.toList = front ++ List.replicate k '/')
    (noQuery : '?' ∉ front) (noFragment : '#' ∉ front) (simple : Simple segs)
    (extended : parse (String.ofList (front ++ segs.render)) = .ok url) :
    ∃ authority before, url = ⟨base.scheme, some authority, .segments (before ++ segs), none, none⟩ := by
  obtain ⟨r⟩ := parse_slashes read web whole
  have inFront {c : Char} (own : c ∈ pathPart (r.text ++ r.blanks)) : c ∈ front := by
    refine mem_cleanFront ?_
    rw [r.cleaned, List.append_assoc]
    exact List.mem_append_right r.named ((List.dropWhile_suffix _).subset own)
  rw [r.read_behind _ (head?_render simple) fun _ => isEdge_render simple.simple] at extended
  obtain ⟨authority, _, rfl⟩ := (ofAuthority_web web.special).mp extended
  refine ⟨authority, directory (pathPart (r.text ++ r.blanks)), ?_⟩
  rw [(parts_render _ simple).2,
    webUrl_simple (fun own => noQuery (inFront own)) (fun own => noFragment (inFront own)) simple]

end Entitlement.Url
