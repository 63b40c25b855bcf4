import Entitlement.Proofs.Url.Extension

/-!
Blanks and controls at the end of an address are dropped, but not from the middle of a URL: with something put behind
them, they belong to the host, which is then none (`readAuthority_blank`), or they lengthen the path
(`directory_blank`).
-/

namespace Entitlement.Url

/-! ### Escapes -/

/-- A percent sign without two digits stands for itself. -/
theorem unescape_percent {high low : Char} (noDigits : Digit.value? high = none ∨ Digit.value? low = none)
    (cs : List Char) : unescape ('%' :: high :: low :: cs) = Utf8.encodeChar '%' ++ unescape (high :: low :: cs) := by
  rw [unescape]
  split
  · next h l highDigit lowDigit =>
    rw [highDigit, lowDigit] at noDigits
    exact (noDigits.elim (Option.some_ne_none h) (Option.some_ne_none l)).elim
  · rfl

/-- No escape reaches beyond a character that is no digit. -/
theorem unescape_append {d : Char} (noDigit : Digit.value? d = none) (cs ds : List Char) :
    unescape (cs ++ d :: ds) = unescape cs ++ unescape (d :: ds) := by
  fun_induction unescape cs with
  | case1 high low r h l highDigit lowDigit ih =>
    rw [List.cons_append, List.cons_append, List.cons_append, unescape, highDigit, lowDigit]
    simp only [ih, List.cons_append]
  | case2 high low r noDigits ih =>
    have none : Digit.value? high = none ∨ Digit.value? low = none := by
      cases highDigit : Digit.value? high with
      | none => exact Or.inl rfl
      | some h =>
        cases lowDigit : Digit.value? low with
        | none => exact Or.inr rfl
        | some l => exact (noDigits h l highDigit lowDigit).elim
    rw [List.append_assoc, ← ih]
    exact unescape_percent none _
  | case3 c r short ih =>
    rw [List.append_assoc, ← ih, List.cons_append]
    by_cases percent : c = '%'
    · subst percent
      -- At most one character stands between the percent sign and the one that is no digit.
      rcases r with _ | ⟨x, _ | ⟨y, r⟩⟩
      · cases ds with
        | nil => rfl
        | cons e ds => exact unescape_percent (Or.inl noDigit) ds
      · exact unescape_percent (Or.inr noDigit) ds
      · exact (short x y r rfl rfl).elim
    · exact unescape_cons percent _
  | case4 => rfl

/-- What holds of every blank and control holds of a character at an edge. -/
theorem of_isEdge (p : Char → Prop) {c : Char} (edge : isEdge c = true) (all : ∀ n ≤ 0x20, p (Char.ofNat n)) : p c := by
  have own := all c.toNat (of_decide_eq_true edge)
  rwa [Char.ofNat_toNat] at own

theorem edge_notDigit {c : Char} (edge : isEdge c = true) : Digit.value? c = none :=
  of_isEdge (Digit.value? · = none) edge (by decide)

theorem encode_edge {c : Char} (edge : isEdge c = true) : Utf8.encodeChar c = [Utf8.byte c.toNat] :=
  if_pos (Nat.lt_of_le_of_lt (of_decide_eq_true edge) (by decide))

/-- Blanks stay, if a text is unescaped. -/
theorem mem_unescape_blank {blanks : List Char} (blank : ∀ c ∈ blanks, isEdge c = true) {c : Char} (own : c ∈ blanks)
    (cs : List Char) : Utf8.byte c.toNat ∈ unescape (cs ++ blanks) := by
  induction blanks generalizing cs with
  | nil => cases own
  | cons b blanks ih =>
    obtain ⟨first, others⟩ := List.forall_mem_cons.mp blank
    have plain : b ≠ '%' := of_isEdge (· ≠ '%') first (by decide)
    rw [unescape_append (edge_notDigit first), unescape_cons plain, encode_edge first]
    rcases List.mem_cons.mp own with rfl | own
    · exact List.mem_append_right _ List.mem_cons_self
    · exact List.mem_append_right _ (List.mem_append_right _ (ih others own []))

/-! ### Hosts -/

/-- The bytes behind the first one of a character are none of ASCII. -/
theorem mem_tail_ascii {more acc low high : Nat} (wide : 0x80 ≤ low) {bs : Bytes} {b : UInt8} (ascii : b.toNat < 0x80)
    (own : b ∈ bs) : b ∈ (Utf8.tail more acc low high bs).2 := by
  induction bs generalizing more acc low high with
  | nil => cases own
  | cons d bs ih =>
    cases more with
    | zero => exact own
    | succ more =>
      rw [Utf8.tail]
      split
      · next inside =>
        refine ih (Nat.le_refl _) ((List.mem_cons.mp own).resolve_left ?_)
        rintro rfl
        omega
      · exact own

theorem lead?_low {b more acc low high : Nat} (leads : Utf8.lead? b = some (more, acc, low, high)) : 0x80 ≤ low := by
  unfold Utf8.lead? at leads
  split_ifs at leads
  all_goals
    simp only [Option.some.injEq, Prod.mk.injEq] at leads
    omega

theorem mem_next_ascii {bs : Bytes} {b : UInt8} (ascii : b.toNat < 0x80) (own : b ∈ bs) (d : UInt8) :
    b ∈ (Utf8.next d bs).2 := by
  unfold Utf8.next
  split
  · exact own
  · split
    · next leads => exact mem_tail_ascii (lead?_low leads) ascii own
    · exact own

/-- A byte of ASCII is a character of its own. -/
theorem mem_decode?_ascii {bs : Bytes} {cs : List Char} {b : UInt8} (ascii : b.toNat < 0x80) (own : b ∈ bs)
    (read : Utf8.decode? bs = some cs) : Char.ofNat b.toNat ∈ cs := by
  fun_induction Utf8.decode? bs generalizing cs with
  | case1 => cases own
  | case2 d bs ih =>
    obtain ⟨c, first, read⟩ := Option.bind_eq_some_iff.mp read
    obtain ⟨others, behind, rfl⟩ := Option.map_eq_some_iff.mp read
    rcases List.mem_cons.mp own with rfl | own
    · rw [Utf8.next, if_pos ascii] at first
      cases first
      exact List.mem_cons_self
    · exact List.mem_cons_of_mem c (ih (mem_next_ascii ascii own d) behind)

theorem parse_blank {blanks : List Char} (blank : ∀ c ∈ blanks, isEdge c = true) (some : blanks ≠ [])
    (cs : List Char) (host : Host) : Host.parse (cs ++ blanks) ≠ .ok host := by
  intro parsed
  obtain ⟨front, c, ends⟩ := List.eq_nil_or_concat blanks |>.resolve_left some
  rw [List.concat_eq_append] at ends
  have own : c ∈ blanks := ends ▸ List.mem_append_right front List.mem_cons_self
  have edge := blank c own
  unfold Host.parse at parsed
  split at parsed
  · have noBracket : c ≠ ']' := of_isEdge (· ≠ ']') edge (by decide)
    have last : (cs ++ blanks).getLast? ≠ Option.some ']' := by
      rw [ends, ← List.append_assoc, List.getLast?_concat]
      exact fun same => noBracket (Option.some.inj same)
    rw [parseBracketed, if_pos last] at parsed
    cases parsed
  · split at parsed
    · cases parsed
    · next name decoded =>
      have ascii : c.toNat < 0x80 := Nat.lt_of_le_of_lt (of_decide_eq_true edge) (by decide)
      have code : (Utf8.byte c.toNat).toNat = c.toNat := Utf8.toNat_byte (by omega)
      have kept : c ∈ name := by
        have inside := mem_decode?_ascii (code.symm ▸ ascii) (mem_unescape_blank blank own cs) decoded
        rwa [code, Char.ofNat_toNat] at inside
      have forbidden : name.any Host.isForbiddenInDomain = true :=
        List.any_eq_true.mpr ⟨c, kept, of_isEdge (Host.isForbiddenInDomain · = true) edge (by decide)⟩
      rw [if_pos forbidden] at parsed
      cases parsed

/-! ### Authorities -/

theorem splitUserInfo_host (cs : List Char) : (splitUserInfo cs).2 = cs.rtakeWhile (· ≠ '@') := by
  unfold splitUserInfo
  dsimp only
  split
  · next whole => exact ((List.rtakeWhile_suffix _ _).eq_of_length whole).symm
  · rfl

theorem splitUserInfo_append {ds : List Char} (free : '@' ∉ ds) (cs : List Char) :
    (splitUserInfo (cs ++ ds)).2 = (splitUserInfo cs).2 ++ ds := by
  have all : ∀ d ∈ ds.reverse, decide (d ≠ '@') = true := by
    intro d own
    exact decide_eq_true fun same => free (same ▸ List.mem_reverse.mp own)
  rw [splitUserInfo_host, splitUserInfo_host, List.rtakeWhile, List.rtakeWhile, List.reverse_append,
    List.takeWhile_append_of_pos all, List.reverse_append, List.reverse_reverse]

/-- What holds no colon belongs to the host, if there is no port, and otherwise to the port. -/
theorem splitHost_append {ds : List Char} (free : ':' ∉ ds) (inBrackets : Bool) (cs : List Char) :
    splitHost inBrackets (cs ++ ds) = ((splitHost inBrackets cs).1 ++ ds, []) ∨
      ∃ r, splitHost inBrackets (cs ++ ds) = ((splitHost inBrackets cs).1, ':' :: (r ++ ds)) := by
  induction cs generalizing inBrackets with
  | nil =>
    left
    show splitHost inBrackets ds = (ds, [])
    induction ds generalizing inBrackets with
    | nil => rfl
    | cons d ds ih =>
      obtain ⟨first, others⟩ := not_or.mp (mt List.mem_cons.mpr free)
      rw [splitHost, if_neg fun both => first both.1.symm]
      simp only [ih others]
  | cons c cs ih =>
    rw [List.cons_append, splitHost, splitHost]
    split
    · next colon => exact Or.inr ⟨cs, by rw [colon.1]⟩
    · dsimp only
      rcases ih (if c = '[' then true else if c = ']' then false else inBrackets) with whole | ⟨r, apart⟩
      · exact Or.inl (by rw [whole]; rfl)
      · exact Or.inr ⟨r, by rw [apart]⟩

/-- No authority ends in a blank. -/
theorem readAuthority_blank {scheme text rest blanks : List Char} {more : Bool} {authority : Authority}
    (special : isSpecial scheme = true) (blank : ∀ c ∈ blanks, isEdge c = true) (some : blanks ≠ [])
    (noBackslash : '\\' ∉ text) : readAuthority scheme (text ++ blanks) more ≠ .ok (authority, rest) := by
  intro read
  have free (d : Char) (inner : isEdge d = false) : d ∉ blanks := fun own =>
    Bool.noConfusion (inner.symm.trans (blank d own))
  have none : rest = [] := by
    refine readAuthority_rest (fun own => ?_) read
    exact (List.mem_append.mp own).elim noBackslash (free '\\' (by decide))
  obtain ⟨named, port, reads⟩ := readAuthority_port read
  rw [splitUserInfo_append (free '@' (by decide))] at named reads
  rcases splitHost_append (free ':' (by decide)) false (splitUserInfo text).2 with whole | ⟨r, apart⟩
  · obtain ⟨host, parsed⟩ := named special
    rw [whole] at parsed
    exact parse_blank blank some _ host parsed
  · -- A blank is no digit of the port.
    rw [apart, none] at reads
    simp only [readPort] at reads
    split at reads
    · cases reads
    · have digits : (r ++ blanks).dropWhile Decimal.isDigit = [] := (Prod.mk.inj (Except.ok.inj reads)).2
      obtain ⟨b, own⟩ := List.exists_mem_of_ne_nil blanks some
      have digit := List.dropWhile_eq_nil_iff.mp digits b (List.mem_append_right r own)
      have noDigit : Decimal.isDigit b = false := of_isEdge (Decimal.isDigit · = false) (blank b own) (by decide)
      exact Bool.noConfusion (noDigit.symm.trans digit)

/-! ### Paths -/

theorem escape_blanks {blanks : List Char} (blank : ∀ c ∈ blanks, isEdge c = true) :
    unescape (escape .path blanks) = Utf8.encode blanks := by
  induction blanks with
  | nil => rfl
  | cons b blanks ih =>
    obtain ⟨first, others⟩ := List.forall_mem_cons.mp blank
    rw [escape_cons, if_pos (of_isEdge (EscapeSet.path.has · = true) first (by decide)), unescape_escapeBytes, ih others]
    rfl

theorem mem_unescape_escape {blanks : List Char} (blank : ∀ c ∈ blanks, isEdge c = true) {c : Char} (own : c ∈ blanks)
    (s : List Char) : Utf8.byte c.toNat ∈ unescape (s ++ escape .path blanks) := by
  have encoded : Utf8.byte c.toNat ∈ unescape (escape .path blanks) := by
    rw [escape_blanks blank]
    refine List.mem_flatMap.mpr ⟨c, own, ?_⟩
    rw [encode_edge (blank c own)]
    exact List.mem_singleton.mpr rfl
  obtain ⟨b, r, rfl⟩ := List.exists_cons_of_ne_nil (List.ne_nil_of_mem own)
  have edge := blank b List.mem_cons_self
  have percent : escape .path (b :: r) = '%' :: (escape .path (b :: r)).tail := by
    rw [escape_cons, if_pos (of_isEdge (EscapeSet.path.has · = true) edge (by decide)), encode_edge edge]
    rfl
  rw [percent] at encoded ⊢
  rw [unescape_append (by decide)]
  exact List.mem_append_right _ encoded

/-- With blanks behind it, nothing means dots. -/
theorem noDots_blank {blanks : List Char} (blank : ∀ c ∈ blanks, isEdge c = true) (some : blanks ≠ []) (s : List Char) :
    isSingleDot (s ++ escape .path blanks) = false ∧ isDoubleDot (s ++ escape .path blanks) = false := by
  obtain ⟨c, own⟩ := List.exists_mem_of_ne_nil blanks some
  have kept := mem_unescape_escape blank own s
  have noDot : Utf8.byte c.toNat ≠ 0x2E := of_isEdge (fun c => Utf8.byte c.toNat ≠ 0x2E) (blank c own) (by decide)
  have dot : Utf8.encodeChar '.' = [0x2E] := rfl
  constructor
  · refine Bool.eq_false_iff.mpr fun single => ?_
    rw [unescape_dotless? (of_decide_eq_true single), dot] at kept
    exact noDot (List.mem_singleton.mp kept)
  · refine Bool.eq_false_iff.mpr fun double => ?_
    obtain ⟨rest, first, second⟩ := Option.bind_eq_some_iff.mp (of_decide_eq_true double)
    rw [unescape_dotless? first, unescape_dotless? second, dot] at kept
    rcases List.mem_cons.mp kept with same | behind
    · exact noDot same
    · exact noDot (List.mem_singleton.mp behind)

namespace Segments

theorem length_render_append (segs : Segments) (s : List Char) :
    (segs ++ [s]).render.length = segs.render.length + (s.length + 1) := by
  have one : Segments.render [s] = '/' :: s := List.append_nil _
  rw [render_append, one, List.length_append, List.length_cons]

theorem length_render_up (segs : Segments) : segs.up.render.length ≤ segs.render.length := by
  unfold up
  split
  · next last ends =>
    split
    · exact Nat.le_refl _
    · obtain ⟨front, rfl⟩ := List.getLast?_eq_some_iff.mp ends
      rw [List.dropLast_concat, length_render_append]
      exact Nat.le_add_right _ _
  · exact Nat.le_refl _

theorem length_render_add (segs : Segments) (s : List Char) :
    (segs.add false true s).render.length ≤ segs.render.length + (s.length + 1) := by
  unfold add
  split
  · rw [if_pos rfl, length_render_append]
    exact Nat.add_le_add (length_render_up segs) (Nat.succ_le_succ (Nat.zero_le _))
  split
  · rw [if_pos rfl, length_render_append]
    exact Nat.add_le_add_left (Nat.succ_le_succ (Nat.zero_le _)) _
  · simp only [Bool.false_eq_true, false_and, ↓reduceIte, length_render_append, Nat.le_refl]

end Segments

/-- Blanks behind a path that has begun make it longer. -/
theorem directory_blank {path blanks : List Char} (begun : path ≠ []) (blank : ∀ c ∈ blanks, isEdge c = true)
    (some : blanks ≠ []) :
    (readSegments true false path).render.length < (directory (path ++ blanks)).render.length := by
  have noSlash : ∀ c ∈ blanks, isSlash true c = false := fun c own =>
    of_isEdge (isSlash true · = false) (blank c own) (by decide)
  obtain ⟨before, last, extended, alone⟩ := parts_append path some noSlash
  obtain ⟨noDot, noDots⟩ := noDots_blank blank some last
  have escaped : 0 < (escape .path blanks).length := List.length_pos_iff.mpr (escape_ne_nil some)
  have short : (readSegments true false path).render.length ≤ (Segments.walk [] before).render.length + (last.length + 1) := by
    rw [readSegments_parts begun, alone begun, Segments.addAll_walk _ _ (List.cons_ne_nil _ _), Segments.addAll]
    exact Segments.length_render_add _ _
  have long : (directory (path ++ blanks)).render.length =
      (Segments.walk [] before).render.length + ((last ++ escape .path blanks).length + 1) := by
    rw [directory, extended, Segments.walk_append, Segments.walk_cons]
    simp only [Segments.add, noDot, noDots, Bool.false_eq_true, false_and, ↓reduceIte]
    exact Segments.length_render_append _ _
  rw [long, List.length_append]
  omega

end Entitlement.Url
