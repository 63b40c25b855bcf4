import Entitlement.Json.Writer
import Entitlement.Proofs.Json.Rearrange

/-!
A record written with one member for each of its fields reads back with all of them set (`parseRecord_written`), also
within blanks. What is written is an object of the grammar, and each of its members sets its field.
-/

namespace Entitlement.Json

/-! ### Values -/

theorem isContent_escapeChar (c : Char) {bs : Bytes} (behind : IsContent bs) :
    IsContent (Utf8.encode (escapeChar c) ++ bs) := by
  unfold escapeChar
  split
  · next special => rcases special with rfl | rfl <;> exact .letter (by decide) behind
  next special =>
  split
  · exact .letter (by decide) behind
  split
  · exact .letter (by decide) behind
  split
  · exact .letter (by decide) behind
  split
  · exact .letter (by decide) behind
  split
  · exact .letter (by decide) behind
  split
  · next control =>
    have small : c.toNat < 0x100 := by omega
    have apart : Utf8.encode ['\\', 'u', '0', '0', hexDigit (c.toNat / 16), hexDigit (c.toNat % 16)] =
        code '\\' :: Utf8.encode ['u', '0', '0', hexDigit (c.toNat / 16), hexDigit (c.toNat % 16)] := rfl
    rw [apart, encode_control small]
    refine .digits ?_ behind
    simp only [List.forall_mem_cons]
    refine ⟨by decide, by decide, ?_, ?_, List.forall_mem_nil _⟩
    · rw [hexValue?_hexDigit (by omega)]
      rfl
    · rw [hexValue?_hexDigit (by omega)]
      rfl
  · next control =>
    obtain ⟨noQuote, noBackslash⟩ := not_or.mp special
    have single : Utf8.encode [c] = Utf8.encodeChar c := List.append_nil _
    rw [single]
    exact isContent_append (fun b => isPlain_of_mem_encodeChar noQuote noBackslash (Nat.le_of_not_lt control)) behind

theorem isContent_written (cs : List Char) : IsContent (Utf8.encode (cs.flatMap escapeChar)) := by
  induction cs with
  | nil => exact .nil
  | cons c cs ih =>
    have apart : Utf8.encode ((c :: cs).flatMap escapeChar) =
        Utf8.encode (escapeChar c) ++ Utf8.encode (cs.flatMap escapeChar) := by
      rw [List.flatMap_cons]
      exact List.flatMap_append
    rw [apart]
    exact isContent_escapeChar c ih

theorem isWhole_digitsOf (n : Nat) : IsWhole (Utf8.encode (Decimal.digitsOf n)) :=
  ⟨⟨encode_digitsOf_ne_nil n, fun _ => isDigit_of_mem_encode⟩, noZero_digitsOf n⟩

theorem encode_writeText (s : String) :
    Utf8.encode (writeText s) = code '"' :: (Utf8.encode (s.toList.flatMap escapeChar) ++ [code '"']) :=
  congrArg (code '"' :: ·) List.flatMap_append

theorem isValue_write (v : Scalar) : IsValue (Utf8.encode v.write) := by
  cases v with
  | text s =>
    rw [Scalar.write, encode_writeText]
    exact .string (isContent_written _)
  | int64 i =>
    rw [Scalar.write, Decimal.ofInt64, Decimal.ofInt, String.toList_ofList]
    split
    · exact .negative (isMagnitude_digits (isWhole_digitsOf _))
    · exact .positive (isMagnitude_digits (isWhole_digitsOf _))
  | uint64 n =>
    rw [Scalar.write, Decimal.ofUInt64, String.toList_ofList]
    exact .positive (isMagnitude_digits (isWhole_digitsOf _))

theorem readText_written (s : String) (rest : Bytes) :
    readText (Utf8.encode (writeText s) ++ rest) = .ok (s, rest) := by
  rw [encode_writeText, List.cons_append, List.append_assoc]
  exact string_written s rest

/-! ### Members -/

variable {σ : Type}

/-- A field, the value that is written for it, and what reading this value sets. -/
structure Entry (σ : Type) where
  field : Member σ
  value : Scalar
  set : σ → σ
  steady : Steady field.read
  read_value : ∀ {b : UInt8}, endsNumber b = true → ∀ rest,
    field.read (Utf8.encode value.write ++ b :: rest) = .ok (set, b :: rest)

namespace Entry

/-- A field that must be there, with a value that its reader reads back. -/
def of {α : Type} (name : String) (set : α → σ → σ) (read : Bytes → Read α) (steady : Steady read) (value : Scalar)
    (a : α) (reads : ∀ {b : UInt8}, endsNumber b = true → ∀ rest,
      read (Utf8.encode value.write ++ b :: rest) = .ok (a, b :: rest)) : Entry σ where
  field := .of name true read set
  value := value
  set := set a
  steady := steady.member name true set
  read_value ends rest := congrArg (Except.map _) (reads ends rest)

def text (name : String) (set : String → σ → σ) (s : String) : Entry σ :=
  of name set readText steady_readText (.text s) s fun _ _ => readText_written s _

def int64 (name : String) (set : Int64 → σ → σ) (i : Int64) : Entry σ :=
  of name set readInt64 steady_readInt64 (.int64 i) i fun ends _ => readInt64_written ends _ i

def uint64 (name : String) (set : UInt64 → σ → σ) (n : UInt64) : Entry σ :=
  of name set readUInt64 steady_readUInt64 (.uint64 n) n fun ends _ => readUInt64_written ends _ n

def name (e : Entry σ) : String := e.field.name

def member (e : Entry σ) : String × Scalar := (e.name, e.value)

/-- The member as it is written. -/
def written (e : Entry σ) : MemberText where
  name := Utf8.encode (e.name.toList.flatMap escapeChar)
  value := Utf8.encode e.value.write

variable (e : Entry σ)

theorem written_formed : e.written.Formed :=
  ⟨⟨isBlanks_nil, isContent_written _, isBlanks_nil, isBlanks_nil, isBlanks_nil⟩, isValue_write e.value⟩

theorem written_title : e.written.title = some e.name := by
  have read := string_content (isContent_written e.name.toList) []
  exact (read.ok_iff.mp (string_written e.name [])).1

theorem written_value : valueOf e.field.read e.written.value = some e.set := by
  have ends : endsNumber (code ',') = true := by decide
  have read := e.steady e.written_formed.value isBlanks_nil (delimited_cons ends [])
  exact (read.ok_iff.mp (e.read_value ends [])).1

theorem bytes_written : e.written.bytes = Utf8.encode (writeMember e.member) := by
  have apart : Utf8.encode (writeMember e.member) =
      Utf8.encode (writeText e.name) ++ code ':' :: Utf8.encode e.value.write := List.flatMap_append
  rw [apart, encode_writeText, MemberText.bytes, ElementText.bytes]
  simp only [written, List.nil_append, List.append_nil, List.cons_append, List.append_assoc]

end Entry

/-! ### Records -/

theorem encode_writeMembers (entries : List (Entry σ)) : Utf8.encode (writeMembers (entries.map Entry.member)) =
    commaSeparated ((entries.map Entry.written).map MemberText.bytes) := by
  induction entries with
  | nil => rfl
  | cons e es ih =>
    cases es with
    | nil =>
      show Utf8.encode (writeMember e.member) = e.written.bytes ++ []
      rw [List.append_nil, e.bytes_written]
    | cons e' es =>
      have apart : Utf8.encode (writeMembers ((e :: e' :: es).map Entry.member)) =
          Utf8.encode (writeMember e.member) ++ code ',' :: Utf8.encode (writeMembers ((e' :: es).map Entry.member)) :=
        List.flatMap_append
      rw [apart, ih, ← e.bytes_written]
      rfl

theorem utf8_writeRecord (entries : List (Entry σ)) :
    utf8 (writeRecord (entries.map Entry.member)) = objectText (entries.map Entry.written) [] := by
  rw [utf8, writeRecord, String.toList_ofList, objectText, ← encode_writeMembers]
  exact congrArg (code '\x7b' :: ·) List.flatMap_append

section Written

variable {entries : List (Entry σ)} (distinct : (entries.map Entry.name).Nodup)
include distinct

theorem settingOf_written {e : Entry σ} (own : e ∈ entries) :
    settingOf (entries.map Entry.field) e.written = some (some (e.name, e.set)) := by
  have names : (entries.map Entry.field).map Member.name = entries.map Entry.name := List.map_map
  rw [settingOf_of_find? e.written_title (find?_name (names ▸ distinct) (List.mem_map_of_mem own)), e.written_value]
  rfl

theorem settings_written : settings (entries.map Entry.field) (entries.map Entry.written) =
    entries.map fun e => (e.name, e.set) := by
  have each : ∀ e ∈ entries, (settingOf (entries.map Entry.field) e.written).join = some (e.name, e.set) := by
    intro e own
    rw [settingOf_written distinct own]
    rfl
  rw [settings, List.filterMap_map]
  exact (List.filterMap_congr each).trans (congrFun List.filterMap_eq_map entries)

/-- Each member that is written sets its field, and so none is missing. -/
theorem accepts_written (start : σ) : Accepts (entries.map Entry.field) start (entries.map Entry.written)
    (entries.foldl (fun s e => e.set s) start) := by
  have names :
      (settings (entries.map Entry.field) (entries.map Entry.written)).map Prod.fst = entries.map Entry.name := by
    rw [settings_written distinct, List.map_map]
    rfl
  refine ⟨?_, names ▸ distinct, fun f own _ => ?_, ?_⟩
  · intro m member
    obtain ⟨e, own, rfl⟩ := List.mem_map.mp member
    rw [settingOf_written distinct own]
    rfl
  · obtain ⟨e, member, rfl⟩ := List.mem_map.mp own
    rw [names]
    exact List.mem_map_of_mem member
  · rw [settings_written distinct, List.foldl_map]

/-- A record with a member for each field reads back, whatever blanks stand around it. -/
theorem parseRecord_written (start : σ) {before after : Bytes} (blankBefore : ∀ b ∈ before, isBlank b = true)
    (blankAfter : ∀ b ∈ after, isBlank b = true) :
    parseRecord (entries.map Entry.field) start
        (before ++ utf8 (writeRecord (entries.map Entry.member)) ++ after) =
      .ok (entries.foldl (fun s e => e.set s) start) := by
  have steady : ∀ f ∈ entries.map Entry.field, Steady f.read := by
    intro f own
    obtain ⟨e, _, rfl⟩ := List.mem_map.mp own
    exact e.steady
  have formed : ∀ m ∈ entries.map Entry.written, m.Formed := by
    intro m own
    obtain ⟨e, _, rfl⟩ := List.mem_map.mp own
    exact e.written_formed
  rw [utf8_writeRecord, List.append_assoc]
  exact (parseRecord_object steady start formed blankBefore isBlanks_nil blankAfter).mpr
    (recordOf_eq_some_iff.mpr (accepts_written distinct start))

end Written

end Entitlement.Json
