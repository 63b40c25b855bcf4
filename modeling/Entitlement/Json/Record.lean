import Entitlement.Json.Skip

/-!
Records: values with known fields, read from an object in one pass, or from a list of the fields in
their order. A record is described by its fields; reading starts from a value `σ` in which no field
has been read and sets one after the other. A name that is no field is passed over with its value.
-/

namespace Entitlement.Json

/-- A field: its name, whether it may be missing, and how its value is read and set. -/
structure Member (σ : Type) where
  name : String
  required : Bool
  read : Bytes → Read (σ → σ)

/-! ### Values of fields -/

/-- Whatever stands here is of the wrong shape, unless it is not even well formed. -/
def refuse {α : Type} (b : UInt8) (r : Bytes) : Except Fault α :=
  let ends {β : Type} : Except Fault β → Except Fault α
    | .error f => .error f
    | .ok _ => .error .mismatch
  if b = code 'n' then ends (expect [code 'u', code 'l', code 'l'] r)
  else if b = code 't' then ends (expect [code 'r', code 'u', code 'e'] r)
  else if b = code 'f' then ends (expect [code 'a', code 'l', code 's', code 'e'] r)
  else if b = code '-' then ends (number true r)
  else if isDigit b then ends (number false (b :: r))
  else if b = code '"' then ends (string r)
  else if b = code '[' ∨ b = code '\x7b' then .error .mismatch
  else .error .malformed

/-- Reads the first byte behind blanks and goes on from there. -/
def fromFirst {α : Type} (f : UInt8 → Bytes → Read α) (bs : Bytes) : Read α :=
  match skipBlank bs with
  | [] => .error .truncated
  | b :: r => f b r

def readText : Bytes → Read String :=
  fromFirst fun b r => if b = code '"' then string r else refuse b r

def readBool : Bytes → Read Bool :=
  fromFirst fun b r =>
    if b = code 't' then (expect [code 'r', code 'u', code 'e'] r).map fun r => (true, r)
    else if b = code 'f' then
      (expect [code 'a', code 'l', code 's', code 'e'] r).map fun r => (false, r)
    else refuse b r

def readNumber : Bytes → Read Number :=
  fromFirst fun b r =>
    if b = code '-' then number true r
    else if isDigit b then number false (b :: r)
    else refuse b r

/-- Narrows what has been read. -/
def narrow {α β : Type} (f : α → Option β) : Read α → Read β
  | .error e => .error e
  | .ok (a, r) =>
    match f a with
    | some b => .ok (b, r)
    | none => .error .mismatch

def Number.asInt64? : Number → Option Int64
  | unsigned n => if n.toNat < Nat.pow 2 63 then some (Int64.ofInt n.toNat) else none
  | negative i => some i
  | float _ => none

def Number.asUInt64? : Number → Option UInt64
  | unsigned n => some n
  | negative _ | float _ => none

def Number.toFloat : Number → Float
  | unsigned n => Float.ofNat n.toNat
  | negative i => Float.ofInt i.toInt
  | float x => x

def readInt64 (bs : Bytes) : Read Int64 := narrow Number.asInt64? (readNumber bs)

def readUInt64 (bs : Bytes) : Read UInt64 := narrow Number.asUInt64? (readNumber bs)

def readFloat (bs : Bytes) : Read Float := narrow (fun n => some n.toFloat) (readNumber bs)

/-- A value, or the word for none. -/
def readOptional {α : Type} (read : Bytes → Read α) : Bytes → Read (Option α) :=
  fromFirst fun b r =>
    if b = code 'n' then (expect [code 'u', code 'l', code 'l'] r).map fun r => (none, r)
    else (read (b :: r)).map fun (a, r) => (some a, r)

def Member.of {σ α : Type} (name : String) (required : Bool) (read : Bytes → Read α)
    (set : α → σ → σ) : Member σ :=
  ⟨name, required, fun bs => (read bs).map fun (a, r) => (set a, r)⟩

/-! ### The record -/

variable {σ : Type}

/-- A field is missing that must not be. -/
def incomplete (fields : List (Member σ)) (seen : List String) : Bool :=
  fields.any fun f => f.required && !seen.contains f.name

/-- A comma, or the bracket that ends the object. -/
def memberEnd (bs : Bytes) : Read Bool :=
  match skipBlank bs with
  | [] => .error .truncated
  | b :: r =>
    if b = code ',' then .ok (true, r)
    else if b = code '\x7d' then .ok (false, r)
    else .error .malformed

/-- The colon behind a name. -/
def colon (bs : Bytes) : Except Fault Bytes :=
  match skipBlank bs with
  | [] => .error .truncated
  | b :: r => if b = code ':' then .ok r else .error .malformed

/-- The name of a member. -/
def memberName (bs : Bytes) : Read String :=
  match skipBlank bs with
  | [] => .error .truncated
  | b :: r => if b = code '"' then string r else .error .malformed

/-- The rest of one member behind its name: a field is set, unless it has been set before; anything
else is passed over. -/
def memberValue (fields : List (Member σ)) (seen : List String) (name : String) (s : σ) (bs : Bytes) :
    Except Fault (List String × σ × Bytes) :=
  match fields.find? fun f => f.name = name with
  | some f =>
    if seen.contains name then .error .mismatch
    else match colon bs with
      | .error e => .error e
      | .ok r => (f.read r).map fun (set, r) => (name :: seen, set s, r)
  | none =>
    match colon bs with
    | .error e => .error e
    | .ok r => (skipValue r).map fun r => (seen, s, r)

/-- The members of an object that has some. `fuel` bounds their number. -/
def readFields (fields : List (Member σ)) : Nat → List String → σ → Bytes → Read (List String × σ)
  | 0, _, _, _ => .error .truncated
  | fuel + 1, seen, s, bs =>
    match memberName bs with
    | .error e => .error e
    | .ok (name, r) =>
      match memberValue fields seen name s r with
      | .error e => .error e
      | .ok (seen, s, r) =>
        match memberEnd r with
        | .error e => .error e
        | .ok (true, r) => readFields fields fuel seen s r
        | .ok (false, r) => .ok ((seen, s), r)

/-- The record of an object whose bracket has been read. -/
def readObject (fields : List (Member σ)) (start : σ) (bs : Bytes) : Read σ :=
  let members : Read (List String × σ) :=
    match skipBlank bs with
    | [] => .error .truncated
    | b :: r => if b = code '\x7d' then .ok (([], start), r) else readFields fields bs.length [] start bs
  match members with
  | .error e => .error e
  | .ok ((seen, s), r) => if incomplete fields seen then .error .mismatch else .ok (s, r)

/-- What stands before an element: whether there is one. -/
def elementStart (first : Bool) (bs : Bytes) : Read Bool :=
  match skipBlank bs with
  | [] => .error .truncated
  | b :: r =>
    if b = code ']' then .ok (false, b :: r)
    else if first then .ok (true, b :: r)
    else if b ≠ code ',' then .error .malformed
    else match skipBlank r with
      | [] => .error .truncated
      | c :: r => if c = code ']' then .error .malformed else .ok (true, c :: r)

/-- The fields of a list, one after the other. -/
def readElements (first : Bool) (s : σ) : List (Member σ) → Bytes → Read σ
  | [], bs => .ok (s, bs)
  | f :: fs, bs =>
    match elementStart first bs with
    | .error e => .error e
    | .ok (false, r) => if f.required then .error .mismatch else readElements first s fs r
    | .ok (true, r) =>
      match f.read r with
      | .error e => .error e
      | .ok (set, r) => readElements false (set s) fs r

/-- Nothing may follow the last field. -/
def listEnd (bs : Bytes) : Except Fault Bytes :=
  match skipBlank bs with
  | [] => .error .truncated
  | b :: r => if b = code ']' then .ok r else .error .malformed

def readList (fields : List (Member σ)) (start : σ) (bs : Bytes) : Read σ :=
  match readElements true start fields bs with
  | .error e => .error e
  | .ok (s, r) => (listEnd r).map fun r => (s, r)

def readRecord (fields : List (Member σ)) (start : σ) : Bytes → Read σ :=
  fromFirst fun b r =>
    if b = code '[' then readList fields start r
    else if b = code '\x7b' then readObject fields start r
    else refuse b r

/-- A text that is one record and nothing more. -/
def parseRecord (fields : List (Member σ)) (start : σ) (text : Bytes) : Except Fault σ :=
  match readRecord fields start text with
  | .error e => .error e
  | .ok (s, r) => if (skipBlank r).isEmpty then .ok s else .error .malformed

end Entitlement.Json
