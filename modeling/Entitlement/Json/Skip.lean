import Entitlement.Json.Number

/-!
Passing over a value without building it, however deep it is nested. All that is kept is the list of
brackets that are open.
-/

namespace Entitlement.Json

inductive Bracket
  | list
  | object
  deriving DecidableEq, Repr

/-- What must come next. -/
inductive Place
  | value
  | name
  /-- A value has ended. -/
  | after
  deriving DecidableEq, Repr

/-- A value that is no list and no object, given its first byte. -/
def skipScalar (b : UInt8) (r : Bytes) : Except Fault Bytes :=
  if b = code 'n' then expect [code 'u', code 'l', code 'l'] r
  else if b = code 't' then expect [code 'r', code 'u', code 'e'] r
  else if b = code 'f' then expect [code 'a', code 'l', code 's', code 'e'] r
  else if b = code '-' then skipNumber true r
  else if isDigit b then skipNumber false (b :: r)
  else if b = code '"' then skipString r.length r
  else .error .malformed

/-- A name and its colon. -/
def skipName (bs : Bytes) : Except Fault Bytes :=
  match skipBlank bs with
  | [] => .error .truncated
  | b :: r =>
    if b ≠ code '"' then .error .malformed
    else match skipString r.length r with
      | .error f => .error f
      | .ok r =>
        match skipBlank r with
        | [] => .error .truncated
        | c :: r => if c = code ':' then .ok r else .error .malformed

/-- Walks on inside the brackets `opened`; every step but the last takes a byte at least. -/
def skipFrom : Nat → Place → List Bracket → Bytes → Except Fault Bytes
  | 0, _, _, _ => .error .truncated
  | fuel + 1, .value, opened, bs =>
    match skipBlank bs with
    | [] => .error .truncated
    | b :: r =>
      if b = code '[' then
        match skipBlank r with
        | [] => .error .truncated
        | c :: r' =>
          if c = code ']' then skipFrom fuel .after opened r'
          else skipFrom fuel .value (.list :: opened) r
      else if b = code '\x7b' then
        match skipBlank r with
        | [] => .error .truncated
        | c :: r' =>
          if c = code '\x7d' then skipFrom fuel .after opened r'
          else skipFrom fuel .name (.object :: opened) r
      else
        match skipScalar b r with
        | .error f => .error f
        | .ok r => skipFrom fuel .after opened r
  | fuel + 1, .name, opened, bs =>
    match skipName bs with
    | .error f => .error f
    | .ok r => skipFrom fuel .value opened r
  | _ + 1, .after, [], bs => .ok bs
  | fuel + 1, .after, bracket :: outer, bs =>
    match skipBlank bs with
    | [] => .error .truncated
    | b :: r =>
      match bracket with
      | .list =>
        if b = code ',' then skipFrom fuel .value (.list :: outer) r
        else if b = code ']' then skipFrom fuel .after outer r
        else .error .malformed
      | .object =>
        if b = code ',' then skipFrom fuel .name (.object :: outer) r
        else if b = code '\x7d' then skipFrom fuel .after outer r
        else .error .malformed

def skipValue (bs : Bytes) : Except Fault Bytes := skipFrom (bs.length + 2) .value [] bs

end Entitlement.Json
