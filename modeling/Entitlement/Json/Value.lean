import Entitlement.Json.Number

/-!
A whole JSON text as a value, for settings files. Nesting is limited, a repeated name keeps its last
value, and nothing but blanks may follow the value.
-/

namespace Entitlement.Json

inductive Value
  | null
  | bool (b : Bool)
  | number (n : Number)
  | text (s : String)
  | list (vs : List Value)
  | object (members : List (String × Value))

/-- The elements of a list whose bracket has been read, and which has some. -/
def readItems (element : Bytes → Read Value) : Nat → Bytes → Read (List Value)
  | 0, _ => .error .truncated
  | fuel + 1, bs =>
    match element bs with
    | .error f => .error f
    | .ok (v, r) =>
      match skipBlank r with
      | [] => .error .truncated
      | b :: r =>
        if b = code ',' then (readItems element fuel r).map fun (vs, r) => (v :: vs, r)
        else if b = code ']' then .ok ([v], r)
        else .error .malformed

/-- A name and its colon. -/
def readName (bs : Bytes) : Read String :=
  match skipBlank bs with
  | [] => .error .truncated
  | b :: r =>
    if b ≠ code '"' then .error .malformed
    else match string r with
      | .error f => .error f
      | .ok (name, r) =>
        match skipBlank r with
        | [] => .error .truncated
        | c :: r => if c = code ':' then .ok (name, r) else .error .malformed

def readMembers (element : Bytes → Read Value) : Nat → Bytes → Read (List (String × Value))
  | 0, _ => .error .truncated
  | fuel + 1, bs =>
    match readName bs with
    | .error f => .error f
    | .ok (name, r) =>
      match element r with
      | .error f => .error f
      | .ok (v, r) =>
        match skipBlank r with
        | [] => .error .truncated
        | b :: r =>
          if b = code ',' then (readMembers element fuel r).map fun (ms, r) => ((name, v) :: ms, r)
          else if b = code '\x7d' then .ok ([(name, v)], r)
          else .error .malformed

/-- A value within which at most `depth` brackets are open at once. -/
def readValue : Nat → Bytes → Read Value
  | depth, bs =>
    match skipBlank bs with
    | [] => .error .truncated
    | b :: r =>
      if b = code 'n' then (expect [code 'u', code 'l', code 'l'] r).map fun r => (.null, r)
      else if b = code 't' then (expect [code 'r', code 'u', code 'e'] r).map fun r => (.bool true, r)
      else if b = code 'f' then
        (expect [code 'a', code 'l', code 's', code 'e'] r).map fun r => (.bool false, r)
      else if b = code '-' then (number true r).map fun (n, r) => (.number n, r)
      else if isDigit b then (number false (b :: r)).map fun (n, r) => (.number n, r)
      else if b = code '"' then (string r).map fun (s, r) => (.text s, r)
      else if b = code '[' then
        match depth with
        | 0 => .error .malformed
        | depth + 1 =>
          match skipBlank r with
          | [] => .error .truncated
          | c :: r' =>
            if c = code ']' then .ok (.list [], r')
            else (readItems (readValue depth) r.length r).map fun (vs, r) => (.list vs, r)
      else if b = code '\x7b' then
        match depth with
        | 0 => .error .malformed
        | depth + 1 =>
          match skipBlank r with
          | [] => .error .truncated
          | c :: r' =>
            if c = code '\x7d' then .ok (.object [], r')
            else (readMembers (readValue depth) r.length r).map fun (ms, r) => (.object ms, r)
      else .error .malformed

def maxDepth : Nat := 127

def parse (text : Bytes) : Except Fault Value :=
  match readValue maxDepth text with
  | .error f => .error f
  | .ok (v, r) => if (skipBlank r).isEmpty then .ok v else .error .malformed

end Entitlement.Json
