import Entitlement.Text.Quoted

/-!
What an application says about one call of its own when it asks how much that call consumes: the
name of the operation and its arguments, each of which keeps its type.
-/

namespace Entitlement

inductive Argument
  | u64 (n : UInt64)
  | i64 (n : Int64)
  | bool (b : Bool)
  | text (s : String)
  | u64s (ns : List UInt64)
  deriving DecidableEq, Repr, Inhabited

namespace Argument

/-! An argument is read only as the type it has. -/

def asU64? : Argument → Option UInt64
  | u64 n => some n
  | _ => none

def asI64? : Argument → Option Int64
  | i64 n => some n
  | _ => none

def asBool? : Argument → Option Bool
  | bool b => some b
  | _ => none

def asText? : Argument → Option String
  | text s => some s
  | _ => none

def asU64s? : Argument → Option (List UInt64)
  | u64s ns => some ns
  | _ => none

end Argument

structure CallContext where
  operation : String := ""
  args : List Argument := []
  deriving DecidableEq, Repr, Inhabited

namespace CallContext

/-- Nothing is known of the call. -/
def empty : CallContext := {}

def size (c : CallContext) : Nat := c.args.length

def isEmpty (c : CallContext) : Bool := c.args.isEmpty

def arg? (c : CallContext) (i : Nat) : Option Argument := c.args[i]?

def shown (c : CallContext) : String :=
  Text.shown "CallContext" [("operation", Text.quoted c.operation), ("args", toString c.size)]

end CallContext

end Entitlement
