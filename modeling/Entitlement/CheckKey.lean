/-!
Keys: what an admission is asked for. A check key names a feature, or the product as a whole by a
reserved name; a slot key ties a check key to the instance that holds slots under it.
-/

namespace Entitlement

/-- The name of a feature, or of the product. -/
structure CheckKey where
  text : String
  deriving DecidableEq, Repr, Inhabited

namespace CheckKey

def productText : String := "__product__"

def product : CheckKey := ⟨productText⟩

/-- Any text names a feature, the reserved name included, which then is the product. -/
def feature (text : String) : CheckKey := ⟨text⟩

def isProduct (k : CheckKey) : Bool := k.text == productText

instance : ToString CheckKey := ⟨text⟩

/-- Puts `k` into an ascending list unless it is there. The order of code points is that of the
encoded bytes. -/
def insertSorted (k : CheckKey) : List CheckKey → List CheckKey
  | [] => [k]
  | k' :: r => if k.text < k'.text then k :: k' :: r else if k = k' then k' :: r else k' :: insertSorted k r

/-- Ascending, without repetitions. -/
def sorted (ks : List CheckKey) : List CheckKey := ks.foldr insertSorted []

end CheckKey

/-- A check key as one instance uses it. -/
structure SlotKey where
  identity : String
  key : CheckKey
  deriving DecidableEq, Repr, Inhabited

instance : ToString SlotKey := ⟨fun s => s.identity ++ "::" ++ s.key.text⟩

end Entitlement
