import PathGlob.Decimal.Natural

namespace PathGlob

/-- The values of a match. -/
structure Captures where
  candidate : Text
  groups : List Text
  deriving DecidableEq, Repr

namespace Captures

def items (c : Captures) : List Text :=
  c.candidate :: c.groups

def size (c : Captures) : Nat :=
  c.items.length

def get? (c : Captures) (i : Nat) : Option Text :=
  c.items[i]?

def toList (c : Captures) : List Text :=
  c.items.map id

/-- All values under the names of their positions. -/
def toMap (c : Captures) : List (Text × Text) :=
  c.items.mapIdx fun i t => (Decimal.text i, t)

theorem size_eq (c : Captures) : c.size = c.groups.length + 1 := rfl

@[simp] theorem get?_zero (c : Captures) : c.get? 0 = some c.candidate := rfl

@[simp] theorem get?_succ (c : Captures) (i : Nat) : c.get? (i + 1) = c.groups[i]? := rfl

theorem toList_eq (c : Captures) : c.toList = c.items :=
  List.map_id c.items

@[simp] theorem length_toMap (c : Captures) : c.toMap.length = c.size := by
  simp [toMap, size]

end Captures

end PathGlob
