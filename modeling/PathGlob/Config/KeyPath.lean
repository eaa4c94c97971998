import PathGlob.Config.Value
import PathGlob.Decimal.Natural

/-!
# Key paths

A key such as `a.b[2].c[-1]` leads through tables and arrays to one place. `KeyPath.parse?` reads
one, and `Value.update` changes the value at its place, making room on the way: what is neither a
table nor an array where one is needed gives way to an empty one, and an array grows by nulls.
-/

namespace PathGlob.Config

/-- One step into a value. -/
inductive Step where
  | key (name : Text)
  | index (i : Int)
  deriving DecidableEq, Repr

/-- A key of the root table and the steps from its value. -/
structure KeyPath where
  root : Text
  steps : List Step
  deriving DecidableEq, Repr

namespace KeyPath

def isIdentifier (c : Char) : Bool :=
  c.isAlphanum || c == '_' || c == '-'

def maxIndex : Nat :=
  Nat.pow 2 63 - 1

def index? (t : Text) : Option (Int × Text) :=
  let t := t.dropWhile fun c => c == ' ' || c == '\t'
  let (negative, t) := match t with
    | '-' :: rest => (true, rest)
    | _ => (false, t)
  let digits := t.takeWhile Char.isDigit
  let n := Decimal.number digits
  if digits.isEmpty || n > maxIndex + (if negative then 1 else 0) then none
  else
    match (t.dropWhile Char.isDigit).dropWhile fun c => c == ' ' || c == '\t' with
    | ']' :: rest => some (if negative then -n else n, rest)
    | _ => none

/-- Reads the steps behind the root key; `fuel` bounds their number. -/
def steps? : Nat → Text → Option (List Step)
  | _, [] => some []
  | 0, _ => none
  | fuel + 1, '.' :: t =>
    let name := t.takeWhile isIdentifier
    if name.isEmpty then none
    else (steps? fuel (t.dropWhile isIdentifier)).map (.key name :: ·)
  | fuel + 1, '[' :: t => do
    let (i, rest) ← index? t
    (steps? fuel rest).map (.index i :: ·)
  | _, _ => none

def parse? (t : Text) : Option KeyPath :=
  let root := t.takeWhile isIdentifier
  if root.isEmpty then none
  else (steps? t.length (t.dropWhile isIdentifier)).map (⟨root, ·⟩)

/-- The path that an entry of a file is put under: what its key reads as, or the key as it is. -/
def ofKey (key : Text) : KeyPath :=
  (parse? key).getD ⟨key, []⟩

end KeyPath

namespace Value

def fields : Value → Fields
  | .table _ fields => fields
  | _ => []

/-- A value as a table: anything else gives way to an empty table. -/
def asTable : Value → Value
  | .table o fields => .table o fields
  | _ => .table none []

/-- A table with the value under a key changed. An absent key holds null. -/
def updateKey (key : Text) (f : Value → Value) (v : Value) : Value :=
  let v := v.asTable
  .table v.origin? (v.fields.set key (f ((v.fields.get? key).getD null)))

/-- An array with the item at an index changed. An index past the end grows the array; a negative
index counts from the end, and one before the start grows it at the front. -/
def updateIndex (i : Int) (f : Value → Value) (v : Value) : Value :=
  let (o, items) := match v with
    | .array o items => (o, items)
    | _ => (none, [])
  match i with
  | .ofNat n =>
    let grown := items ++ List.replicate (n + 1 - items.length) null
    .array o (grown.modify n f)
  | .negSucc n =>
    let missing := n + 1 - items.length
    let grown := List.replicate missing null ++ items
    .array o (grown.modify (items.length - (n + 1)) f)

def update (f : Value → Value) : List Step → Value → Value
  | [], v => f v
  | .key name :: steps, v => updateKey name (update f steps) v
  | .index i :: steps, v => updateIndex i (update f steps) v

end Value

end PathGlob.Config
