import PathGlob.Decimal.Shortest
import PathGlob.Text.Quoted

namespace PathGlob.Config

/-- A value without parts. -/
inductive Scalar where
  | null
  | bool (b : Bool)
  | signed (n : Int)
  | unsigned (n : Nat)
  | float (x : Float)
  | text (t : Text)
  deriving Repr

/-- A value with the name of the file that it came from, if it came whole from one file. The keys of
a table are in the order in which they were first set, each once. -/
inductive Value where
  | scalar (origin : Option Text) (s : Scalar)
  | array (origin : Option Text) (items : List Value)
  | table (origin : Option Text) (fields : List (Text × Value))
  deriving Repr

abbrev Fields := List (Text × Value)

namespace Fields

def get? (fields : Fields) (key : Text) : Option Value :=
  (fields.find? (·.1 == key)).map (·.2)

/-- Sets the value under a key; a new key goes to the end. -/
def set (fields : Fields) (key : Text) (v : Value) : Fields :=
  match fields with
  | [] => [(key, v)]
  | (k, old) :: rest => if k = key then (k, v) :: rest else (k, old) :: set rest key v

theorem get?_set (fields : Fields) (key : Text) (v : Value) :
    (fields.set key v).get? key = some v := by
  induction fields with
  | nil => simp [set, get?]
  | cons f rest ih =>
    by_cases h : f.1 = key
    · simp [set, get?, h]
    · simpa [set, get?, h] using ih

theorem get?_set_of_ne (fields : Fields) {key other : Text} (v : Value) (h : other ≠ key) :
    (fields.set key v).get? other = fields.get? other := by
  induction fields with
  | nil => simp [set, get?, h.symm]
  | cons f rest ih =>
    by_cases hk : f.1 = key
    · simp [set, get?, hk, h.symm]
    · by_cases ho : f.1 = other
      · subst ho; simp [set, get?, h]
      · simpa [set, get?, hk, ho] using ih

end Fields

namespace Value

def null : Value :=
  .scalar none .null

def text (t : Text) : Value :=
  .scalar none (.text t)

def origin? : Value → Option Text
  | .scalar o _ => o
  | .array o _ => o
  | .table o _ => o

mutual

/-- A value with a file's name on it and on all its parts. -/
def named (file : Text) : Value → Value
  | .scalar _ s => .scalar (some file) s
  | .array _ items => .array (some file) (namedItems file items)
  | .table _ fields => .table (some file) (namedFields file fields)

def namedItems (file : Text) : List Value → List Value
  | [] => []
  | v :: rest => named file v :: namedItems file rest

def namedFields (file : Text) : List (Text × Value) → List (Text × Value)
  | [] => []
  | (k, v) :: rest => (k, named file v) :: namedFields file rest

end

/-- A value as a message names it where a scalar or a root table was expected. -/
def noun : Value → String
  | .scalar _ .null => "unit value"
  | .scalar _ (.bool b) => s!"boolean `{b}`"
  | .scalar _ (.signed n) => s!"64-bit integer `{n}`"
  | .scalar _ (.unsigned n) => s!"64-bit unsigned integer `{n}`"
  | .scalar _ (.float x) => s!"floating point `{String.ofList (Decimal.floatText x)}`"
  | .scalar _ (.text t) => s!"string {t.quoted}"
  | .array _ _ => "sequence"
  | .table _ _ => "map"

/-- A value as a message names it where a record or a sequence was expected. -/
def plainNoun : Value → String
  | .scalar _ (.signed n) => s!"integer `{n}`"
  | .scalar _ (.unsigned n) => s!"integer `{n}`"
  | .scalar _ (.float x) => s!"floating point `{String.ofList (Decimal.floatTextPointed x)}`"
  | v => v.noun

end Value

end PathGlob.Config
