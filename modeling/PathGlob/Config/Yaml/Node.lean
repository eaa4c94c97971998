import PathGlob.Config.Scan
import PathGlob.Config.Value
import PathGlob.Decimal.Reading

namespace PathGlob.Config.Yaml

/-- A resolved node. -/
inductive Node where
  | null
  | bool (b : Bool)
  | whole (n : Int)
  /-- A fraction, in the words of the document. -/
  | real (t : Text)
  | text (t : Text)
  /-- A scalar that is not what its tag says. -/
  | ill
  | sequence (items : List Node)
  | mapping (members : List (Node × Node))

def specialReals : List Text :=
  [".inf", ".Inf", ".INF", "+.inf", "+.Inf", "+.INF", "-.inf", "-.Inf", "-.INF",
    ".nan", ".NaN", ".NAN"].map String.toList

def isReal (t : Text) : Bool :=
  specialReals.contains t || (Decimal.float? t).isSome

/-- The number that digits in some base stand for, with a sign and within 64 bits. -/
def based? (base : Nat) (t : Text) : Option Int :=
  let (negative, digits) := Decimal.unsigned t
  if digits.isEmpty || !digits.all (isDigitOf base) then none
  else
    let n := numberOf base digits
    if n < Nat.pow 2 63 then some (if negative then -n else n)
    else if negative && n = Nat.pow 2 63 then some (-n)
    else none

def bool? (t : Text) : Option Bool :=
  if t = "true".toList ∨ t = "True".toList ∨ t = "TRUE".toList then some true
  else if t = "false".toList ∨ t = "False".toList ∨ t = "FALSE".toList then some false
  else none

def resolve (t : Text) : Node :=
  let prefixed := match t with
    | '0' :: 'x' :: rest => based? 16 rest
    | '0' :: 'o' :: rest => based? 8 rest
    | '+' :: rest => Decimal.int64? rest
    | _ => none
  match prefixed with
  | some n => .whole n
  | none =>
    if t = [] ∨ t = ['~'] ∨ t = "null".toList then .null
    else match bool? t, Decimal.int64? t with
      | some b, _ => .bool b
      | none, some n => .whole n
      | none, none => if isReal t then .real t else .text t

/-- A tag in two parts. -/
structure Tag where
  lead : Text
  suffix : Text

/-- The beginning of the tags that a plain scalar is resolved by. -/
def coreLead : Text :=
  "tag:yaml.org,2002:".toList

def resolveTagged (tag : Tag) (t : Text) : Node :=
  if tag.lead ≠ coreLead then .text t
  else if tag.suffix = "bool".toList then (bool? t).elim .ill .bool
  else if tag.suffix = "int".toList then (Decimal.int64? t).elim .ill .whole
  else if tag.suffix = "float".toList then if isReal t then .real t else .ill
  else if tag.suffix = "null".toList then
    if t = ['~'] ∨ t = "null".toList then .null else .ill
  else .text t

def resolvePlain : Option Tag → Text → Node
  | some tag, t => resolveTagged tag t
  | none, t => resolve t

def Node.key? : Node → Option Text
  | .text t => some t
  | .real t => some t
  | .whole n => some (toString n).toList
  | .bool b => some (toString b).toList
  | _ => none

def Node.sameKey : Node → Node → Bool
  | .text s, .text t => s == t
  | .real s, .real t => s == t
  | .whole m, .whole n => m == n
  | .bool a, .bool b => a == b
  | _, _ => false

def distinctKeys : List (Node × Node) → Bool
  | [] => true
  | (k, _) :: rest => rest.all (fun m => !k.sameKey m.1) && distinctKeys rest

/-- The members of a mapping, given a key that has been read and the nodes that follow. A key that
is not what its tag says is passed over, as is one without a value at the end. -/
def members : Option Node → List Node → List (Node × Node)
  | _, [] => []
  | none, .ill :: rest => members none rest
  | none, key :: rest => members (some key) rest
  | some key, n :: rest => (key, n) :: members none rest

/-- The mapping of keys and values that come one after the other. -/
def mapping? (nodes : List Node) : Option Node :=
  let ms := members none nodes
  if distinctKeys ms then some (.mapping ms) else none

mutual

/-- A node as a configuration value, unless a key is no scalar or a fraction is no number. -/
def Node.value? : Node → Option Value
  | .null => some .null
  | .ill => some .null
  | .bool b => some (.scalar none (.bool b))
  | .whole n => some (.scalar none (.signed n))
  | .real t => (Decimal.float? t).map fun x => .scalar none (.float x)
  | .text t => some (.text t)
  | .sequence items => (itemValues? items).map (.array none)
  | .mapping members => (memberValues? members []).map (.table none)

def itemValues? : List Node → Option (List Value)
  | [] => some []
  | n :: rest => do
    let v ← n.value?
    return v :: (← itemValues? rest)

def memberValues? : List (Node × Node) → Fields → Option Fields
  | [], fields => some fields
  | (k, n) :: rest, fields => do
    let key ← k.key?
    let v ← n.value?
    memberValues? rest (fields.set key v)

end

end PathGlob.Config.Yaml
