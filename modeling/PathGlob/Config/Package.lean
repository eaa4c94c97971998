import PathGlob.Config.Overlay
import PathGlob.Config.Source

namespace PathGlob.Config

def itemOf (key : Text) (i : Nat) : Text :=
  key ++ '[' :: Decimal.text i ++ [']']

/-- A text as a number: a word for yes or no, or decimal digits that fit into 64 bits. -/
def unsignedOfText? (t : Text) : Option Nat :=
  let lower := String.ofList (t.map Char.toLower)
  if lower ∈ ["true", "on", "yes"] then some 1
  else if lower ∈ ["false", "off", "no"] then some 0
  else (Decimal.natural? t).filter (· < Nat.pow 2 64)

namespace Value

/-- A value as a number without sign. Fractions are rounded, halves away from zero, and floats out
of range give the nearest number. -/
def toUnsigned (key : Text) (v : Value) : Except ConfigError Nat :=
  let bad (expected : String) := Except.error (ConfigError.mistyped v expected key)
  match v with
  | .scalar _ (.bool b) => .ok (if b then 1 else 0)
  | .scalar _ (.signed n) =>
    if n < 0 then bad "an unsigned 64 bit or less integer" else .ok n.toNat
  | .scalar _ (.unsigned n) => .ok n
  | .scalar _ (.float x) => .ok x.round.toUInt64.toNat
  | .scalar _ (.text t) =>
    match unsignedOfText? t with
    | some n => .ok n
    | none => bad "an integer"
  | _ => bad "an integer"

def toText (key : Text) (v : Value) : Except ConfigError Text :=
  match v with
  | .scalar _ (.text t) => .ok t
  | .scalar _ (.bool b) => .ok (toString b).toList
  | .scalar _ (.signed n) => .ok (toString n).toList
  | .scalar _ (.unsigned n) => .ok (toString n).toList
  | .scalar _ (.float x) => .ok (Decimal.floatText x)
  | _ => .error (.mistyped v "a string" key)

/-- The items of an array as texts, the first at a given index. -/
def textsFrom (key : Text) : Nat → List Value → Except ConfigError (List Text)
  | _, [] => .ok []
  | i, v :: rest => do
    let t ← toText (itemOf key i) v
    let ts ← textsFrom key (i + 1) rest
    return t :: ts

def toTexts (key : Text) (v : Value) : Except ConfigError (List Text) :=
  match v with
  | .array _ items => textsFrom key 0 items
  | _ => .error (.misplaced s!"invalid type: {v.plainNoun}, expected a sequence" key)

end Value

/-- What settings are loaded with. Conversions are told the key of a value for their messages. -/
structure Package where
  /-- The entries of a text in a format. -/
  readText : Format → Text → Except ConfigError Fields
  /-- The entries of the file that a path stands for. -/
  readFile : Files → Text → Except ConfigError Fields
  /-- A value put over an older one. -/
  overlay : Value → Value → Value
  /-- The entries of a source put over a configuration. -/
  overlayEntries : Value → Fields → Value
  toUnsigned : Text → Value → Except ConfigError Nat
  toTexts : Text → Value → Except ConfigError (List Text)

namespace Package

def layered (p : Package) (sources : List Fields) : Value :=
  sources.foldl p.overlayEntries empty

def standard : Package where
  readText := entriesOf none
  readFile := Config.readFile
  overlay := Value.overlay
  overlayEntries := overlayFile
  toUnsigned := Value.toUnsigned
  toTexts := Value.toTexts

end Package

end PathGlob.Config
