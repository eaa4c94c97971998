import PathGlob.Config.Yaml.Layout
import PathGlob.Config.Yaml.Node
import PathGlob.Config.Yaml.Token

namespace PathGlob.Config.Yaml

/-- What is left of the tokens, what the directives of a document declare, and what its names stand
for. A name belongs to a number, and a number to a node once the node has ended. -/
structure Stream where
  tokens : List Token
  leads : List (Text × Text)
  anchors : List (Text × Nat)
  nodes : List (Nat × Node)

abbrev Parse := StateT Stream Option

/-- What may precede a node: a number for it, and a tag. -/
structure Properties where
  anchor : Option Nat
  tag : Option Tag

namespace Parse

def peek : Parse (Option Token) :=
  return (← get).tokens.head?

def drop : Parse Unit :=
  modify fun s => { s with tokens := s.tokens.drop 1 }

def accept (t : Token) : Parse Bool := do
  if (← peek) == some t then
    drop
    return true
  else return false

def nextIn (ts : List Token) : Parse Bool :=
  return (← peek).any ts.contains

/-! ### Properties -/

/-- The tag that a handle and what follows it stand for. A handle with two marks has to be declared,
unless it is that of the core tags. -/
def tagOf (handle suffix : Text) : Parse Tag := do
  match (← get).leads.find? (·.1 == handle) with
  | some (_, lead) => return ⟨lead, suffix⟩
  | none =>
    if handle == ['!', '!'] then return ⟨coreLead, suffix⟩
    if isNamedHandle handle then failure
    return ⟨handle, suffix⟩

def register (name : Text) : Parse Nat := do
  let s ← get
  let n := s.anchors.length
  set { s with anchors := (name, n) :: s.anchors }
  return n

def anchor? : Parse (Option Nat) := do
  match ← peek with
  | some (.anchor name) =>
    drop
    return some (← register name)
  | _ => return none

def tag? : Parse (Option Tag) := do
  match ← peek with
  | some (.tag handle suffix) =>
    drop
    return some (← tagOf handle suffix)
  | _ => return none

def properties : Parse Properties := do
  match ← anchor? with
  | some n => return ⟨some n, ← tag?⟩
  | none =>
    let tag ← tag?
    return ⟨← if tag.isSome then anchor? else pure none, tag⟩

def named (ps : Properties) (n : Node) : Parse Node := do
  match ps.anchor with
  | some k => modify fun s => { s with nodes := (k, n) :: s.nodes }
  | none => pure ()
  return n

def referenced (name : Text) : Parse Node := do
  let s ← get
  match s.anchors.find? (·.1 == name) with
  | some (_, k) => return ((s.nodes.find? (·.1 == k)).map (·.2)).getD .ill
  | none => failure

/-! ### Nodes -/

mutual

/-- Reads a node. `block` holds where a collection may be laid out by indentation, and `loose` where
a sequence may stand at the column of what contains it. -/
def node (block loose : Bool) : Nat → Parse Node
  | 0 => failure
  | fuel + 1 => do
    if let some (.reference name) ← peek then
      drop
      return ← referenced name
    let ps ← properties
    match ← peek, block, loose with
    | some (.scalar plain t), _, _ =>
      drop
      named ps (if plain then resolvePlain ps.tag t else .text t)
    | some .sequenceStart, _, _ =>
      drop
      named ps (.sequence (← flowItems true fuel))
    | some .mappingStart, _, _ =>
      drop
      named ps (← StateT.lift (mapping? (← flowMembers true fuel)))
    | some .blockSequence, true, _ =>
      drop
      named ps (.sequence (← blockItems fuel))
    | some .blockMapping, true, _ =>
      drop
      named ps (← StateT.lift (mapping? (← blockMembers fuel)))
    | some .entry, _, true => named ps (.sequence (← looseItems fuel))
    | _, _, _ =>
      if ps.anchor.isNone && ps.tag.isNone then failure
      named ps (resolvePlain ps.tag [])

/-- Reads a node, unless what has to follow it is next. -/
def nodeBefore (stops : List Token) (block loose : Bool) : Nat → Parse Node
  | 0 => failure
  | fuel + 1 => do
    if ← nextIn stops then return .null
    node block loose fuel

def blockItems : Nat → Parse (List Node)
  | 0 => failure
  | fuel + 1 => do
    if ← accept .blockEnd then return []
    if !(← accept .entry) then failure
    let item ← nodeBefore [.entry, .blockEnd] true false fuel
    return item :: (← blockItems fuel)

def looseItems : Nat → Parse (List Node)
  | 0 => failure
  | fuel + 1 => do
    if !(← accept .entry) then return []
    let item ← nodeBefore [.entry, .key, .value, .blockEnd] true false fuel
    return item :: (← looseItems fuel)

/-- Reads keys and values of a mapping up to its end. Either may be absent. -/
def blockMembers : Nat → Parse (List Node)
  | 0 => failure
  | fuel + 1 => do
    if ← accept .blockEnd then return []
    let key ←
      if ← accept .key then nodeBefore [.key, .value, .blockEnd] true true fuel
      else if ← nextIn [.value] then pure .null
      else failure
    let v ←
      if ← accept .value then nodeBefore [.key, .value, .blockEnd] true true fuel
      else pure .null
    return key :: v :: (← blockMembers fuel)

def flowItems (first : Bool) : Nat → Parse (List Node)
  | 0 => failure
  | fuel + 1 => do
    if ← accept .sequenceEnd then return []
    if !first then
      if !(← accept .comma) then failure
    if ← accept .sequenceEnd then return []
    let item ← if ← accept .key then pair fuel else node false false fuel
    return item :: (← flowItems false fuel)

/-- Reads a mapping of one member without braces, behind the mark of its key. What follows an absent
key is not read as a value. -/
def pair : Nat → Parse Node
  | 0 => failure
  | fuel + 1 => do
    let key ←
      if ← nextIn [.value, .comma, .sequenceEnd] then do
        drop
        pure .null
      else node false false fuel
    let v ←
      if ← accept .value then nodeBefore [.comma, .sequenceEnd] false false fuel
      else pure .null
    StateT.lift (mapping? [key, v])

/-- Reads the value of a member between braces, which may be absent. -/
def flowValue : Nat → Parse Node
  | 0 => failure
  | fuel + 1 => do
    if ← accept .value then nodeBefore [.comma, .mappingEnd] false false fuel
    else return .null

/-- Reads keys and values of a mapping up to its closing brace. Either may be absent. -/
def flowMembers (first : Bool) : Nat → Parse (List Node)
  | 0 => failure
  | fuel + 1 => do
    if ← accept .mappingEnd then return []
    if !first then
      if !(← accept .comma) then failure
    if ← accept .mappingEnd then return []
    let marked ← accept .key
    let valued := marked || (← nextIn [.value])
    let stops := if marked then [.value, .comma, .mappingEnd] else [.value]
    let key ← nodeBefore stops false false fuel
    let v ← if valued then flowValue fuel else pure .null
    return key :: v :: (← flowMembers false fuel)

end

/-! ### Documents -/

/-- Reads directives. A version may come once, and of the short forms only one in the last directive
holds. -/
def directives (versioned : Bool) : Nat → Parse Unit
  | 0 => failure
  | fuel + 1 => do
    match ← peek with
    | some .version =>
      if versioned then failure
      modify fun s => { s with leads := [] }
      drop
      directives true fuel
    | some (.shorthand handle lead) =>
      modify fun s => { s with leads := [(handle, lead)] }
      drop
      directives versioned fuel
    | _ => return

def atFrame : Parse Bool := do
  match ← peek with
  | none | some .version | some (.shorthand _ _) | some .documentStart | some .documentEnd =>
    return true
  | _ => return false

def document (fuel : Nat) : Parse (Option Node) := do
  let skipEnds : Parse Unit :=
    modify fun s => { s with tokens := s.tokens.dropWhile (· == .documentEnd) }
  skipEnds
  if (← peek).isNone then return none
  let framed ← atFrame
  if framed then
    directives false fuel
    if !(← accept .documentStart) then failure
  let n ← if framed && (← atFrame) then pure .null else node true false fuel
  skipEnds
  if (← peek).isNone then return some n else failure

end Parse

def document? (ts : List Token) : Option (Option Node) :=
  ((Parse.document (4 * ts.length + 4)).run ⟨ts, [], [], []⟩).map (·.1)

/-- Reads a YAML text, which ends at the first null character. A text without a document is an empty
table. -/
def read? (t : Text) : Option Value := do
  match ← document? (← tokens? (t.takeWhile (· != '\x00'))) with
  | none => return .table none []
  | some n => n.value?

end PathGlob.Config.Yaml
