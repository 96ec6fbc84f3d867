import HiveTable.Yaml.Token

/-! The nodes of a document: texts and collections. The collections are numbered as they
start, and a reference is the node that it names; so a collection may be a part of itself. -/
namespace HiveTable.Yaml

inductive Node
  | scalar (s : Scalar)
  | collection (number : Nat)

inductive Collection
  | sequence (items : List Node)
  | mapping (entries : List (Node × Node))

structure Graph where
  root : Node
  collections : Array Collection
  /-- The numbers of the collections in the order in which these end. -/
  ended : List Nat

namespace Node

/-- What stands where a node is left out. -/
def empty : Node := .scalar (.plain "")

/-- How many collections may be nested. -/
def maxDepth : Nat := 485

/-- The tokens that are left and the fault behind them, the nodes that have a name, and the
collections so far; `depth` counts those that have not ended. -/
structure Rest where
  tokens : List Token
  fault : Fault
  named : List (String × Node) := []
  collections : Array Collection := #[]
  ended : List Nat := []
  depth : Nat := 0

abbrev Reader (α : Type) := StateT Rest (Except Fault) α

def peek : Reader Token := do
  match (← get).tokens with
  | t :: _ => return t
  | [] => throw (← get).fault

def advance : Reader Unit := modify fun r => { r with tokens := r.tokens.tail }

/-- Takes a token if it comes next. -/
def accept (t : Token) : Reader Bool := do
  if (← peek) == t then
    advance
    return true
  else return false

def expect (t : Token) : Reader Unit := do
  if !(← accept t) then throw .malformed

/-- A node may be left out before any of these tokens. -/
def orEmpty (ends : List Token) (node : Reader Node) : Reader Node := do
  if ends.contains (← peek) then return empty else node

/-- Gives a node its name, if it has one. -/
def bind (name : Option String) (node : Node) : Reader Node := do
  match name with
  | some name => modify fun r => { r with named := (name, node) :: r.named }
  | none => pure ()
  return node

/-- A new collection. It has its name already while its parts are read. -/
def collect (name : Option String) (parts : Reader Collection) : Reader Node := do
  let number := (← get).collections.size
  if (← get).depth ≥ maxDepth then throw .tooDeep
  modify fun r =>
    { r with collections := r.collections.push (.sequence []), depth := r.depth + 1 }
  let node ← bind name (.collection number)
  let c ← parts
  modify fun r =>
    { r with
      collections := r.collections.setIfInBounds number c
      ended := number :: r.ended, depth := r.depth - 1 }
  return node

mutual
/-- One node. A name is given once in a document. -/
def node (inBlock unindented : Bool) : Nat → Reader Node
  | 0 => throw .malformed
  | fuel + 1 => do
    match ← peek with
    | .reference name =>
      advance
      match (← get).named.lookup name with
      | some n => return n
      | none => throw .malformed
    | .anchor name =>
      advance
      let _ ← peek
      if ((← get).named.lookup name).isSome then throw .malformed
      content inBlock unindented (some name) fuel
    | _ => content inBlock unindented none fuel

/-- Block collections stand in block context only, and a sequence without indentation only as
a part of a block mapping. -/
def content (inBlock unindented : Bool) (name : Option String) : Nat → Reader Node
  | 0 => throw .malformed
  | fuel + 1 => do
    let omitted : Reader Node := if name.isSome then bind name empty else throw .malformed
    match ← peek with
    | .scalar s =>
      advance
      bind name (.scalar s)
    | .flowSequence => collect name do
        advance
        return .sequence (← flowItems true fuel)
    | .flowMapping => collect name do
        advance
        return .mapping (← flowEntries true fuel)
    | .blockEntry =>
      if unindented then collect name do return .sequence (← items true fuel) else omitted
    | .blockSequence =>
      if inBlock then
        collect name do
          advance
          let items ← items false fuel
          expect .blockEnd
          return .sequence items
      else omitted
    | .blockMapping =>
      if inBlock then
        collect name do
          advance
          let entries ← entries fuel
          expect .blockEnd
          return .mapping entries
      else omitted
    | _ => omitted

/-- The items of a block sequence, each after a dash. -/
def items (unindented : Bool) : Nat → Reader (List Node)
  | 0 => throw .malformed
  | fuel + 1 => do
    if ← accept .blockEntry then
      let ends := if unindented then [.blockEntry, .key, .value, .blockEnd]
        else [.blockEntry, .blockEnd]
      let item ← orEmpty ends (node true false fuel)
      return item :: (← items unindented fuel)
    else return []

/-- The entries of a block mapping. -/
def entries : Nat → Reader (List (Node × Node))
  | 0 => throw .malformed
  | fuel + 1 => do
    if ← accept .key then
      let ends := [.key, .value, .blockEnd]
      let k ← orEmpty ends (node true true fuel)
      let v ←
        if ← accept .value then orEmpty ends (node true true fuel) else pure empty
      return (k, v) :: (← entries fuel)
    else return []

/-- The items of a flow sequence. A key among them makes a mapping of one entry. -/
def flowItems (first : Bool) : Nat → Reader (List Node)
  | 0 => throw .malformed
  | fuel + 1 => do
    if ← accept .flowSequenceEnd then return []
    if !first then expect .flowEntry
    if ← accept .key then
      let item ← collect none do
        let k ← orEmpty [.value, .flowEntry, .flowSequenceEnd] (node false false fuel)
        let v ←
          if ← accept .value then
            orEmpty [.flowEntry, .flowSequenceEnd] (node false false fuel)
          else pure empty
        return .mapping [(k, v)]
      return item :: (← flowItems false fuel)
    else if ← accept .flowSequenceEnd then return []
    else
      let item ← node false false fuel
      return item :: (← flowItems false fuel)

/-- The entries of a flow mapping. A node that is no key has no value. -/
def flowEntries (first : Bool) : Nat → Reader (List (Node × Node))
  | 0 => throw .malformed
  | fuel + 1 => do
    if ← accept .flowMappingEnd then return []
    if !first then expect .flowEntry
    if ← accept .key then
      let k ← orEmpty [.value, .flowEntry, .flowMappingEnd] (node false false fuel)
      let v ←
        if ← accept .value then
          orEmpty [.flowEntry, .flowMappingEnd] (node false false fuel)
        else pure empty
      return (k, v) :: (← flowEntries false fuel)
    else if ← accept .flowMappingEnd then return []
    else
      let k ← node false false fuel
      return (k, empty) :: (← flowEntries false fuel)
end

/-- The directives before a document: one version at most, and of the first major, and no
handle of tags twice. -/
def directives : Nat → Bool → List String → Reader Unit
  | 0, _, _ => throw .malformed
  | fuel + 1, versioned, handles => do
    match ← peek with
    | .version major =>
      if versioned || major != 1 then throw .malformed
      advance
      directives fuel true handles
    | .tagHandle handle =>
      if handles.contains handle then throw .malformed
      advance
      directives fuel versioned (handle :: handles)
    | .directive =>
      advance
      directives fuel versioned handles
    | _ => return ()

def skipDocumentEnds : Nat → Reader Unit
  | 0 => throw .malformed
  | fuel + 1 => do
    if ← accept .documentEnd then skipDocumentEnds fuel else return ()

def isDirective : Token → Bool
  | .version _ | .tagHandle _ | .directive => true
  | _ => false

/-- The root of the only document of a text, none if there is nothing. A second document is
read up to its start and refused. -/
def root (fuel : Nat) : Reader (Option Node) := do
  let t ← peek
  if t == .streamEnd then return none
  let root ←
    if isDirective t || t == .documentStart then do
      directives fuel false []
      expect .documentStart
      let t ← peek
      if isDirective t || t == .documentStart || t == .documentEnd || t == .streamEnd then
        pure empty
      else node true false fuel
    else node true false fuel
  skipDocumentEnds fuel
  if (← peek) != .streamEnd then
    directives fuel false []
    throw .malformed
  return some root

end Node

/-- The nodes of the tokens before a fault, which counts only if it is reached. No node is
nested deeper than tokens allow. -/
def Graph.ofTokens (tokens : List Token) (fault : Fault) : Except Fault (Option Graph) := do
  let (root, r) ← (Node.root (4 * tokens.length + 4)).run { tokens, fault }
  return root.map fun root => ⟨root, r.collections, r.ended.reverse⟩

end HiveTable.Yaml
