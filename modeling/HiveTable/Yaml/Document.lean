import HiveTable.Value.Entries
import HiveTable.Yaml.Node
import HiveTable.Yaml.Plain

/-! Documents as values. The contents of each collection are made first, with the collections
among its parts left as places; then the places are filled. -/
namespace HiveTable.Yaml

namespace Node

def isPlain (s : String) : Node → Bool
  | .scalar (.plain t) => s == t
  | _ => false

def isMerge (n : Node) : Bool := n.isPlain "<<"

end Node

namespace Graph

def collection (g : Graph) (n : Nat) : Collection := g.collections.getD n (.sequence [])

def isMapping (g : Graph) (n : Nat) : Bool :=
  match g.collection n with
  | .mapping _ => true
  | .sequence _ => false

/-- The entries of a mapping. Those that a merge brings in go first: the entries of a mapping,
or of each mapping in a sequence, the last first. Inside the mappings `around` no merge starts
again. -/
def entries (g : Graph) : Nat → List Nat → Nat → Except Fault (List (Node × Node))
  | 0, _, _ => .error .malformed
  | fuel + 1, around, n => do
    let .mapping all := g.collection n | throw .malformed
    let own := all.filter fun e => !e.1.isMerge
    if around.contains n then return own
    let brought ← (all.filter fun e => e.1.isMerge).mapM fun e => do
      let .collection m := e.2 | throw .malformed
      match g.collection m with
      | .mapping _ => g.entries fuel (n :: around) m
      | .sequence items =>
        let parts ← items.mapM fun
          | .collection i => g.entries fuel (n :: around) i
          | .scalar .. => .error .malformed
        return parts.reverse.flatten
    return brought.flatten ++ own

/-- The value of a text, or the place of a collection. -/
def leaf (g : Graph) : Node → Except Fault Value
  | .scalar (.plain s) => plainValue s
  | .scalar (.exact t) => .ok (.text t)
  | .collection n => .ok (.enclosing n (g.isMapping n))

/-- An equals sign as a key is a text. -/
def key (g : Graph) (k : Node) : Except Fault Value := do
  if k.isPlain "=" then return .text "="
  let v ← g.leaf k
  if v.isKey then return v else throw .malformed

/-- What a collection holds. A key may still come more than once. -/
def contents (g : Graph) (n : Nat) : Except Fault Value :=
  match g.collection n with
  | .sequence items => (items.mapM g.leaf).map .list
  | .mapping _ => do
    let entries ← g.entries (g.collections.size + 1) [] n
    return .mapping (← entries.mapM fun e => do return (← g.key e.1, ← g.leaf e.2))

end Graph

/-! ## Places -/

def place? : Value → Option Nat
  | .enclosing n _ => some n
  | _ => none

/-- The collections among the parts of a collection. -/
def places : Value → List Nat
  | .list items => items.filterMap place?
  | .mapping entries => entries.filterMap fun e => place? e.2
  | _ => []

def addNew (found : Array Nat) (ns : List Nat) : Array Nat :=
  ns.foldl (fun found n => if found.contains n then found else found.push n) found

/-- All that can be reached from what is found, in the order in which it is found. Those before
position `i` have been followed. -/
def reach (next : Nat → List Nat) : Nat → Nat → Array Nat → Array Nat
  | 0, _, found => found
  | fuel + 1, i, found =>
    match found[i]? with
    | some n => reach next fuel (i + 1) (addNew found (next n))
    | none => found

/-- Changes the parts of a collection. Of entries with one key one stays. -/
def mapParts (f : Value → Value) : Value → Value
  | .list items => .list (items.map f)
  | .mapping entries => .mapping (Entries.ofPairs (entries.map fun e => (e.1, f e.2)))
  | v => v

/-- Collections as they are known by number: what they hold, whether they hold themselves, and
the value of those that do not. -/
structure Known where
  contents : Array Value
  loops : Array Bool
  values : Array Value

/-- Fills a place inside the collections `around`. -/
def Known.fill (k : Known) : Nat → List Nat → Value → Value
  | fuel + 1, around, .enclosing n isMapping =>
    if around.contains n then .enclosing n isMapping
    else if k.loops.getD n false then
      .anchored n (mapParts (k.fill fuel (n :: around)) (k.contents.getD n .null))
    else k.values.getD n .null
  | _, _, v => v

/-- The value of a collection that does not hold itself, once the values of its parts are
known. Such a collection ends after all its parts. -/
def Known.add (k : Known) (n : Nat) : Known :=
  if k.loops.getD n false then k
  else
    let v := mapParts (k.fill (k.contents.size + 1) []) (k.contents.getD n .null)
    { k with values := k.values.setIfInBounds n v }

/-- Of several faults that counts which comes first as collections are found. -/
def Graph.value (g : Graph) : Except Fault Value := do
  let size := g.collections.size
  let all := (Array.range size).map g.contents
  let contents := all.map fun c => c.toOption.getD .null
  let next (n : Nat) : List Nat := places (contents.getD n .null)
  let reached (ns : List Nat) : Array Nat := reach next (size + 1) 0 (addNew #[] ns)
  let root ← g.leaf g.root
  (reached (place? root).toList).forM fun n => do
    let _ ← all.getD n (.ok .null)
  let loops := (Array.range size).map fun n => (reached (next n)).contains n
  let known := g.ended.foldl Known.add ⟨contents, loops, Array.replicate size .null⟩
  return known.fill (size + 1) [] root

/-- The value of the document that characters make up, null if there is none. -/
def parse (s : List Char) : Except Fault Value := do
  let (tokens, fault) := tokens s
  match ← Graph.ofTokens tokens fault with
  | some g => g.value
  | none => return .null

/-- The value of the document in a text. -/
def load (s : String) : Except Fault Value := parse s.toList

end HiveTable.Yaml
