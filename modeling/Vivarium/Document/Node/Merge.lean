import Vivarium.Document.Node.Basic
import Vivarium.Fault

/-!
# Merged mappings

Under a merge key of a mapping stands another mapping, or a list of mappings, whose entries are put
in front of its own. A merged mapping is first freed of its own merge keys, and its tag does not
count. In a list an earlier mapping counts more, so its entries come later.

The key whose value a mapping stands for is an ordinary text in a mapping that is made whole.
-/

namespace Vivarium.Document

abbrev Nodes := Array Node

namespace Nodes

def node (nodes : Nodes) (place : Nat) : Node := nodes[place]?.getD default

def tagAt (nodes : Nodes) (place : Nat) : Tag := (nodes.node place).tag

/-- The entries of the node at a place, if it is a mapping. -/
def entriesAt? (nodes : Nodes) (place : Nat) : Option (List (Nat × Nat)) :=
  match (nodes.node place).content with
  | .mapping entries => some entries
  | _ => none

def entriesAt (nodes : Nodes) (place : Nat) : List (Nat × Nat) := (nodes.entriesAt? place).getD []

def setEntries (nodes : Nodes) (place : Nat) (entries : List (Nat × Nat)) : Nodes :=
  nodes.modify place fun node => { node with content := .mapping entries }

/-- The nodes with one of them a text, if its tag was the mark of the key whose value a mapping
stands for. -/
def settleKey (nodes : Nodes) (place : Nat) : Nodes :=
  nodes.modify place fun node => if node.tag = .equals then { node with tag := .text } else node

/-- The mappings that a node under a merge key stands for, the one that counts least first. -/
def sources (nodes : Nodes) (place : Nat) : Except Fault (List Nat) :=
  match (nodes.node place).content with
  | .mapping _ => .ok [place]
  | .sequence items =>
    if items.all fun item => (nodes.entriesAt? item).isSome then .ok items.reverse
    else .error .badDocument
  | .scalar _ => .error .badDocument

/-- The number of merge keys. -/
def mergeCount (nodes : Nodes) : Nat :=
  (nodes.toList.map fun node =>
    match node.content with
    | .mapping entries => (entries.filter fun entry => nodes.tagAt entry.1 = .merge).length
    | _ => 0).foldr (· + ·) 0

def itemCount (nodes : Nodes) : Nat :=
  (nodes.toList.map fun node =>
    match node.content with
    | .sequence items => items.length
    | _ => 0).foldr (· + ·) 0

/-- A bound on the steps of a merge: on the way into merged mappings each merge key is met once, and
for each there may be the items of a list. -/
def mergeBound (nodes : Nodes) : Nat := (nodes.mergeCount + 2) * (nodes.itemCount + 4)

mutual

/-- Frees a mapping of its merge keys. The number of steps is bounded by that of merge keys, for
each is taken away before what stands under it is looked at. -/
def merge : Nat → Nat → Nodes → Except Fault Nodes
  | 0, _, _ => .error .badDocument
  | fuel + 1, place, nodes => do
    let entries := nodes.entriesAt place
    let own := entries.filter fun entry => nodes.tagAt entry.1 ≠ .merge
    let under := (entries.filter fun entry => nodes.tagAt entry.1 = .merge).map (·.2)
    let bare := own.foldl (fun nodes entry => nodes.settleKey entry.1) (nodes.setEntries place own)
    let (merged, after) ← mergeUnder fuel under bare
    return after.setEntries place (merged ++ after.entriesAt place)

/-- The entries that nodes under merge keys give, with those mappings freed of theirs. -/
def mergeUnder : Nat → List Nat → Nodes → Except Fault (List (Nat × Nat) × Nodes)
  | _, [], nodes => .ok ([], nodes)
  | 0, _ :: _, _ => .error .badDocument
  | fuel + 1, place :: rest, nodes => do
    let (here, after) ← mergeSources fuel (← nodes.sources place) nodes
    let (more, last) ← mergeUnder fuel rest after
    return (here ++ more, last)

/-- The entries of mappings, which are freed of their merge keys. -/
def mergeSources : Nat → List Nat → Nodes → Except Fault (List (Nat × Nat) × Nodes)
  | _, [], nodes => .ok ([], nodes)
  | 0, _ :: _, _ => .error .badDocument
  | fuel + 1, place :: rest, nodes => do
    let after ← merge fuel place nodes
    let (more, last) ← mergeSources fuel rest after
    return (after.entriesAt place ++ more, last)

end

end Nodes

end Vivarium.Document
