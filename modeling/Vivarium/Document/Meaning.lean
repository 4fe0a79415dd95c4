import Vivarium.Document.Node.Merge
import Vivarium.Document.Node.Reader

/-!
# The value of a document

A scalar is made at once. A list, a map, a set or a list of pairs is made empty when it is met and
filled later, in the order in which they were met, so that it may hold itself; which of two faults
is told depends on this order. In a map a later entry replaces an earlier one of the same key.
-/

namespace Vivarium.Document

/-! ## Parts -/

/-- A value that was made, or the place of a node that is filled later. -/
inductive Part where
  | value (v : Value)
  | node (place : Nat)

inductive Filling where
  | list (items : List Part)
  | pairs (items : List (Part × Part))
  | set (members : List Value)
  | map (entries : List (Value × Part))

/-- The entries of a map with the part at a key replaced, or with a new entry at the end. -/
def putEntry (key : Value) (part : Part) : List (Value × Part) → List (Value × Part)
  | [] => [(key, part)]
  | entry :: rest =>
    if entry.1.sameKey key then (entry.1, part) :: rest else entry :: putEntry key part rest

/-! ## Making parts -/

/-- The state of making the value of a document. -/
structure Making where
  nodes : Nodes
  /-- A bound on the steps of a merge. -/
  mergeBound : Nat
  /-- The parts that were made, by the places of their nodes. -/
  parts : Array (Option Part)
  /-- What nodes were filled with, by their places. -/
  fillings : Array (Option Filling)
  /-- The nodes to be filled, the last one met first. -/
  waiting : List Nat

abbrev Make := StateT Making (Except Fault)

namespace Make

/-- The text of a node: of a scalar its own, of a mapping that of the key for it. -/
def textAt (nodes : Nodes) : Nat → Nat → Except Fault String
  | 0, _ => .error (.tooDeep "")
  | fuel + 1, place =>
    match (nodes.node place).content with
    | .scalar text => .ok text
    | .sequence _ => .error .badDocument
    | .mapping entries =>
      match entries.find? fun entry => nodes.tagAt entry.1 = .equals with
      | some entry => textAt nodes fuel entry.2
      | none => .error .badDocument

/-- The value of a node that is a time. It must be a scalar itself. -/
def timeAt (nodes : Nodes) (place : Nat) (text : String) : Except Fault Value :=
  match (nodes.node place).content with
  | .scalar _ => Scalar.toTime text.toList
  | _ => .error (.timeNotText (Value.list []).kind)

/-- Whether a node is filled later. -/
def isFilled : Tag → Bool
  | .list => true
  | .map => true
  | .set => true
  | .pairs => true
  | _ => false

/-- The value of a node that is made at once. -/
def valueAt (nodes : Nodes) (place : Nat) : Except Fault Value := do
  let tag := nodes.tagAt place
  if tag ∈ [.merge, .equals, .unknown] then .error .badDocument
  let text ← textAt nodes (nodes.size + 1) place
  match tag with
  | .null => return .null
  | .bool => Scalar.toBool text.toList
  | .int => Scalar.toInt text.toList
  | .float => Scalar.toFloat text.toList
  | .timestamp => timeAt nodes place text
  | .binary => Scalar.toBytes text.toList
  | _ => return .text text

def partAt (place : Nat) : Make Part := do
  let s ← get
  match s.parts[place]?.join with
  | some part => return part
  | none =>
    if isFilled (s.nodes.tagAt place) then
      modify fun s => { s with
        parts := s.parts.setIfInBounds place (some (.node place))
        waiting := place :: s.waiting }
      return .node place
    else
      let value ← valueAt s.nodes place
      modify fun s => { s with parts := s.parts.setIfInBounds place (some (.value value)) }
      return .value value

/-- The value that a node is as a key: one that is filled later is none. -/
def keyAt (place : Nat) : Make Value := do
  match ← partAt place with
  | .value v => return v
  | .node _ => throw .badDocument

/-! ## Filling -/

/-- The entries of a mapping after those before, freed of merge keys. -/
def entriesFrom (before : List (Value × Part)) : List (Nat × Nat) → Make (List (Value × Part))
  | [] => return before
  | (key, value) :: rest => do
    let key ← keyAt key
    let part ← partAt value
    entriesFrom (putEntry key part before) rest

def entriesAt (place : Nat) : Make (List (Value × Part)) := do
  let s ← get
  match s.nodes.entriesAt? place with
  | none => throw .badDocument
  | some _ =>
    let nodes ← s.nodes.merge s.mergeBound place
    set { s with nodes := nodes }
    entriesFrom [] (nodes.entriesAt place)

def pairAt (place : Nat) : Make (Part × Part) := do
  match (← get).nodes.entriesAt? place with
  | some [(key, value)] => return (← partAt key, ← partAt value)
  | _ => throw .badDocument

def itemsAt (place : Nat) : Make (List Nat) := do
  match ((← get).nodes.node place).content with
  | .sequence items => return items
  | _ => throw .badDocument

def fillingAt (place : Nat) : Make Filling := do
  match (← get).nodes.tagAt place with
  | .list => return .list (← (← itemsAt place).mapM partAt)
  | .pairs => return .pairs (← (← itemsAt place).mapM pairAt)
  | .set => return .set ((← entriesAt place).map (·.1))
  | _ => return .map (← entriesAt place)

/-- Fills nodes, in order. -/
def fill : List Nat → Make Unit
  | [] => return
  | place :: rest => do
    let filling ← fillingAt place
    modify fun s => { s with fillings := s.fillings.setIfInBounds place (some filling) }
    fill rest

/-- Fills the nodes that wait, and those that are met in doing so. Each node waits once. -/
def fillAll : Nat → Make Unit
  | 0 => return
  | fuel + 1 => do
    match (← get).waiting with
    | [] => return
    | waiting =>
      modify fun s => { s with waiting := [] }
      fill waiting.reverse
      fillAll fuel

end Make

/-! ## Values of parts -/

abbrev Found := Array (Option Value)

/-- A value with the labels of those that it is inside of and holds. -/
structure Open where
  value : Value
  labels : List Nat

mutual

/-- The value of a part inside the nodes at the given places. A node that holds itself stands under
its place as a label. -/
def valueOf (fillings : Array (Option Filling)) (around : List Nat) :
    Nat → Part → StateM Found Open
  | _, .value v => return ⟨v, []⟩
  | 0, .node place => return ⟨.again place, [place]⟩
  | fuel + 1, .node place => do
    if place ∈ around then return ⟨.again place, [place]⟩
    match (← get)[place]?.join with
    | some v => return ⟨v, []⟩
    | none =>
      let filling := fillings[place]?.join.getD (.list [])
      let whole ← filledValue fillings (place :: around) fuel filling
      let labels := whole.labels.filter (· ≠ place)
      let value := if place ∈ whole.labels then .named place whole.value else whole.value
      if labels.isEmpty then modify fun found => found.setIfInBounds place (some value)
      return ⟨value, labels⟩
termination_by structural fuel => fuel

def filledValue (fillings : Array (Option Filling)) (around : List Nat) :
    Nat → Filling → StateM Found Open
  | 0, _ => return ⟨.null, []⟩
  | _ + 1, .set members => return ⟨.set members, []⟩
  | fuel + 1, .list items => do
    let made ← items.mapM (valueOf fillings around fuel)
    return ⟨.list (made.map (·.value)), made.flatMap (·.labels)⟩
  | fuel + 1, .pairs items => do
    let firsts ← items.mapM fun item => valueOf fillings around fuel item.1
    let seconds ← items.mapM fun item => valueOf fillings around fuel item.2
    let pairs := (firsts.zip seconds).map fun (a, b) => Value.pair a.value b.value
    return ⟨.list pairs, (firsts ++ seconds).flatMap (·.labels)⟩
  | fuel + 1, .map entries => do
    let made ← entries.mapM fun entry => valueOf fillings around fuel entry.2
    let values := (entries.zip made).map fun (entry, part) => (entry.1, part.value)
    return ⟨.map values, made.flatMap (·.labels)⟩
termination_by structural fuel => fuel

end

def Graph.toValue (g : Graph) : Except Fault Value := do
  let size := g.nodes.size
  let start : Making :=
    { nodes := g.nodes, mergeBound := Nodes.mergeBound g.nodes
      parts := Array.replicate size none, fillings := Array.replicate size none, waiting := [] }
  let (root, made) ← (do
    let root ← Make.partAt g.root
    Make.fillAll (size + 1)
    return root : Make Part).run start
  let (whole, _) := (valueOf made.fillings [] (2 * size + 2) root).run (Array.replicate size none)
  return whole.value

/-- The value of a text that is one document; a text without a document is nothing. -/
def read (text : List Char) : Except Fault Value := do
  match ← Node.ofSupply (.ofText text) with
  | none => return .null
  | some graph => graph.toValue

end Vivarium.Document
