import Vivarium.Document.Scalar
import Vivarium.Document.Token.Stream

/-!
# Nodes from tokens

Reading the tokens of a text as one document. Anchors name nodes, aliases repeat them; an anchor is
given once, and an alias follows it, perhaps inside the node itself. Every function takes a bound on
its further calls, which the number of tokens gives, and those for nodes also how deep the node is.
-/

namespace Vivarium.Document.Node

structure Reading where
  supply : Token.Supply
  nodes : Array Node
  anchors : List (String × Nat)
  handles : List (String × String)

abbrev Step := StateT Reading (Except Fault)

/-- The step that ends the reading of a document that is not well formed. -/
def malformed {α : Type} : Step α := throw .badDocument

/-- The next token. Past the last one the text ends, or has a fault. -/
def peek : Step Token := do
  let supply := (← get).supply
  match supply.tokens, supply.fault with
  | token :: _, _ => return token
  | [], some fault => throw fault
  | [], none => return .streamEnd

def pass : Step Unit :=
  modify fun s => { s with supply := { s.supply with tokens := s.supply.tokens.tail } }

/-- Passes the next token, which must be the given one. -/
def expect (t : Token) : Step Unit := do
  if (← peek) = t then pass else malformed

/-! ## Nodes that were read -/

/-- Adds a node; the result is its place. -/
def add (node : Node) : Step Nat := do
  let place := (← get).nodes.size
  modify fun s => { s with nodes := s.nodes.push node }
  return place

/-- Replaces what a node holds. -/
def setContent (place : Nat) (content : Content) : Step Unit :=
  modify fun s =>
    { s with nodes := s.nodes.modify place fun node => { node with content := content } }

/-- Adds what stands where a node is left out. -/
def addMissing : Step Nat := add ⟨.null, .scalar ""⟩

def depthLimit : Nat := 488

/-! ## Properties -/

def usualHandles : List (String × String) := [("!", "!"), ("!!", "tag:yaml.org,2002:")]

/-- The tag that a tag token stands for. -/
def tagOf (handle : Option String) (suffix : String) : Step String := do
  match handle with
  | none => return suffix
  | some name =>
    match (← get).handles.lookup name with
    | some start => return start ++ suffix
    | none => malformed

/-- The tag at the reader, if there is one. -/
def readTag : Step (Option String) := do
  match ← peek with
  | .tag handle suffix => do
    pass
    return some (← tagOf handle suffix)
  | _ => return none

/-- The anchor at the reader, if there is one. -/
def readAnchor : Step (Option String) := do
  match ← peek with
  | .anchor name => do
    pass
    return some name
  | _ => return none

/-- The anchor and the tag at the reader, in either order. -/
def properties : Step (Option String × Option String) := do
  match ← readAnchor with
  | some name => return (some name, ← readTag)
  | none =>
    let tag ← readTag
    return (← readAnchor, tag)

def checkAnchor (anchor : Option String) : Step Unit := do
  match anchor with
  | none => return
  | some name => if ((← get).anchors.lookup name).isSome then malformed

def remember (anchor : Option String) (place : Nat) : Step Unit :=
  match anchor with
  | none => return
  | some name => modify fun s => { s with anchors := (name, place) :: s.anchors }

/-- The mark of a node whose tag is left to be found, whatever quotes it has. -/
def openTag : String := "!"

/-- The tag of a list or a map, which is the usual one if none is written. -/
def collectionTag (written : Option String) (usual : Tag) : Tag :=
  match written with
  | none => usual
  | some name => if name = openTag then usual else .ofName name

/-- The tag of a scalar: the one that is written, or what its text looks like if it is without
quotes or its tag is left open. -/
def scalarTag (written : Option String) (text : String) (isPlain : Bool) : Tag :=
  match written with
  | none => if isPlain then Scalar.tagOf text else .text
  | some name => if name = openTag then Scalar.tagOf text else .ofName name

def addScalar (properties : Option String × Option String) (text : String) (isPlain : Bool) :
    Step Nat := do
  let place ← add ⟨scalarTag properties.2 text isPlain, .scalar text⟩
  remember properties.1 place
  return place

/-- Adds a list or a map whose content is still to be read. -/
def addCollection (properties : Option String × Option String) (usual : Tag) : Step Nat := do
  let place ← add ⟨collectionTag properties.2 usual, .sequence []⟩
  remember properties.1 place
  return place

/-- Adds a node left out after its properties, of which there must be one. -/
def addLeftOut (properties : Option String × Option String) : Step Nat :=
  if properties.1.isSome || properties.2.isSome then addScalar properties "" true else malformed

/-! ## Nodes -/

/-- Where a node stands: which of the forms that indentation shows may come. -/
inductive Place where
  /-- Inside brackets. -/
  | flow
  /-- In a block. -/
  | block
  /-- In a block where a list may come without further indentation. -/
  | indentless
deriving DecidableEq

mutual

/-- A node at a depth. The result of this and what follows are places of nodes. -/
def node (place : Place) (depth : Nat) : Nat → Step Nat
  | 0 => malformed
  | fuel + 1 => do
    if depth > depthLimit then throw (.tooDeep "")
    match ← peek with
    | .alias name => do
      pass
      match (← get).anchors.lookup name with
      | some found => return found
      | none => malformed
    | _ => do
      let read ← properties
      discard peek
      checkAnchor read.1
      filled place depth read fuel
termination_by structural fuel => fuel

/-- The content of a node after its properties; it may be left out after some. -/
def filled (place : Place) (depth : Nat) (read : Option String × Option String) : Nat → Step Nat
  | 0 => malformed
  | fuel + 1 => do
    match ← peek with
    | .scalar text plain => do
      pass
      addScalar read text plain
    | .flowSequenceStart => do
      pass
      let whole ← addCollection read .list
      setContent whole (.sequence (← flowItems (depth + 1) true fuel))
      return whole
    | .flowMappingStart => do
      pass
      let whole ← addCollection read .map
      setContent whole (.mapping (← flowEntries (depth + 1) true fuel))
      return whole
    | .blockSequenceStart =>
      if place = .flow then addLeftOut read
      else do
        pass
        let whole ← addCollection read .list
        setContent whole (.sequence (← blockItems (depth + 1) fuel))
        expect .blockEnd
        return whole
    | .blockMappingStart =>
      if place = .flow then addLeftOut read
      else do
        pass
        let whole ← addCollection read .map
        setContent whole (.mapping (← blockEntries (depth + 1) fuel))
        expect .blockEnd
        return whole
    | .blockEntry =>
      if place = .indentless then do
        let whole ← addCollection read .list
        setContent whole (.sequence (← indentlessItems (depth + 1) fuel))
        return whole
      else addLeftOut read
    | _ => addLeftOut read
termination_by structural fuel => fuel

/-- A node, or nothing before one of the given tokens. -/
def nodeUnless (place : Place) (depth : Nat) (enders : List Token) : Nat → Step Nat
  | 0 => malformed
  | fuel + 1 => do
    if (← peek) ∈ enders then addMissing else node place depth fuel
termination_by structural fuel => fuel

/-- The items of a list over several lines. -/
def blockItems (depth : Nat) : Nat → Step (List Nat)
  | 0 => malformed
  | fuel + 1 => do
    if (← peek) = .blockEntry then
      pass
      let item ← nodeUnless .block depth [.blockEntry, .blockEnd] fuel
      return item :: (← blockItems depth fuel)
    else return []
termination_by structural fuel => fuel

/-- The items of a list that is not indented further than the map around it. -/
def indentlessItems (depth : Nat) : Nat → Step (List Nat)
  | 0 => malformed
  | fuel + 1 => do
    if (← peek) = .blockEntry then
      pass
      let item ← nodeUnless .block depth [.blockEntry, .key, .value, .blockEnd] fuel
      return item :: (← indentlessItems depth fuel)
    else return []
termination_by structural fuel => fuel

/-- The entries of a map over several lines. -/
def blockEntries (depth : Nat) : Nat → Step (List (Nat × Nat))
  | 0 => malformed
  | fuel + 1 => do
    if (← peek) = .key then
      pass
      let key ← nodeUnless .indentless depth [.key, .value, .blockEnd] fuel
      let value ← valueUnless .indentless depth [.key, .value, .blockEnd] fuel
      return (key, value) :: (← blockEntries depth fuel)
    else return []
termination_by structural fuel => fuel

/-- The node after a colon, or nothing without a colon. -/
def valueUnless (place : Place) (depth : Nat) (enders : List Token) : Nat → Step Nat
  | 0 => malformed
  | fuel + 1 => do
    if (← peek) = .value then
      pass
      nodeUnless place depth enders fuel
    else addMissing
termination_by structural fuel => fuel

/-- The items of a list between brackets, up to the closing one. An item may be a map of one
entry. -/
def flowItems (depth : Nat) (first : Bool) : Nat → Step (List Nat)
  | 0 => malformed
  | fuel + 1 => do
    if (← peek) = .flowSequenceEnd then
      pass
      return []
    if !first then expect .flowEntry
    match ← peek with
    | .key => do
      pass
      let whole ← addCollection (none, none) .map
      let key ← nodeUnless .flow (depth + 1) [.value, .flowEntry, .flowSequenceEnd] fuel
      let value ← valueUnless .flow (depth + 1) [.flowEntry, .flowSequenceEnd] fuel
      setContent whole (.mapping [(key, value)])
      return whole :: (← flowItems depth false fuel)
    | .flowSequenceEnd => do
      pass
      return []
    | _ => do
      let item ← node .flow depth fuel
      return item :: (← flowItems depth false fuel)
termination_by structural fuel => fuel

/-- The entries of a map between braces, up to the closing one. An entry may be a key alone. -/
def flowEntries (depth : Nat) (first : Bool) : Nat → Step (List (Nat × Nat))
  | 0 => malformed
  | fuel + 1 => do
    if (← peek) = .flowMappingEnd then
      pass
      return []
    if !first then expect .flowEntry
    match ← peek with
    | .key => do
      pass
      let key ← nodeUnless .flow depth [.value, .flowEntry, .flowMappingEnd] fuel
      let value ← valueUnless .flow depth [.flowEntry, .flowMappingEnd] fuel
      return (key, value) :: (← flowEntries depth false fuel)
    | .flowMappingEnd => do
      pass
      return []
    | _ => do
      let key ← node .flow depth fuel
      let value ← addMissing
      return (key, value) :: (← flowEntries depth false fuel)
termination_by structural fuel => fuel

end

/-! ## Documents -/

/-- Reads the directives before a document: at most one version, which must be 1, and each handle at
most once. -/
def directives (versioned : Bool) (handles : List (String × String)) :
    Nat → Step (List (String × String))
  | 0 => malformed
  | fuel + 1 => do
    match ← peek with
    | .version major _ => do
      if versioned || major ≠ 1 then malformed
      pass
      directives true handles fuel
    | .handle name start => do
      if (handles.lookup name).isSome then malformed
      pass
      directives versioned ((name, start) :: handles) fuel
    | .reserved => do
      pass
      directives versioned handles fuel
    | _ => return handles

def passEnds : Nat → Step Unit
  | 0 => malformed
  | fuel + 1 => do
    if (← peek) = .documentEnd then
      pass
      passEnds fuel

/-- The one document of a text, by the place of its outermost node; none if the text has no
document. -/
def document (fuel : Nat) : Step (Option Nat) := do
  let first ← peek
  if first = .streamEnd then return none
  let root ←
    if first = .documentStart || first.isDirective then do
      let given ← directives false [] fuel
      modify fun s => { s with handles := given ++ usualHandles }
      expect .documentStart
      let next ← peek
      if next.isDirective || next ∈ [.documentStart, .documentEnd, .streamEnd] then addMissing
      else node .block 0 fuel
    else node .block 0 fuel
  passEnds fuel
  expect .streamEnd
  return some root

/-- The document of the tokens of a text; none if the text has no document. -/
def ofSupply (supply : Token.Supply) : Except Fault (Option Graph) := do
  let start : Reading := ⟨supply, #[], [], usualHandles⟩
  let (root, last) ← (document (4 * supply.tokens.length + 8)).run start
  return root.map fun root => ⟨last.nodes, root⟩

end Vivarium.Document.Node
