/-!
# Nodes of a document

A document is a graph of scalars, sequences and mappings, in which a node is known by its place
among the nodes: an alias makes a node stand in several places, and a node may be inside itself.
The tag of a node says what is made of it.
-/

namespace Vivarium.Document

/-! ## Tags -/

inductive Tag where
  | null
  | bool
  | int
  | float
  | timestamp
  | text
  | binary
  | list
  | map
  | set
  /-- A list of pairs, each written as a mapping of one entry. -/
  | pairs
  /-- The mark of a key under which other mappings are merged in. -/
  | merge
  /-- The mark of the key whose value a mapping stands for. -/
  | equals
  /-- Nothing is known to be made of it. -/
  | unknown
deriving DecidableEq, Repr

/-- The start of the names of the format's own tags. -/
def ownTag (name : String) : String := "tag:yaml.org,2002:" ++ name

/-- The format's own tags by their names. -/
def ownTags : List (String × Tag) :=
  [("null", .null), ("bool", .bool), ("int", .int), ("float", .float), ("timestamp", .timestamp),
    ("str", .text), ("binary", .binary), ("seq", .list), ("map", .map), ("set", .set),
    ("omap", .pairs), ("pairs", .pairs), ("merge", .merge), ("value", .equals)]

def Tag.ofName (name : String) : Tag :=
  ((ownTags.find? fun entry => ownTag entry.1 = name).map (·.2)).getD .unknown

/-! ## Nodes -/

/-- What a node holds; other nodes by their places. -/
inductive Node.Content where
  | scalar (text : String)
  | sequence (items : List Nat)
  | mapping (entries : List (Nat × Nat))
deriving Inhabited, DecidableEq, Repr

structure Node where
  tag : Tag
  content : Node.Content
deriving DecidableEq, Repr

instance : Inhabited Node := ⟨⟨.null, .scalar ""⟩⟩

/-- A document: its nodes and the place of the one that holds the others. -/
structure Graph where
  nodes : Array Node
  root : Nat

end Vivarium.Document
