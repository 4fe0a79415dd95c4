/-!
# Paths

A path is a list of names, from the root or from the working folder. Repeated and closing slashes
and the name `.` carry no meaning and are dropped; the name `..` is kept.
-/

namespace Vivarium

/-- A path: what it starts at, written as slashes, and its names. -/
structure Path where
  anchor : String
  names : List String
deriving DecidableEq, Repr

namespace Path

/-- The pieces of a text between slashes. -/
def pieces : List Char → List (List Char)
  | [] => [[]]
  | '/' :: cs => [] :: pieces cs
  | c :: cs =>
    match pieces cs with
    | [] => [[c]]
    | p :: ps => (c :: p) :: ps

/-- What a path starts at: the root for a slash, and for exactly two slashes a root of its own. -/
def anchorOf : List Char → String
  | '/' :: '/' :: '/' :: _ => "/"
  | '/' :: '/' :: _ => "//"
  | '/' :: _ => "/"
  | _ => ""

def ofText (s : String) : Path :=
  let names := (pieces s.toList).map String.ofList
  ⟨anchorOf s.toList, names.filter fun name => name ≠ "" ∧ name ≠ "."⟩

/-- The text of a path; the working folder itself is a point. -/
def text (p : Path) : String :=
  if p.anchor = "" ∧ p.names = [] then "." else p.anchor ++ "/".intercalate p.names

def name (p : Path) : String := p.names.getLast?.getD ""

end Path

end Vivarium
