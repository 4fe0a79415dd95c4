import Vivarium.Fault
import Vivarium.Folder.Path
import Vivarium.Text.Lines

/-!
# Folders

A folder is a finite tree of files in which a run works: it reads texts from it and writes texts to
it. Of what lies outside the folder, the folders around it and the root are known to be there.
-/

namespace Vivarium

/-- What a place is counted from: the folder so many levels above that of the run, or the root. -/
inductive Location.Origin where
  | above (levels : Nat)
  | root
deriving DecidableEq, Repr

/-- A place in the tree: an origin, and the names from there. -/
structure Location where
  origin : Location.Origin
  names : List String
deriving DecidableEq, Repr

namespace Location

def here : Location := ⟨.above 0, []⟩

/-- The place one level up; above the root is the root. -/
def parent (l : Location) : Location :=
  if l.names.isEmpty then
    match l.origin with
    | .above levels => ⟨.above (levels + 1), []⟩
    | .root => l
  else ⟨l.origin, l.names.dropLast⟩

def child (l : Location) (name : String) : Location :=
  if name = ".." then l.parent else ⟨l.origin, l.names ++ [name]⟩

def start (p : Path) : Location := if p.anchor = "" then here else ⟨.root, []⟩

end Location

inductive Content where
  | file (bytes : ByteArray)
  | directory

/-- The files and the empty directories of a tree, by their places. -/
structure Folder where
  entries : List (Location × Content)

namespace Folder

/-- The folder without files. -/
def empty : Folder := ⟨[]⟩

/-- What is at a place. A place above another one is a directory. -/
def content? (f : Folder) (l : Location) : Option Content :=
  if l.names.isEmpty then some .directory
  else
    match f.entries.find? fun entry => entry.1 = l with
    | some entry => some entry.2
    | none =>
      if f.entries.any fun entry =>
          entry.1.origin = l.origin ∧ l.names.isPrefixOf entry.1.names then
        some .directory
      else none

def put (f : Folder) (l : Location) (content : Content) : Folder :=
  ⟨(l, content) :: f.entries.filter fun entry => entry.1 ≠ l⟩

/-! ## Following a path -/

/-- Why there is nothing at the end of a path. -/
inductive Missing where
  /-- A name on the way is not there. -/
  | absent
  /-- A name on the way is a file. -/
  | throughFile
  /-- A name on the way is too long, or the path is. -/
  | tooLong
  /-- The path holds the character zero, which ends every path. -/
  | cut
deriving DecidableEq, Repr

def nameLimit : Nat := 255

def pathLimit : Nat := 4096

/-- The place that names lead to from a place, through directories. The last name need not be
there. -/
def follow (f : Folder) (l : Location) : List String → Except Missing Location
  | [] => .ok l
  | name :: rest =>
    match f.content? l with
    | none => .error .absent
    | some (.file _) => .error .throughFile
    | some .directory =>
      if nameLimit < name.utf8ByteSize then .error .tooLong else follow f (l.child name) rest

def locate (f : Folder) (p : Path) : Except Missing Location :=
  if p.text.toList.contains (Char.ofNat 0) then .error .cut
  else if pathLimit ≤ p.text.utf8ByteSize then .error .tooLong
  else f.follow (.start p) p.names

def find (f : Folder) (p : Path) : Except Missing Content :=
  match f.locate p with
  | .error missing => .error missing
  | .ok l => (f.content? l).elim (.error .absent) .ok

/-- The fault of a path that leads nowhere. -/
def Missing.fault (p : Path) : Missing → Fault
  | absent => .fileNotFound p.text
  | throughFile => .notDirectory p.text
  | tooLong => .longName p.text
  | cut => .zeroInPath

/-- Whether there is something at the end of a path. One that is too long cannot be asked for. -/
def holds (f : Folder) (p : Path) : Except Fault Bool :=
  match f.find p with
  | .ok _ => .ok true
  | .error .tooLong => .error (.longName p.text)
  | .error _ => .ok false

/-! ## Reading and writing -/

def decode (bytes : ByteArray) : Except Fault (List Char) :=
  match String.fromUTF8? bytes with
  | some s => .ok s.toList
  | none => .error .notText

def readText (f : Folder) (p : Path) : Except Fault (List Char) :=
  match f.find p with
  | .error missing => .error (missing.fault p)
  | .ok .directory => .error (.isDirectory p.text)
  | .ok (.file bytes) => (decode bytes).map Text.unifyBreaks

def writeText (f : Folder) (p : Path) (text : String) : Except Fault Folder :=
  match f.locate p with
  | .error missing => .error (missing.fault p)
  | .ok l =>
    match f.content? l with
    | some .directory => .error (.isDirectory p.text)
    | _ => .ok (f.put l (.file text.toUTF8))

end Folder

end Vivarium
