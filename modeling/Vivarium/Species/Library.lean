import Vivarium.Folder.Basic
import Vivarium.Journal
import Vivarium.Species.Bundled
import Vivarium.Species.Reader

/-!
# Finding and loading a species

A species is asked for by a path. A file there is read; otherwise the last name of the path, with
or without the ending `.txt`, is looked for among the bundled species.
-/

namespace Vivarium.Species

def bundledDirectory : String := "<bundled>"

inductive Home where
  /-- At a path of the folder. -/
  | own (path : Path)
  /-- Among the bundled species, with its text. -/
  | bundled (fileName text : String)
  /-- Above the bundled species. -/
  | aboveBundled
deriving Repr

def Home.text : Home → String
  | own path => path.text
  | bundled fileName _ => bundledDirectory ++ "/" ++ fileName
  | aboveBundled => bundledDirectory ++ "/.."

/-- The bundled species with a file name. A name that is too long cannot be asked for. -/
def bundledFile? (fileName : String) : Except Fault (Option Home) :=
  if fileName.toList.contains (Char.ofNat 0) then .ok none
  else if Folder.nameLimit < fileName.utf8ByteSize then
    .error (.longName (bundledDirectory ++ "/" ++ fileName))
  else
    .ok (bundled.findSome? fun (name, text) =>
      if name ++ ".txt" = fileName then some (.bundled fileName text) else none)

def locate (folder : Folder) (asked : String) : Except Fault Home := do
  let path := Path.ofText asked
  if ← folder.holds path then return .own path
  else if path.name = ".." then return .aboveBundled
  else
    match ← bundledFile? path.name with
    | some home => return home
    | none =>
      match ← bundledFile? (path.name ++ ".txt") with
      | some home => return home
      | none => throw (.speciesNotFound asked)

def Home.read (folder : Folder) : Home → Except Fault (List Char)
  | own path => folder.readText path
  | bundled _ text => .ok text.toList
  | aboveBundled => .error (.isDirectory (bundledDirectory ++ "/.."))

def load (folder : Folder) (asked : String) : Except Fault (Species × Home) := do
  let home ← locate folder asked
  let text ← home.read folder
  match read (some home.text) text with
  | .ok species => return (species, home)
  | .error fault => .error (.program fault)

def loaded (species : Species) (home : Home) : List Journal.Entry :=
  [⟨.info, .species,
      s!"Loaded species {species.name} ({species.color}) with {species.program.size} " ++
        s!"instructions from {home.text}"⟩,
    ⟨.debug, .species, s!"Program for {species.name}:\n{species.program.text}"⟩]

def bundledNames : List String := bundled.map (·.1)

end Vivarium.Species
