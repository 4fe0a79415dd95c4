import Vivarium.Document.Meaning
import Vivarium.Folder.Basic
import Vivarium.Settings.Overrides
import Vivarium.Settings.Reader

/-!
# Settings from a file

A settings file is a document whose value is the map of settings; a document without content gives
the usual settings. What stands in a document is for its reader to say.
-/

namespace Vivarium.Settings

abbrev DocumentReader := List Char → Except Fault Value

def ofText (text : List Char) (read : DocumentReader := Document.read) : Except Fault Settings := do
  let value ← read text
  ofValue (if value.isEmpty then .map [] else value)

def load (folder : Folder) (path : Path) (read : DocumentReader := Document.read) :
    Except Fault Settings := do
  ofText (← folder.readText path) read

/-- The settings of a run: those of its file, if it has one, with the given values replaced. -/
def build (folder : Folder) (file : Option Path) (overrides : Overrides)
    (read : DocumentReader := Document.read) : Except Fault Settings := do
  let base ←
    match file with
    | some path => load folder path read
    | none => pure unpaused
  override overrides base

end Vivarium.Settings
