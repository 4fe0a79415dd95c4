import Vivarium.Folder.Basic
import Vivarium.Journal
import Vivarium.Options.Reader
import Vivarium.Settings.Overrides

/-!
# How a command ends

A command leaves a code, what it wrote to its two outputs, the pauses it made and the folder. A
fault that is not expected leaves no code.
-/

namespace Vivarium.Options

/-- How a command ended. -/
structure Finish where
  code : Option Nat
  raised : Option Fault := none
  output : String := ""
  complaints : String := ""
  sleeps : List Value := []
  folder : Folder

/-- The end of a command whose words were not all read. -/
def Finish.ofReading (c : Command) (folder : Folder) : Outcome → Option Finish
  | .given _ => none
  | .helpAsked => some { code := some 0, output := c.help, folder := folder }
  | .misused message => some { code := some 2, complaints := c.complaint message, folder := folder }

/-- The complaint of a command that is given no species. -/
def noSpecies : String := "at least one species file is required"

namespace Arguments

def value? (a : Arguments) (name : String) : Option Value := a.values.get? name

def path? (a : Arguments) (name : String) : Option Path :=
  match a.value? name with
  | some (.text s) => some (Path.ofText s)
  | _ => none

/-- Whether an option that stands alone was given. -/
def has (a : Arguments) (name : String) : Bool := (a.value? name).isSome

def overrides (a : Arguments) : Settings.Overrides where
  speciesFiles := a.words
  rounds := a.value? "--rounds"
  seed := a.value? "--seed"
  width := a.value? "--width"
  height := a.value? "--height"
  count := a.value? "--count"
  turnLimit := a.value? "--max-steps"
  pause := a.value? "--pause"

end Arguments

end Vivarium.Options
