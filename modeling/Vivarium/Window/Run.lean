import Vivarium.Colony.Scoreboard
import Vivarium.Options.Finish
import Vivarium.Settings.File
import Vivarium.Window.Command
import Vivarium.Window.Watch

/-!
# Watched runs

A watched run opens a window for the grid of its settings, founds a colony before it, watches its
rounds and shows the scoreboard. An open window is closed whatever comes of the run.
-/

namespace Vivarium.Window

open Options

/-- What a watched run leaves: what came of it, the journal, and the calls that were made. -/
structure Ending where
  result : Except Fault String
  journal : Array Journal.Entry
  calls : Array Call

/-- The side of a square when none is given. -/
def usualCell : Value := .int 40

/-- Founds and watches a colony through an open window. -/
def watchSettings (folder : Folder) (settings : Settings) (w : Window)
    (entropy : Entropy := .still) : Ending :=
  match Colony.create folder settings { entropy := entropy } with
  | (.error fault, journal) => ⟨.error fault, journal, w.close.calls⟩
  | (.ok colony, _) =>
    let (result, last) := (Watch.start colony w).run settings.rounds settings.pause
    ⟨result.map fun _ => last.colony.scoreboard ++ "\n", last.colony.board.journal,
      last.window.close.calls⟩

/-- Opens a window for settings and watches a colony through it. -/
def runSettings (folder : Folder) (settings : Settings) (cell : Value)
    (events : List (List Event)) (entropy : Entropy := .still) : Ending :=
  match create settings.width settings.height cell true events with
  | (.error fault, made) => ⟨.error fault, #[], made⟩
  | (.ok w, _) => watchSettings folder settings w entropy

/-- The end of a watched run. An expected fault is told in the journal. -/
def finish (folder : Folder) (e : Ending) : Finish × Array Call :=
  let shown (extra : List Journal.Entry) := Journal.lines .info (e.journal.toList ++ extra)
  match e.result with
  | .ok output =>
    ({ code := some 0, output := output, complaints := shown [], folder := folder }, e.calls)
  | .error fault =>
    if fault.isExpected then
      ({ code := some 1, complaints := shown [⟨.error, .window, fault.message⟩], folder := folder },
        e.calls)
    else ({ code := none, raised := some fault, complaints := shown [], folder := folder }, e.calls)

/-- The seconds to wait after a round when none are given. -/
def usualPause : Value := .float (Decimal.nearest false ⟨1, 2⟩)

/-- Runs the command with its arguments. -/
def runArguments (folder : Folder) (events : List (List Event)) (arguments : Arguments)
    (entropy : Entropy) : Finish × Array Call :=
  let overrides := { arguments.overrides with
    pause := some ((arguments.value? "--pause").getD usualPause) }
  let cell := (arguments.value? "--cell-size").getD usualCell
  match Settings.build folder (arguments.path? "--config") overrides with
  | .error fault => finish folder ⟨.error fault, #[], #[]⟩
  | .ok settings =>
    if settings.speciesFiles.isEmpty then
      ({ code := some 2, complaints := command.complaint noSpecies, folder := folder }, #[])
    else finish folder (runSettings folder settings cell events entropy)

/-- Runs the command with the words of its command line. -/
def run (folder : Folder) (events : List (List Event)) (line : List String)
    (entropy : Entropy := .still) : Finish × Array Call :=
  match Options.read command line with
  | .given arguments => runArguments folder events arguments entropy
  | outcome =>
    ((Finish.ofReading command folder outcome).getD { code := none, folder := folder }, #[])

end Vivarium.Window
