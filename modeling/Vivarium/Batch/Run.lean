import Vivarium.Batch.Command
import Vivarium.Batch.Ledger
import Vivarium.Colony.Population
import Vivarium.Colony.Scoreboard
import Vivarium.Options.Finish
import Vivarium.Settings.File

/-!
# Batch runs

A batch run founds a colony from a command line, plays its rounds, writes the log and the summary
that were asked for, and shows the scoreboard. The log is opened before the first round and holds
the rows of the rounds that were played even if a later one fails.
-/

namespace Vivarium.Batch

open Options

/-- What a batch run is asked to write. -/
structure Request where
  log : Option Path
  summary : Option Path
  deterministic : Bool

/-- What a batch run has left when it ends, well or not. -/
structure Remains where
  folder : Folder
  journal : Array Journal.Entry
  sleeps : Array Value

def remains (folder : Folder) (c : Colony) : Remains := ⟨folder, c.board.journal, c.sleeps⟩

/-- The folder with the log at a path, if one was asked for. -/
def writeLog (folder : Folder) (path : Option Path) (text : String) : Except Fault Folder :=
  match path with
  | some path => folder.writeText path text
  | none => .ok folder

def writeSummary (folder : Folder) (path : Path) (summary : Value) : Except Fault Folder :=
  match Json.fault? summary with
  | some fault => .error fault
  | none => folder.writeText path (Json.indent 0 summary)

/-- Plays the rounds of a colony and writes what was asked for. -/
def perform (folder : Folder) (request : Request) (c : Colony) (clock : Clock := .system) :
    Except Fault Colony × Remains :=
  let ledger := Ledger.start c
  match writeLog folder request.log ledger.log with
  | .error fault => (.error fault, remains folder c)
  | .ok opened =>
    match c.settings.rounds.toCount with
    | .error fault => (.error fault, remains opened c)
    | .ok count =>
      let (result, played, recorded) :=
        play clock c.labels request.deterministic count.toNat 0 c ledger
      let logged := (writeLog opened request.log recorded.log).toOption.getD opened
      match result with
      | .error fault => (.error fault, remains logged played)
      | .ok _ =>
        match request.summary with
        | none => (.ok played, remains logged played)
        | some path =>
          match writeSummary logged path (Batch.summary played recorded) with
          | .error fault => (.error fault, remains logged played)
          | .ok summarised => (.ok played, remains summarised played)

/-- Founds a colony and plays its rounds. -/
def runSettings (folder : Folder) (request : Request) (settings : Settings)
    (clock : Clock := .system) (entropy : Entropy := .still) : Except Fault Colony × Remains :=
  match Colony.create folder settings { entropy := entropy } with
  | (.error fault, journal) => (.error fault, ⟨folder, journal, #[]⟩)
  | (.ok colony, _) => perform folder request colony clock

/-- The end of a run that left something. An expected fault is told in the journal. -/
def finish (least : Journal.Level) (result : Except Fault String) (left : Remains) : Finish :=
  let shown (extra : List Journal.Entry) := Journal.lines least (left.journal.toList ++ extra)
  let sleeps := left.sleeps.toList
  match result with
  | .ok output =>
    { code := some 0, output := output, complaints := shown [], sleeps := sleeps
      folder := left.folder }
  | .error fault =>
    if fault.isExpected then
      { code := some 1, complaints := shown [⟨.error, .batch, fault.message⟩], sleeps := sleeps
        folder := left.folder }
    else
      { code := none, raised := some fault, complaints := shown [], sleeps := sleeps
        folder := left.folder }

def runArguments (folder : Folder) (arguments : Arguments) (clock : Clock) (entropy : Entropy) :
    Finish :=
  let least := if arguments.has "--verbose" then Journal.Level.debug else .info
  match Settings.build folder (arguments.path? "--config") arguments.overrides with
  | .error fault => finish least (.error fault) ⟨folder, #[], #[]⟩
  | .ok settings =>
    if settings.speciesFiles.isEmpty then
      { code := some 2, complaints := command.complaint noSpecies, folder := folder }
    else
      let request : Request :=
        ⟨arguments.path? "--log", arguments.path? "--summary", arguments.has "--deterministic-log"⟩
      match runSettings folder request settings clock entropy with
      | (.error fault, left) => finish least (.error fault) left
      | (.ok colony, left) => finish least (.ok (colony.scoreboard ++ "\n")) left

/-- Runs the command with the words of its command line. -/
def run (folder : Folder) (line : List String) (clock : Clock := .system)
    (entropy : Entropy := .still) : Finish :=
  match Options.read command line with
  | .given arguments => runArguments folder arguments clock entropy
  | outcome => (Finish.ofReading command folder outcome).getD { code := none, folder := folder }

end Vivarium.Batch
