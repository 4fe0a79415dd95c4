import Vivarium.Batch.Run

/-!
# The command

The batch command on the files of the system. What a command line and its settings name is looked up
and put into a folder; the run works in it, and what it left there is written back.
-/

namespace Vivarium.Terminal

/-! ## Files -/

def look (path : String) : IO (Option Content) := do
  try
    return some (.file (← IO.FS.readBinFile path))
  catch
    | .inappropriateType .. => return some .directory
    | _ => return none

def starts {α : Type} (items : List α) : List (List α) :=
  (List.range items.length).map fun n => items.take (n + 1)

/-- The folder with what the system has on the way to a path and at its end. -/
def gatherPath (folder : Folder) (path : Path) : IO Folder :=
  (starts path.names).foldlM
    (fun folder names => do
      match ← look (Path.text ⟨path.anchor, names⟩) with
      | some content => return folder.put (names.foldl Location.child (.start path)) content
      | none => return folder)
    folder

def gather (folder : Folder) (texts : List String) : IO Folder :=
  (texts.map Path.ofText).foldlM gatherPath folder

/-- The paths that a command line may mean: its words, and what is attached to its options. -/
def candidates (line : List String) : List String :=
  line ++ line.filterMap fun word =>
    (Options.splitAtEquals word.toList).2.map String.ofList

def askedFor (folder : Folder) (line : List String) : List String :=
  match Options.read Batch.command line with
  | .given arguments =>
    match Settings.build folder (arguments.path? "--config") arguments.overrides with
    | .ok settings => settings.speciesFiles
    | .error _ => []
  | _ => []

def placeText (l : Location) : String :=
  let names := "/".intercalate l.names
  match l.origin with
  | .above levels => String.join (List.replicate levels "../") ++ names
  | .root => "/" ++ names

def writeBack (before after : Folder) : IO Unit :=
  after.entries.forM fun (place, content) => do
    match content, before.content? place with
    | .file bytes, some (.file known) =>
      if bytes != known then IO.FS.writeBinFile (placeText place) bytes
    | .file bytes, _ => IO.FS.writeBinFile (placeText place) bytes
    | .directory, _ => return

/-! ## Runs -/

/-- Shows how a command ended; the result is the code that it ends with. -/
def report (finish : Options.Finish) : IO UInt32 := do
  IO.print finish.output
  IO.eprint finish.complaints
  match finish.code, finish.raised with
  | some code, _ => return code.toUInt32
  | none, some fault => IO.eprintln fault.message; return 1
  | none, none => return 1

/-- What generators get from the system: states whose keys begin with bytes that it chose. -/
def gatherEntropy : IO Entropy := do
  let bytes ← IO.getRandomBytes 64
  let chosen := Chance.Digest.numberOf bytes.toList
  return ⟨fun n => .ofNat (chosen + n * Nat.pow 2 512), chosen⟩

/-- Runs the batch command on the files of the system. -/
def run (line : List String) : IO UInt32 := do
  let named ← gather Folder.empty (candidates line)
  let folder ← gather named (askedFor named line)
  let finish := Batch.run folder line .system (← gatherEntropy)
  writeBack folder finish.folder
  report finish

end Vivarium.Terminal

/-- Runs the batch command. -/
def main (line : List String) : IO UInt32 := Vivarium.Terminal.run line
