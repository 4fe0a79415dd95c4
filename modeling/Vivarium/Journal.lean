/-!
# The journal

What a run tells about itself: entries of a level, on a topic. An entry is shown when its level is
at least that asked for.
-/

namespace Vivarium.Journal

/-- How much an entry matters. -/
inductive Level where
  | debug
  | info
  | error
deriving DecidableEq, Repr

namespace Level

def name : Level → String
  | debug => "DEBUG"
  | info => "INFO"
  | error => "ERROR"

/-- The place of a level in the order of importance. -/
def rank : Level → Nat
  | debug => 0
  | info => 1
  | error => 2

end Level

/-- The parts of the library that write entries. -/
inductive Topic where
  | species
  | creature
  | simulation
  | batch
  | window
  | station
deriving DecidableEq, Repr

def Topic.name : Topic → String
  | species => "darwin.species"
  | creature => "darwin.creature"
  | simulation => "darwin.simulation"
  | batch => "darwin.headless"
  | window => "darwin.app.viewer"
  | station => "darwin.app.server"

structure Entry where
  level : Level
  topic : Topic
  text : String
deriving DecidableEq, Repr

def Entry.line (e : Entry) : String :=
  s!"{e.level.name} {e.topic.name}: {e.text}\n"

def lines (least : Level) (entries : List Entry) : String :=
  String.join ((entries.filter fun e => least.rank ≤ e.level.rank).map Entry.line)

end Vivarium.Journal
