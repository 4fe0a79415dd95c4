import Vivarium.Value.Number

/-!
# Settings

What a run is set to. The values are held as they were given, whatever their kind; `validate` says
which of them a run can use, and which fault the first unusable one is.
-/

namespace Vivarium

structure Settings where
  /-- The seed of the generator. -/
  seed : Value := .int 42
  /-- The number of rounds. -/
  rounds : Value := .int 200
  /-- The seconds to wait after a round. -/
  pause : Value := .float (Decimal.nearest false ⟨1, 2⟩)
  /-- The most instructions of a turn; nothing for no limit. -/
  turnLimit : Value := .null
  /-- A name for the settings themselves. -/
  version : Value := .text "v1"
  /-- The number of columns of the grid. -/
  width : Value := .int 15
  /-- The number of rows of the grid. -/
  height : Value := .int 15
  /-- The number of creatures of each species at the start. -/
  count : Value := .int 10
  /-- The species that take part, as they are asked for. -/
  speciesFiles : List String := []

namespace Settings

def default : Settings := {}

instance : Inhabited Settings := ⟨default⟩

/-! ## Validation -/

/-- The grid must have a square. -/
def checkWorld (s : Settings) : Except Fault Unit := do
  let narrow ← s.width.le (.int 0)
  let low ← if narrow then pure true else s.height.le (.int 0)
  if narrow || low then .error (.telling (.smallWorld s.width s.height) [s.width, s.height])

/-- There must be a round. -/
def checkRounds (s : Settings) : Except Fault Unit := do
  if ← s.rounds.le (.int 0) then .error (.telling (.badRounds s.rounds) [s.rounds])

/-- The pause must not be negative. -/
def checkPause (s : Settings) : Except Fault Unit := do
  if ← s.pause.lt (.int 0) then .error (.telling (.badPause s.pause) [s.pause])

/-- A limit must allow an instruction. -/
def checkTurnLimit (s : Settings) : Except Fault Unit :=
  match s.turnLimit with
  | .null => .ok ()
  | limit => do if ← limit.le (.int 0) then .error (.telling (.badLimitSetting limit) [limit])

/-- The number of creatures must not be negative. -/
def checkCount (s : Settings) : Except Fault Unit := do
  if ← s.count.lt (.int 0) then .error (.telling (.badCount s.count) [s.count])

/-- All creatures must find a square. -/
def checkRoom (s : Settings) : Except Fault Unit := do
  let squares ← s.width.mul s.height
  let wanted ← s.count.mul (.int s.speciesFiles.length)
  if ← wanted.gt squares then
    .error (.telling (.overfull wanted s.width s.height) [wanted, s.width, s.height])

/-- Whether the settings can be used; the first of the rules above that is broken is the fault. -/
def validate (s : Settings) : Except Fault Unit := do
  s.checkWorld
  s.checkRounds
  s.checkPause
  s.checkTurnLimit
  s.checkCount
  s.checkRoom

end Settings

end Vivarium
