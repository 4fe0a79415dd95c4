import Vivarium.Colony.Basic
import Vivarium.Species.Library

/-!
# Populating a colony

A colony is founded from settings and a roster: the settings and the seed are checked, the roster is
loaded if it is not given, the grid is made, and creatures of each species are placed at random. A reset
empties the grid and places them again from the same seed.

Every operation gives the colony that is left besides its result, also when it fails.
-/

namespace Vivarium.Colony

variable {κ : Type}

/-! ## Adding a creature -/

/-- Whose creature is added: one of a species in the roster, or of a new one. -/
inductive Recruit where
  | listed (number : Nat)
  | new (species : Species)

def enlist (c : Colony κ) : Recruit → Option Lineage × Colony κ
  | .listed number => (c.lineage? number, c)
  | .new species => (some ⟨c.roster.size, species⟩, { c with roster := c.roster.push species })

/-- Adds a creature; its number is the result. A new species stays in the roster even if its
creature cannot be placed. -/
def add (c : Colony κ) (recruit : Recruit) (position : Option Position) (direction : Value) :
    Except Fault Nat × Colony κ :=
  let enlisted := c.enlist recruit
  let colony := enlisted.2
  let placement : Board.Placement :=
    { lineage := enlisted.1
      position := position
      direction := direction
      limit := colony.settings.turnLimit
      id := colony.nextId
      drawn := true }
  match colony.board.place placement with
  | .error fault => (.error fault, colony)
  | .ok board => (.ok colony.nextId, { colony with board := board, nextId := colony.nextId + 1 })

/-! ## Random placement -/

/-- Draws positions until one is free, up to a count of tries. -/
def findFree (grid : Grid Nat) : Nat → Generator → Except Fault (Position × Generator)
  | 0, _ => .error .endlessDraw
  | tries + 1, g => do
    let (x, g) ← g.nextInt grid.width
    let (y, g) ← g.nextInt grid.height
    if (grid.get? ⟨x, y⟩).isNone then return (⟨x, y⟩, g) else findFree grid tries g

def drawPlace (grid : Grid Nat) (g : Generator) : Except Fault (Position × Nat × Generator) := do
  let (position, g) ← findFree grid Chance.Twister.stateCount g
  let (direction, g) ← g.nextInt 4
  return (position, direction, g)

def withGenerator (c : Colony κ) (g : Generator) : Colony κ :=
  c.withBoard { c.board with coin := { c.board.coin with generator := g } }

/-- Adds a creature of a species at random. -/
def settle (c : Colony κ) (number : Nat) : Except Fault Unit × Colony κ :=
  match drawPlace c.board.grid c.board.coin.generator with
  | .error fault => (.error fault, c)
  | .ok (position, direction, g) =>
    match (c.withGenerator g).add (.listed number) (some position) (.int direction) with
    | (.ok _, after) => (.ok (), after)
    | (.error fault, after) => (.error fault, after)

/-- Adds a creature at random for each number of a list. -/
def settleAll : List Nat → Colony κ → Except Fault Unit × Colony κ
  | [], c => (.ok (), c)
  | number :: rest, c =>
    match c.settle number with
    | (.ok _, after) => settleAll rest after
    | (.error fault, after) => (.error fault, after)

/-- The species numbers of the creatures to place, a count of each species. -/
def settlers (c : Colony κ) : Except Fault (List Nat) :=
  if c.roster.isEmpty then .ok []
  else
    c.settings.count.toCount.map fun count =>
      (List.range c.roster.size).flatMap fun number => List.replicate count.toNat number

def free (c : Colony κ) : Int := (c.board.grid.width * c.board.grid.height : Nat) - c.population

/-- The number of creatures to place, as a value, and whether it is above that of free squares. -/
def crowding (c : Colony κ) : Except Fault (Value × Bool) := do
  let wanted ← c.settings.count.mul (.int c.roster.size)
  return (wanted, ← wanted.gt (.int c.free))

/-- The journal entry of a colony with too little room. -/
def crowdedEntry (wanted : Value) (free : Int) : Journal.Entry where
  level := .error
  topic := .simulation
  text := s!"Cannot place {wanted.truncated} creatures with only {free} free cells"

def placedEntry (c : Colony κ) : Journal.Entry where
  level := .info
  topic := .simulation
  text :=
    s!"Placed {c.population} creatures of {c.roster.size} species on a " ++
      s!"{c.board.grid.width}x{c.board.grid.height} world"

/-- Places creatures of each species at random. -/
def populate (c : Colony κ) : Except Fault Unit × Colony κ :=
  match c.crowding with
  | .error fault => (.error fault, c)
  | .ok (wanted, true) =>
    (.error (.telling (.crowded wanted c.free) [wanted]), c.note (crowdedEntry wanted c.free))
  | .ok (_, false) =>
    match c.settlers with
    | .error fault => (.error fault, c)
    | .ok numbers =>
      match settleAll numbers c with
      | (.error fault, after) => (.error fault, after)
      | (.ok _, after) => (.ok (), after.note after.placedEntry)

/-- Places creatures at random if the colony is one that does. -/
def inhabit (c : Colony κ) : Except Fault Unit × Colony κ :=
  if c.populates then c.populate else (.ok (), c)

/-! ## Founding -/

/-- Loads the species asked for. The journal also tells of the one that could not be loaded, if its
fault is an expected one. -/
def loadRoster (folder : Folder) :
    List String → Array Journal.Entry → Except Fault (List Species) × Array Journal.Entry
  | [], journal => (.ok [], journal)
  | asked :: rest, journal =>
    match Species.load folder asked with
    | .error fault =>
      let entry : Journal.Entry :=
        ⟨.error, .simulation, s!"Failed to load species {asked}: {fault.message}"⟩
      (.error fault, if fault.isExpected then journal.push entry else journal)
    | .ok (species, home) =>
      match loadRoster folder rest (journal ++ (Species.loaded species home).toArray) with
      | (.ok more, after) => (.ok (species :: more), after)
      | (.error fault, after) => (.error fault, after)

structure Founding (κ : Type := Script) where
  /-- The roster; none for the species that the settings ask for. -/
  roster : Option (List Species) := none
  /-- The seed; none for that of the settings. -/
  seed : Option Value := none
  /-- The coin that stands in for the generator; none for flips by the generator. -/
  script : Option κ := none
  populates : Bool := true
  /-- What the generator gets from outside. -/
  entropy : Entropy := .still

def generatorOf (settings : Settings) (founding : Founding κ) : Except Fault Generator :=
  Generator.ofSeed (founding.seed.getD settings.seed) founding.entropy

/-- The colony without creatures. -/
def unpopulated (settings : Settings) (founding : Founding κ) (roster : List Species)
    (journal : Array Journal.Entry) : Except Fault (Colony κ) := do
  let generator ← generatorOf settings founding
  let grid ← Grid.ofValues settings.width settings.height
  return {
    settings := settings
    roster := roster.toArray
    board := { Board.ofGrid grid ⟨generator, founding.script⟩ with journal := journal }
    nextId := 0
    populates := founding.populates
    reports := #[]
    sleeps := #[] }

def rosterOf (folder : Folder) (settings : Settings) (founding : Founding κ) :
    Except Fault (List Species) × Array Journal.Entry :=
  match founding.roster with
  | some roster => (.ok roster, #[])
  | none => loadRoster folder settings.speciesFiles #[]

/-- The settings of a colony to be founded must be valid, and their seed one for a generator. -/
def checkFounding (settings : Settings) (founding : Founding κ) : Except Fault Unit := do
  settings.validate
  let _ ← generatorOf settings founding

/-- Founds a colony. The journal is given also when the colony cannot be founded. -/
def create (folder : Folder) (settings : Settings) (founding : Founding κ) :
    Except Fault (Colony κ) × Array Journal.Entry :=
  match checkFounding settings founding with
  | .error fault => (.error fault, #[])
  | .ok _ =>
    match rosterOf folder settings founding with
    | (.error fault, journal) => (.error fault, journal)
    | (.ok roster, journal) =>
      match unpopulated settings founding roster journal with
      | .error fault => (.error fault, journal)
      | .ok colony =>
        match colony.inhabit with
        | (.ok _, after) => (.ok after, after.board.journal)
        | (.error fault, after) => (.error fault, after.board.journal)

/-! ## Reset -/

/-- The colony without creatures and reports, its generator at its next start. -/
def cleared (c : Colony κ) : Colony κ :=
  let dice := { c.board.coin with generator := c.board.coin.generator.reset }
  { c with
    board := { c.board with grid := c.board.grid.clear, creatures := #[], coin := dice }
    nextId := 0
    reports := #[] }

def reset (c : Colony κ) : Except Fault Unit × Colony κ := c.cleared.inhabit

end Vivarium.Colony
