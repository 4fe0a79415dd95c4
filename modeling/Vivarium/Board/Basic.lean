import Vivarium.Chance.Coin
import Vivarium.Grid
import Vivarium.Journal
import Vivarium.Species.Basic

/-!
# Boards

A board is a grid with creatures on it, a coin, a log of what was drawn and a journal. A square of
the grid holds the number of the creature on it; creatures are numbered in the order they were
placed. Species are told apart by their place in the roster, not by what they hold.
-/

namespace Vivarium

/-! ## Creatures -/

/-- A species with its number in the roster, which alone tells friend from enemy. Two places of the
roster hold two species, even if these are equal; a roster in which one and the same species stands
twice has no form here. -/
structure Lineage where
  number : Nat
  species : Species
deriving DecidableEq, Repr

/-- The most instructions that a turn may run, and the text that the limit was given as. -/
structure TurnLimit where
  steps : Nat
  text : String
deriving DecidableEq, Repr

/-- The limit that a value gives. Nothing gives none, and neither does a number without a whole
part; a limit must be positive. -/
def TurnLimit.ofValue (v : Value) : Except Fault (Option TurnLimit) :=
  match v with
  | .null => .ok none
  | _ =>
    match v.le (.int 0) with
    | .error fault => .error fault
    | .ok true => .error (.telling (.badTurnLimit v) [v])
    | .ok false => .ok ((v.number?.bind Number.floor?).map fun n => ⟨n.toNat, v.plain⟩)

/-- A creature: whose it is, where it stands and looks, which instruction comes next, and what it
has done so far. -/
structure Creature where
  id : Int
  lineage : Lineage
  position : Position
  direction : Direction
  counter : Int
  moves : Nat
  infections : Nat
  limit : Option TurnLimit
  /-- Whether its squares are drawn. -/
  drawn : Bool
deriving DecidableEq, Repr

namespace Creature

def species (c : Creature) : Species := c.lineage.species

def program (c : Creature) : Program := c.lineage.species.program

def ahead (c : Creature) : Position := c.position.adjacent c.direction

def sameSpecies (c d : Creature) : Bool := c.lineage.number == d.lineage.number

/-- A creature with its counter brought to the address it stands for. -/
def wrapped (c : Creature) : Creature := { c with counter := c.program.wrap c.counter }

def text (c : Creature) : String :=
  s!"Creature(id={c.id}, species={Text.quoted c.species.name}, position={c.position.text}, " ++
    s!"direction={c.direction.name}, next_instruction={c.counter})"

end Creature

/-! ## Drawing -/

/-- A change of what a display shows on a square: a creature, or nothing. -/
inductive Drawing where
  | square (position : Position) (glyph : Char) (direction : Direction) (color : String)
  | blank (position : Position)
deriving DecidableEq, Repr

def Creature.drawing (c : Creature) : Drawing :=
  .square c.position c.species.glyph c.direction c.species.color

/-! ## Boards -/

structure Board (σ : Type) where
  grid : Grid Nat
  creatures : Array Creature
  drawings : Array Drawing
  journal : Array Journal.Entry
  coin : σ

namespace Board

variable {σ : Type}

def ofGrid (grid : Grid Nat) (coin : σ) : Board σ := ⟨grid, #[], #[], #[], coin⟩

def update (b : Board σ) (slot : Nat) (f : Creature → Creature) : Board σ :=
  { b with creatures := b.creatures.modify slot f }

/-- The board with a drawing added to its log, if it is to be drawn. -/
def draw (b : Board σ) (drawn : Bool) (d : Drawing) : Board σ :=
  if drawn then { b with drawings := b.drawings.push d } else b

def redraw (b : Board σ) (slot : Nat) : Board σ :=
  match b.creatures[slot]? with
  | some c => b.draw c.drawn c.drawing
  | none => b

def note (b : Board σ) (entry : Journal.Entry) : Board σ :=
  { b with journal := b.journal.push entry }

/-! ## Placing a creature -/

structure Placement where
  lineage : Option Lineage
  position : Option Position
  direction : Value
  limit : Value
  id : Int
  drawn : Bool

/-- The creature that a placement makes. In this order: species and position must be given, the
position must be on the grid and free, the limit positive, the direction one of the four. -/
def creatureFor (b : Board σ) (p : Placement) : Except Fault Creature :=
  match p.lineage, p.position with
  | some lineage, some position =>
    if !b.grid.contains position then
      .error (.telling (.placedOutside position) position.coordinates)
    else if (b.grid.get? position).isSome then .error (.placedOnOccupied position)
    else
      match TurnLimit.ofValue p.limit with
      | .error fault => .error fault
      | .ok limit =>
        p.direction.toDirection.map fun direction =>
          ⟨p.id, lineage, position, direction, 1, 0, 0, limit, p.drawn⟩
  | _, _ => .error .incompletePlacement

def insert (b : Board σ) (c : Creature) : Board σ :=
  ({ b with
      grid := b.grid.write c.position (some b.creatures.size)
      creatures := b.creatures.push c }).draw c.drawn c.drawing

/-- Places a creature; nothing changes when it cannot be placed. -/
def place (b : Board σ) (p : Placement) : Except Fault (Board σ) :=
  (b.creatureFor p).map b.insert

/-! ## Changes from outside -/

def creature (b : Board σ) (slot : Nat) : Except Fault Creature :=
  match b.creatures[slot]? with
  | some c => .ok c
  | none => .error .noSuchItem

def face (b : Board σ) (slot : Nat) (direction : Value) : Except Fault (Board σ) := do
  let _ ← b.creature slot
  let d ← direction.toDirection
  return (b.update slot fun c => { c with direction := d }).redraw slot

/-- Sets a creature's counter. -/
def setCounter (b : Board σ) (slot : Nat) (counter : Int) : Board σ :=
  b.update slot fun c => { c with counter := counter }

/-- Gives a creature another species and changes nothing else. -/
def become (b : Board σ) (slot : Nat) (lineage : Lineage) : Board σ :=
  b.update slot fun c => { c with lineage := lineage }

/-- Empties a square and leaves the creature that was on it as it is. -/
def erase (b : Board σ) (position : Option Position) : Except Fault (Board σ) :=
  (b.grid.set position none).map fun grid => { b with grid := grid }

/-! ## Lemmas -/

@[simp] theorem size_update (b : Board σ) (slot : Nat) (f : Creature → Creature) :
    (b.update slot f).creatures.size = b.creatures.size := Array.size_modify

theorem getElem?_update (b : Board σ) (slot i : Nat) (f : Creature → Creature) :
    (b.update slot f).creatures[i]? =
      if slot = i then b.creatures[i]?.map f else b.creatures[i]? := Array.getElem?_modify

/-- Two changes of one creature are one change. -/
theorem update_update (b : Board σ) (slot : Nat) (f g : Creature → Creature) :
    (b.update slot f).update slot g = b.update slot fun c => g (f c) := by
  have creatures : (b.creatures.modify slot f).modify slot g =
      b.creatures.modify slot fun c => g (f c) := by
    apply Array.ext_getElem?
    intro i
    rw [Array.getElem?_modify, Array.getElem?_modify, Array.getElem?_modify]
    split
    · rw [Option.map_map]
      rfl
    · rfl
  simp only [update, creatures]

theorem draw_eq (b : Board σ) (drawn : Bool) (d : Drawing) :
    b.draw drawn d = { b with drawings := if drawn then b.drawings.push d else b.drawings } := by
  rw [draw]
  split <;> rfl

theorem redraw_eq {b : Board σ} {slot : Nat} {c : Creature} (here : b.creatures[slot]? = some c) :
    b.redraw slot =
      { b with drawings := if c.drawn then b.drawings.push c.drawing else b.drawings } := by
  simp only [redraw, here, draw_eq]

end Board

end Vivarium
