import Vivarium.Board.Turn
import Vivarium.Settings.Basic
import Vivarium.Table

/-!
# Colonies

A colony is a board with its settings, its roster of species, and the reports of the rounds that
were played. A species has its place in the roster for good; creatures are numbered as they come.
-/

namespace Vivarium

/-! ## Reports -/

/-- The time that passes between two looks at the clock, in milliseconds. -/
def clockTick : Nat := 250

structure Report where
  round : Int
  /-- The number of creatures. -/
  population : Nat
  /-- The number of creatures by label of their species. -/
  counts : Table String Nat
  infections : Nat
  moves : Nat
  turns : Nat
  /-- The number of turns by the action that ended them. -/
  actions : Table String Nat
  /-- How long the round took: the clock is looked at when it begins and when it has ended. -/
  milliseconds : Nat := clockTick
deriving DecidableEq, Repr

/-! ## Colonies -/

/-- A board with all that a run of rounds needs. The coin that may stand in for the generator is of
any type. -/
structure Colony (κ : Type := Script) where
  settings : Settings
  /-- The species that take part, in the order they came. -/
  roster : Array Species
  board : Board (Dice κ)
  /-- The number of the next creature. -/
  nextId : Nat
  /-- Whether creatures are placed at the start and at a reset. -/
  populates : Bool
  /-- The reports of the rounds since the start or the last reset. -/
  reports : Array Report
  /-- The pauses that were made, in seconds. -/
  sleeps : Array Value

namespace Colony

variable {κ : Type}

def withBoard (c : Colony κ) (board : Board (Dice κ)) : Colony κ := { c with board := board }

def note (c : Colony κ) (entry : Journal.Entry) : Colony κ := c.withBoard (c.board.note entry)

def population (c : Colony κ) : Nat := c.board.creatures.size

def lineage? (c : Colony κ) (number : Nat) : Option Lineage :=
  c.roster[number]?.map fun species => ⟨number, species⟩

end Colony

end Vivarium
