import Vivarium.Colony.Basic

/-!
# Counting a colony

Species are counted by their place in the roster and shown by label. The first species of a name
has the name as its label, the next ones the name with a number.
-/

namespace Vivarium.Colony

variable {κ : Type}

/-! ## Labels -/

def labelsAfter (before : List String) : List String → List String
  | [] => []
  | name :: rest =>
    let occurrence := before.count name + 1
    (if occurrence = 1 then name else s!"{name}#{occurrence}") :: labelsAfter (name :: before) rest

def labels (c : Colony κ) : List String :=
  labelsAfter [] (c.roster.toList.map Species.name)

/-! ## Counts -/

def countOf (c : Colony κ) (number : Nat) : Nat :=
  c.board.creatures.toList.countP fun creature => creature.lineage.number == number

/-- The number of creatures by label, in the order of the roster. Of species with one label the
last counts. -/
def counts (c : Colony κ) : Table String Nat :=
  Table.ofList (c.labels.zip ((List.range c.roster.size).map c.countOf))

/-- The entry with the greatest positive number, the first of several; `best` is what was found
before. -/
def leading (best : Option String) (most : Nat) : List (String × Nat) → Option String
  | [] => best
  | (label, count) :: rest =>
    if most < count then leading (some label) count rest else leading best most rest

/-- The label of the species with the most creatures, the first of several; none without
creatures. -/
def leader (c : Colony κ) : Option String := leading none 0 c.counts.entries

end Vivarium.Colony

namespace Vivarium.Table

def toValue (t : Table String Nat) : Value :=
  .map (t.entries.map fun entry => (.text entry.1, .int entry.2))

end Vivarium.Table
