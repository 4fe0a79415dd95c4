import Vivarium.Text.Lines

/-!
# The bundled species

Five species come with the library, each as the text that describes it.
-/

namespace Vivarium.Species

/-- Spins on its square and infects the enemies it sees. -/
def flytrapText : String :=
  Text.ofLines [
    "Flytrap",
    "magenta",
    "ifenemy 4",
    "left",
    "go 1",
    "infect",
    "go 1",
    "",
    "The Flytrap sits in one place and spins. Whenever it sees an enemy in front",
    "of it, it infects that creature."]

/-- Spins on its square and does nothing else. -/
def foodText : String :=
  Text.ofLines [
    "Food",
    "green",
    "left",
    "go 1",
    "",
    "Food spins in place. It never moves and never infects, so it is only",
    "useful as something for the other species to convert."]

/-- Moves ahead as long as it can. -/
def hopText : String :=
  Text.ofLines [
    "Hop",
    "blue",
    "hop",
    "go 1",
    "",
    "The Hop creature hops forward until it reaches a wall or another creature,",
    "then keeps trying to hop in place."]

/-- Infects enemies ahead, moves into empty squares and turns at random. -/
def roverText : String :=
  Text.ofLines [
    "Rover",
    "red",
    "ifenemy 10",
    "ifempty 8",
    "ifrandom 6",
    "left",
    "go 1",
    "right",
    "go 1",
    "hop",
    "go 1",
    "infect",
    "go 1",
    "",
    "The Rover infects any enemy ahead, hops into empty cells, and otherwise",
    "turns left or right at random."]

/-- Walks, turns at walls and friends, and infects what crosses its path. -/
def trapText : String :=
  Text.ofLines [
    "Trap",
    "orange",
    "ifenemy 8",
    "ifwall 6",
    "ifsame 6",
    "hop",
    "go 1",
    "right",
    "go 1",
    "infect",
    "go 1",
    "",
    "The Trap walks along until it meets a wall or a friend, turns right, and",
    "infects anything else that crosses its path."]

/-- The names of the bundled species, in alphabetical order, with their texts. -/
def bundled : List (String × String) :=
  [("Flytrap", flytrapText), ("Food", foodText), ("Hop", hopText), ("Rover", roverText),
    ("Trap", trapText)]

end Vivarium.Species
