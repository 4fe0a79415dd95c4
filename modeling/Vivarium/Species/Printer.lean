import Vivarium.Species.Basic

/-!
# Writing a species

The text of a species has its name, its colour and its instructions on a line each.
-/

namespace Vivarium.Species

def lines (s : Species) : List String :=
  s.name :: s.color :: s.program.toList.map Instruction.text

def text (s : Species) : String :=
  String.join (s.lines.map (· ++ "\n"))

end Vivarium.Species
