import Vivarium.Program.Basic

/-!
# Species

A species has a name, a colour and a program. Its glyph, the first character of its name, stands
for its creatures.
-/

namespace Vivarium

/-- A kind of creature. -/
structure Species where
  name : String
  color : String
  program : Program
  name_ne : name ≠ ""
deriving DecidableEq, Repr

namespace Species

/-- The species with a name, a colour and a program; the name must not be empty. -/
def make (name color : String) (program : Program) : Except Fault Species :=
  if h : name ≠ "" then .ok ⟨name, color, program, h⟩ else .error (.ofCause .emptyName)

def glyph (s : Species) : Char :=
  s.name.toList.head (by simpa using s.name_ne)

end Species

end Vivarium
