import Vivarium.Text.Blank
import Vivarium.Text.Lowercase

/-!
# Colours

Colours are asked for by name, in any letter case. A name that is not known stands for a light
grey.
-/

namespace Vivarium.Window

structure Color where
  red : Nat
  green : Nat
  blue : Nat
deriving DecidableEq, Repr

/-- The colours that are known by name. -/
def palette : List (String × Color) :=
  [("red", ⟨255, 0, 0⟩), ("magenta", ⟨255, 0, 255⟩), ("green", ⟨0, 255, 0⟩),
    ("lime", ⟨0, 255, 0⟩), ("blue", ⟨0, 0, 255⟩), ("orange", ⟨255, 165, 0⟩),
    ("cyan", ⟨0, 255, 255⟩), ("lightblue", ⟨173, 216, 230⟩), ("yellow", ⟨255, 255, 0⟩),
    ("white", ⟨255, 255, 255⟩), ("black", ⟨0, 0, 0⟩), ("gray", ⟨190, 190, 190⟩),
    ("grey", ⟨190, 190, 190⟩), ("purple", ⟨160, 32, 240⟩), ("brown", ⟨165, 42, 42⟩),
    ("pink", ⟨255, 192, 203⟩)]

def background : Color := ⟨0, 0, 0⟩

def lines : Color := ⟨40, 40, 40⟩

/-- The colour that stands for a name that is not known. -/
def fallback : Color := ⟨220, 220, 220⟩

def colorOf (name : String) : Color :=
  let asked := String.ofList (Text.lower (Text.strip name.toList))
  (palette.lookup asked).getD fallback

end Vivarium.Window
