/-!
# Directions and positions

Squares are named by a column `x` and a row `y`; rows are counted downward from the top, so north
is one row less. The four directions follow one another clockwise.
-/

namespace Vivarium

/-! ## Directions -/

/-- The four directions a creature can face, clockwise from the top. -/
inductive Direction where
  | north
  | east
  | south
  | west
deriving DecidableEq, Repr, Inhabited

namespace Direction

/-- The direction a quarter turn clockwise. -/
def right : Direction → Direction
  | north => east
  | east => south
  | south => west
  | west => north

/-- The direction a quarter turn counterclockwise. -/
def left : Direction → Direction
  | north => west
  | east => north
  | south => east
  | west => south

/-- The number of a direction, clockwise from north. -/
def index : Direction → Nat
  | north => 0
  | east => 1
  | south => 2
  | west => 3

def ofIndex? : Nat → Option Direction
  | 0 => some north
  | 1 => some east
  | 2 => some south
  | 3 => some west
  | _ => none

/-- The name of a direction in capital letters. -/
def name : Direction → String
  | north => "NORTH"
  | east => "EAST"
  | south => "SOUTH"
  | west => "WEST"

/-- The change of column in one step. -/
def dx : Direction → Int
  | north => 0
  | east => 1
  | south => 0
  | west => -1

/-- The change of row in one step. -/
def dy : Direction → Int
  | north => -1
  | east => 0
  | south => 1
  | west => 0

@[simp] theorem left_right (d : Direction) : d.right.left = d := by cases d <;> rfl

@[simp] theorem right_left (d : Direction) : d.left.right = d := by cases d <;> rfl

@[simp] theorem ofIndex?_index (d : Direction) : ofIndex? d.index = some d := by cases d <;> rfl

/-- The numbers below four are those of the directions. -/
theorem exists_index_eq {n : Nat} (below : n < 4) : ∃ d : Direction, d.index = n := by
  have known : n = 0 ∨ n = 1 ∨ n = 2 ∨ n = 3 := by omega
  rcases known with rfl | rfl | rfl | rfl
  · exact ⟨.north, rfl⟩
  · exact ⟨.east, rfl⟩
  · exact ⟨.south, rfl⟩
  · exact ⟨.west, rfl⟩

end Direction

/-! ## Positions -/

/-- A position on the plane: a column and a row, either of which may be negative. -/
structure Position where
  x : Int
  y : Int
deriving DecidableEq, Repr, Inhabited

namespace Position

def adjacent (p : Position) (d : Direction) : Position :=
  ⟨p.x + d.dx, p.y + d.dy⟩

def text (p : Position) : String :=
  s!"({p.x}, {p.y})"

/-- The neighbour of a position is another one. -/
theorem adjacent_ne (p : Position) (d : Direction) : p.adjacent d ≠ p := by
  obtain ⟨x, y⟩ := p
  intro same
  simp only [adjacent, Position.mk.injEq] at same
  cases d <;> simp only [Direction.dx, Direction.dy] at same <;> omega

end Position

end Vivarium
