import Vivarium.Colony.Census

/-!
# The scoreboard

A line for each label with its count, the greatest count first, and a line for the leader. Labels
of equal counts keep their order.
-/

namespace Vivarium.Colony

variable {κ : Type}

def padRight (width : Nat) (s : String) : String :=
  s ++ String.ofList (List.replicate (width - s.length) ' ')

/-- The entries of the scoreboard, the greatest count first. -/
def ranking (t : Table String Nat) : List (String × Nat) :=
  t.entries.mergeSort fun a b => b.2 ≤ a.2

def scoreLines (c : Colony κ) : List String :=
  let counts := c.counts
  let width := (counts.keys.map String.length).foldl max 0
  let rows := (ranking counts).map fun (label, count) => s!"{padRight width label}  {count}"
  match c.leader with
  | some label => rows ++ ["leader: " ++ label]
  | none => rows

def scoreboard (c : Colony κ) : String := "\n".intercalate c.scoreLines

end Vivarium.Colony
