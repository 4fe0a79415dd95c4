import Vivarium.Fault

/-!
# Numbers of items

The items of a list are numbered from zero on; a negative number counts back from the end.
-/

namespace Vivarium.Index

/-- The place of the item with a number among so many. -/
def place (size : Nat) (n : Int) : Except Fault Nat :=
  let counted := if n < 0 then n + size else n
  if 0 ≤ counted ∧ counted < size then .ok counted.toNat else .error .noSuchItem

def item {α : Type} (items : List α) (n : Int) : Except Fault α := do
  let slot ← place items.length n
  (items[slot]?).elim (.error .noSuchItem) .ok

end Vivarium.Index
