import Vivarium.Proofs.Board.Footprint
import Vivarium.Proofs.Colony.Logs
import Vivarium.Proofs.Colony.Turn

/-!
# Turns that can be taken in either order

1. `reachable_turns_commute`: the turns of two creatures of a reachable colony that do not meet.
2. `partingLane_turns_commute`: two creatures in a lane that go apart.
-/

namespace Vivarium.Colony

variable {κ : Type} [CoinSource κ]

/-- Two creatures of a reachable colony do not meet if neither stands or looks where the other one
stands or looks. If their programs do not flip the coin, either can have its turn first: each turn ends
with the same action or the same fault as if it were the first, and the two turns leave the colony in
the same state. That is so of whatever the turns do: one of them may infect a third creature, or be
cut off by a limit. -/
theorem reachable_turns_commute {c : Colony κ} (reached : Reachable c) {i j : Nat} {a d : Creature}
    (here : c.board.creatures[i]? = some a) (there : c.board.creatures[j]? = some d)
    (fixed : ¬a.program.Has (.jump .random)) (fixed' : ¬d.program.Has (.jump .random))
    (apart : Disjoint ({a.position, a.ahead} : Set Position) {d.position, d.ahead}) :
    ((c.turn j).2.turn i).1 = (c.turn i).1 ∧ ((c.turn i).2.turn j).1 = (c.turn j).1 ∧
      ((c.turn i).2.turn j).2.SameState ((c.turn j).2.turn i).2 := by
  obtain ⟨first, second, grid, creatures, coin⟩ :=
    Board.turns_comm reached.orderly.agrees here there apart fixed fixed'
  exact ⟨first, second, rfl, rfl, grid.symm, creatures.symm, coin.symm, rfl, rfl, rfl⟩

/-- A lane in which a hopper comes up behind a trap that looks away. -/
def partingLane : Colony :=
  (emptyLane.performAll
    [.add (.listed 0) (some ⟨0, 0⟩) (.int 1), .add (.listed 1) (some ⟨2, 0⟩) (.int 1)]).2

def followingHopper : Creature where
  id := 0
  lineage := ⟨0, hopper⟩
  position := ⟨0, 0⟩
  direction := .east
  counter := 1
  moves := 0
  infections := 0
  limit := some ⟨5, "5"⟩
  drawn := true

def leavingTrap : Creature := { waitingTrap with direction := .east }

/-- The hopper hops and the trap turns, in either order. -/
theorem partingLane_turns_commute :
    ((partingLane.turn 1).2.turn 0).1 = (partingLane.turn 0).1 ∧
      ((partingLane.turn 0).2.turn 1).1 = (partingLane.turn 1).1 ∧
      ((partingLane.turn 0).2.turn 1).2.SameState ((partingLane.turn 1).2.turn 0).2 := by
  have created : (create .empty lane
      { roster := some [hopper, trap], populates := false : Founding }).1 = .ok emptyLane := rfl
  have reached : Reachable partingLane := (Reachable.founded created).performAll _
  have here : partingLane.board.creatures[0]? = some followingHopper := by decide +kernel
  have there : partingLane.board.creatures[1]? = some leavingTrap := by decide +kernel
  have fixed : ¬followingHopper.program.Has (.jump .random) := by
    rintro ⟨step, inside, random⟩
    revert step
    decide +kernel
  have fixed' : ¬leavingTrap.program.Has (.jump .random) := by
    rintro ⟨step, inside, random⟩
    revert step
    decide +kernel
  have apart : followingHopper.Apart leavingTrap := Creature.apart_iff.2 (by decide +kernel)
  exact reachable_turns_commute reached here there fixed fixed' apart

end Vivarium.Colony
