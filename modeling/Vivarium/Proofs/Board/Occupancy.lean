import Vivarium.Board.Turn

/-!
# Squares and creatures of a board

Who stands where is kept twice: a square holds the number of a creature, and a creature has its
position. `Board.Agrees` says that the two copies agree. This module shows what keeps it:

* an empty board agrees (`agrees_of_empty`), and a creature may be added on a free square
  (`Agrees.insert`);
* changes of a creature that leave its position alone keep it (`Agrees.update`);
* a creature may go to a free square if its own is emptied (`Agrees.relocate`).
-/

namespace Vivarium.Board

variable {σ : Type} {b : Board σ}

structure Agrees (b : Board σ) : Prop where
  /-- The square of a creature's position holds the creature. -/
  holds : ∀ {slot : Nat} {c : Creature}, b.creatures[slot]? = some c →
    b.grid.get? c.position = some slot
  /-- What a square holds is a creature that stands there. -/
  stands : ∀ {p : Position} {slot : Nat}, b.grid.get? p = some slot →
    ∃ c, b.creatures[slot]? = some c ∧ c.position = p

/-! ## What follows -/

theorem Agrees.contains (agrees : b.Agrees) {slot : Nat} {c : Creature}
    (here : b.creatures[slot]? = some c) : b.grid.contains c.position = true :=
  Grid.contains_of_get? (agrees.holds here)

/-- No two creatures stand on one square. -/
theorem Agrees.position_injective (agrees : b.Agrees) {i j : Nat} {c d : Creature}
    (hi : b.creatures[i]? = some c) (hj : b.creatures[j]? = some d)
    (same : c.position = d.position) : i = j := by
  have held := agrees.holds hi
  rw [same, agrees.holds hj] at held
  exact (Option.some.inj held).symm

/-! ## What keeps it -/

/-- Boards with one grid whose creatures have the same positions agree together. -/
theorem Agrees.of_positions (agrees : b.Agrees) {after : Board σ} (grid : after.grid = b.grid)
    (positions : ∀ i : Nat, (after.creatures[i]?).map Creature.position =
      (b.creatures[i]?).map Creature.position) : after.Agrees := by
  constructor
  · intro slot c here
    have there := positions slot
    rw [here, Option.map_some] at there
    obtain ⟨d, found, same⟩ := Option.map_eq_some_iff.1 there.symm
    rw [grid, ← same]
    exact agrees.holds found
  · intro p slot held
    rw [grid] at held
    obtain ⟨d, found, same⟩ := agrees.stands held
    have there := positions slot
    rw [found, Option.map_some] at there
    obtain ⟨c, here, same'⟩ := Option.map_eq_some_iff.1 there
    exact ⟨c, here, same'.trans same⟩

/-- A change of a creature that leaves its position alone. -/
theorem Agrees.update (agrees : b.Agrees) (slot : Nat) {f : Creature → Creature}
    (still : ∀ c, (f c).position = c.position) : (b.update slot f).Agrees := by
  refine agrees.of_positions rfl fun i => ?_
  rw [getElem?_update]
  split
  · rw [Option.map_map]
    exact congrArg (fun g => (b.creatures[i]?).map g) (funext still)
  · rfl

/-- A board without creatures agrees if its squares are empty. -/
theorem agrees_of_empty (vacant : ∀ p, b.grid.get? p = none) (empty : b.creatures = #[]) :
    b.Agrees := by
  constructor
  · intro slot c here
    simp [empty] at here
  · intro p slot held
    rw [vacant] at held
    cases held

/-- A creature is added on a free square. -/
theorem Agrees.insert (agrees : b.Agrees) {c : Creature}
    (inside : b.grid.contains c.position = true) (free : b.grid.get? c.position = none) :
    (b.insert c).Agrees := by
  have squares : ∀ p, (b.insert c).grid.get? p =
      if p = c.position then some b.creatures.size else b.grid.get? p := by
    intro p
    rw [Board.insert, draw_eq]
    exact Grid.get?_write inside _ p
  have creatures : ∀ i : Nat, (b.insert c).creatures[i]? =
      if i = b.creatures.size then some c else b.creatures[i]? := by
    intro i
    rw [Board.insert, draw_eq]
    exact Array.getElem?_push
  constructor
  · intro slot d here
    rw [creatures] at here
    rw [squares]
    split at here
    · next new =>
      cases here
      rw [if_pos rfl, new]
    · have apart : d.position ≠ c.position := by
        intro same
        have held := agrees.holds here
        rw [same, free] at held
        cases held
      rw [if_neg apart]
      exact agrees.holds here
  · intro p slot held
    rw [squares] at held
    rw [creatures]
    split at held
    · next new =>
      cases held
      exact ⟨c, if_pos rfl, new.symm⟩
    · obtain ⟨d, found, there⟩ := agrees.stands held
      have old : slot ≠ b.creatures.size := by
        rintro rfl
        rw [Array.getElem?_eq_none (Nat.le_refl _)] at found
        cases found
      exact ⟨d, by rw [if_neg old, found], there⟩

/-- A creature goes to a free square, and the square it stood on is emptied. -/
theorem Agrees.relocate (agrees : b.Agrees) {slot : Nat} {c : Creature} {target : Position}
    (here : b.creatures[slot]? = some c) (inside : b.grid.contains target = true)
    (free : b.grid.get? target = none) {after : Board σ}
    (grid : after.grid = (b.grid.write c.position none).write target (some slot))
    {d : Creature} (creatures : after.creatures = b.creatures.setIfInBounds slot d)
    (there : d.position = target) : after.Agrees := by
  have squares : ∀ p, after.grid.get? p =
      if p = target then some slot else if p = c.position then none else b.grid.get? p := by
    intro p
    rw [grid, Grid.get?_write (by rw [Grid.contains_write, inside]),
      Grid.get?_write (agrees.contains here)]
  -- From here on only the two tables are compared: squares by position, creatures by slot.
  have found : ∀ i : Nat, after.creatures[i]? =
      if slot = i then some d else b.creatures[i]? := by
    intro i
    rw [creatures, Array.getElem?_setIfInBounds, if_pos (Array.getElem?_eq_some_iff.1 here).1]
  constructor
  · intro i e there
    rw [found] at there
    rw [squares]
    split at there
    · next same =>
      cases there
      rw [if_pos there, same]
    · next other =>
      have away : e.position ≠ target := by
        intro same
        have held := agrees.holds there
        rw [same, free] at held
        cases held
      have apart : e.position ≠ c.position :=
        fun same => other (agrees.position_injective here there same.symm)
      rw [if_neg away, if_neg apart]
      exact agrees.holds there
  · intro p i held
    rw [squares] at held
    rw [found]
    split at held
    · next same =>
      cases held
      exact ⟨d, if_pos rfl, there.trans same.symm⟩
    · split at held
      · cases held
      · next apart =>
        obtain ⟨e, there, stood⟩ := agrees.stands held
        have other : slot ≠ i := by
          rintro rfl
          rw [here] at there
          cases there
          exact apart stood.symm
        exact ⟨e, by rw [if_neg other, there], stood⟩

end Vivarium.Board
