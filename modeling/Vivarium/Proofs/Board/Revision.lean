import Vivarium.Proofs.Board.Occupancy

/-!
# What others do not see of a creature

A creature's program and its limit matter to its own turns only; nobody else looks at them. A
`Revision` changes them, and nothing else, all over a board.

1. `sight_revise`, `holds_revise`: the same is seen on the revised board, and the same conditions hold.
2. `perform_revise`: an action does the same on it.
3. `face_revise`: and so does a change from outside.

Which instruction is fetched and when a turn is cut off is not said here: these may differ.
-/

namespace Vivarium

theorem Species.glyph_of_name {s t : Species} (same : s.name = t.name) : s.glyph = t.glyph := by
  obtain ⟨name, _, _, _⟩ := s
  obtain ⟨_, _, _, _⟩ := t
  cases same
  rfl

/-! ## Sights -/

def Sight.mapSlots (f : Nat → Creature → Creature) : Sight → Sight
  | .wall => .wall
  | .empty => .empty
  | .creature slot other => .creature slot (f slot other)

namespace Board

variable {σ : Type} {b : Board σ} {c : Creature}

/-- On a board with other creatures in the same slots the same is seen, but for how the creature
ahead has changed. -/
theorem sight_of_slots {after : Board σ} {f : Nat → Creature → Creature}
    (creatures : ∀ i : Nat, after.creatures[i]? = (b.creatures[i]?).map (f i))
    (grid : after.grid = b.grid) {d : Creature} (ahead : d.ahead = c.ahead) :
    after.sight d = (b.sight c).map (Sight.mapSlots f) := by
  rw [sight, sight, ahead, grid]
  split
  · cases b.grid.read (some c.ahead) with
    | error fault => rfl
    | ok content =>
      cases content with
      | none => rfl
      | some other =>
        simp only [Except.map, creatures]
        cases b.creatures[other]? <;> rfl
  · rfl

/-- Conditions look at nothing of a creature but its species. -/
theorem holds_of_slots {f : Nat → Creature → Creature}
    (number : ∀ i d, (f i d).lineage.number = d.lineage.number) {d : Creature}
    (same : d.lineage.number = c.lineage.number) (seen : Sight) (condition : Condition) :
    holds d (seen.mapSlots f) condition = holds c seen condition := by
  cases seen with
  | wall | empty => cases condition <;> rfl
  | creature slot other =>
    have kin : (f slot other).sameSpecies d = other.sameSpecies c := by
      rw [Creature.sameSpecies, Creature.sameSpecies, number, same]
    cases condition with
    | same => exact kin
    | enemy => exact congrArg (!·) kin
    | empty | wall | random | always => rfl

end Board

/-! ## Revisions -/

/-- A change of creatures' programs, by species, and of their limits, by slot. -/
structure Revision where
  lineage : Lineage → Lineage
  limit : Nat → Option TurnLimit → Option TurnLimit
  number : ∀ l, (lineage l).number = l.number
  name : ∀ l, (lineage l).species.name = l.species.name
  color : ∀ l, (lineage l).species.color = l.species.color

namespace Revision

def creature (r : Revision) (slot : Nat) (c : Creature) : Creature :=
  { c with lineage := r.lineage c.lineage, limit := r.limit slot c.limit }

def sight (r : Revision) : Sight → Sight := Sight.mapSlots r.creature

variable (r : Revision)

theorem drawing_creature (slot : Nat) (c : Creature) : (r.creature slot c).drawing = c.drawing := by
  have glyph : (r.creature slot c).species.glyph = c.species.glyph :=
    Species.glyph_of_name (r.name c.lineage)
  have color : (r.creature slot c).species.color = c.species.color := r.color c.lineage
  rw [Creature.drawing, Creature.drawing, glyph, color]
  rfl

theorem sameSpecies_creature (i j : Nat) (c d : Creature) :
    (r.creature i c).sameSpecies (r.creature j d) = c.sameSpecies d := by
  show ((r.lineage c.lineage).number == (r.lineage d.lineage).number) = _
  rw [r.number, r.number]
  rfl

end Revision

namespace Board

variable {σ : Type} {b : Board σ} {slot : Nat} {c : Creature} (r : Revision)

def revise (b : Board σ) : Board σ := { b with creatures := b.creatures.mapIdx r.creature }

theorem getElem?_revise (b : Board σ) (i : Nat) :
    (b.revise r).creatures[i]? = (b.creatures[i]?).map (r.creature i) := Array.getElem?_mapIdx

/-- What `f` sees of the creatures is the same if it looks at nothing that is revised. -/
theorem map_revise {α : Type} {f : Creature → α} (b : Board σ)
    (blind : ∀ i d, f (r.creature i d) = f d) :
    (b.revise r).creatures.toList.map f = b.creatures.toList.map f := by
  apply List.ext_getElem?
  intro i
  rw [List.getElem?_map, List.getElem?_map, Array.getElem?_toList, Array.getElem?_toList,
    getElem?_revise, Option.map_map]
  exact congrArg (fun g => (b.creatures[i]?).map g) (funext (blind i))

/-- Changes of a creature that do the same to it before and after it is revised. -/
theorem update_revise (b : Board σ) {f g : Creature → Creature}
    (same : ∀ c, g (r.creature slot c) = r.creature slot (f c)) :
    (b.revise r).update slot g = (b.update slot f).revise r := by
  have creatures : (b.creatures.mapIdx r.creature).modify slot g =
      (b.creatures.modify slot f).mapIdx r.creature := by
    apply Array.ext_getElem?
    intro i
    rw [Array.getElem?_modify, Array.getElem?_mapIdx, Array.getElem?_mapIdx, Array.getElem?_modify]
    split
    · next same =>
      subst same
      rw [Option.map_map, Option.map_map]
      exact congrArg (fun h => (b.creatures[slot]?).map h) (funext same)
    · rfl
  simp only [update, revise, creatures]

theorem update_unseen (b : Board σ) (f : Creature → Creature)
    (unseen : ∀ c, f (r.creature slot c) = r.creature slot (f c)) :
    (b.revise r).update slot f = (b.update slot f).revise r :=
  update_revise r b unseen

theorem setCounter_revise (b : Board σ) (slot : Nat) (counter : Int) :
    (b.revise r).setCounter slot counter = (b.setCounter slot counter).revise r :=
  update_revise r b fun _ => rfl

theorem draw_revise (b : Board σ) (drawn : Bool) (d : Drawing) :
    (b.revise r).draw drawn d = (b.draw drawn d).revise r := by
  rw [draw_eq, draw_eq]
  rfl

theorem redraw_revise (b : Board σ) (slot : Nat) :
    (b.revise r).redraw slot = (b.redraw slot).revise r := by
  rw [redraw, redraw, getElem?_revise]
  cases b.creatures[slot]? with
  | none => rfl
  | some c =>
    rw [Option.map_some]
    show (b.revise r).draw c.drawn (r.creature slot c).drawing = _
    rw [r.drawing_creature, draw_revise]

/-! ## What is seen -/

theorem sight_revise (b : Board σ) (slot : Nat) (c : Creature) :
    (b.revise r).sight (r.creature slot c) = (b.sight c).map r.sight :=
  sight_of_slots (getElem?_revise r b) rfl rfl

theorem holds_revise (slot : Nat) (c : Creature) (seen : Sight) (condition : Condition) :
    holds (r.creature slot c) (r.sight seen) condition = holds c seen condition :=
  holds_of_slots (fun _ d => r.number d.lineage) (r.number c.lineage) seen condition

theorem test_revise [CoinSource σ] (b : Board σ) (slot : Nat) (c : Creature) (seen : Sight)
    (condition : Condition) :
    (b.revise r).test (r.creature slot c) (r.sight seen) condition =
      (b.test c seen condition).map fun tested => (tested.1, tested.2.revise r) := by
  cases condition with
  | random =>
    show (CoinSource.flip b.coin).map _ = ((CoinSource.flip b.coin).map _).map _
    rw [Option.map_map]
    rfl
  | empty | wall | same | enemy | always =>
    exact congrArg (fun holds => some (holds, b.revise r)) (holds_revise r slot c seen _)

/-! ## Actions -/

theorem move_revise (b : Board σ) (slot : Nat) (c : Creature) (target : Position) :
    (b.revise r).move slot (r.creature slot c) target =
      ((b.move slot c target).1, (b.move slot c target).2.revise r) := by
  have left : (b.revise r).draw (r.creature slot c).drawn (.blank (r.creature slot c).position) =
      (b.draw c.drawn (.blank c.position)).revise r := draw_revise r b _ _
  simp only [move, left]
  generalize b.draw c.drawn (.blank c.position) = drawn
  have same : (drawn.revise r).grid.set (some (r.creature slot c).position) none =
      drawn.grid.set (some c.position) none := rfl
  rw [same]
  cases drawn.grid.set (some c.position) none with
  | error fault => rfl
  | ok emptied =>
    have going : ({ drawn.revise r with grid := emptied } : Board σ).update slot
        (fun d => { d with position := target }) =
        (({ drawn with grid := emptied } : Board σ).update slot
          fun d => { d with position := target }).revise r :=
      update_revise r { drawn with grid := emptied } fun _ => rfl
    simp only [going]
    generalize ({ drawn with grid := emptied } : Board σ).update slot
      (fun d => { d with position := target }) = going
    cases emptied.set (some target) (some slot) with
    | error fault => rfl
    | ok taken =>
      have there : ({ going.revise r with grid := taken } : Board σ).update slot
          (fun d => { d with moves := d.moves + 1 }) =
          (({ going with grid := taken } : Board σ).update slot
            fun d => { d with moves := d.moves + 1 }).revise r :=
        update_revise r { going with grid := taken } fun _ => rfl
      simp only [there, redraw_revise]

theorem infection_revise (i j : Nat) (c d : Creature) :
    infection (r.creature i c) (r.creature j d) = infection c d := by
  have name (i : Nat) (c : Creature) : (r.creature i c).species.name = c.species.name :=
    r.name c.lineage
  rw [infection, infection, name, name]
  rfl

theorem infect_revise (b : Board σ) (slot : Nat) (c : Creature) (victim : Nat) (other : Creature) :
    (b.revise r).infect slot (r.creature slot c) victim (r.creature victim other) =
      (b.infect slot c victim other).revise r := by
  rw [infect, infect, infection_revise]
  have turned : ((b.revise r).note (infection c other)).update victim
      (fun d => { d with lineage := (r.creature slot c).lineage, counter := 1 }) =
      ((b.note (infection c other)).update victim
        fun d => { d with lineage := c.lineage, counter := 1 }).revise r :=
    update_revise r (b.note (infection c other)) fun _ => rfl
  simp only [turned]
  rw [update_unseen, redraw_revise]
  exact fun _ => rfl

theorem perform_revise (b : Board σ) (slot : Nat) (c : Creature) (seen : Sight) (action : Action) :
    (b.revise r).perform slot (r.creature slot c) (r.sight seen) action =
      ((b.perform slot c seen action).1, (b.perform slot c seen action).2.revise r) := by
  have next : (b.revise r).setCounter slot ((r.creature slot c).counter + 1) =
      (b.setCounter slot (c.counter + 1)).revise r := setCounter_revise r b slot _
  simp only [perform, next]
  generalize b.setCounter slot (c.counter + 1) = going
  cases action with
  | hop =>
    cases seen with
    | wall | creature => rfl
    | empty => exact move_revise r going slot c c.ahead
  | left | right =>
    dsimp only
    rw [update_unseen, redraw_revise]
    exact fun _ => rfl
  | infect =>
    cases seen with
    | wall | empty => rfl
    | creature victim other =>
      simp only [Revision.sight, Sight.mapSlots, r.sameSpecies_creature]
      split
      · rfl
      · rw [infect_revise]

/-! ## Changes from outside -/

theorem face_revise (b : Board σ) (slot : Nat) (direction : Value) :
    (b.revise r).face slot direction = (b.face slot direction).map (revise r) := by
  rw [face, face, creature, creature, getElem?_revise]
  cases b.creatures[slot]? with
  | none => rfl
  | some c =>
    cases direction.toDirection with
    | error fault => rfl
    | ok d =>
      show Except.ok (((b.revise r).update slot fun e => { e with direction := d }).redraw slot) =
        .ok (((b.update slot fun e => { e with direction := d }).redraw slot).revise r)
      rw [update_unseen, redraw_revise]
      exact fun _ => rfl

end Board

end Vivarium
