import Mathlib.Logic.Function.Basic
import Vivarium.Proofs.Board.Turn

/-!
# What a display shows of a board

A board's drawings are the changes that a display was told of, one square at a time. `Board.screen` is
what a display shows that was blank before the first of them, `Board.view` what is on the board.

* `Shows.insert`, `Shows.put`, `Shows.of_tiles`: a creature that is added or changes in its place is
  drawn, and what does not change a tile needs no drawing. This holds over anything else that the
  display may still show.
* `Turned.inStep`: so a display that shows the board, and nothing else, does so after every turn. Only
  here squares are blanked: the one that a creature hops off.
-/

namespace Vivarium

/-! ## Screens -/

/-- What a display shows of a creature. -/
structure Tile where
  glyph : Char
  direction : Direction
  color : String
deriving DecidableEq, Repr

def Creature.tile (c : Creature) : Tile := ⟨c.species.glyph, c.direction, c.species.color⟩

/-- What a display shows, square by square. -/
abbrev Screen := Position → Option Tile

namespace Screen

/-- A display that shows nothing. -/
def dark : Screen := fun _ => none

def paint (s : Screen) : Drawing → Screen
  | .square p glyph direction color => Function.update s p (some ⟨glyph, direction, color⟩)
  | .blank p => Function.update s p none

theorem paint_drawing (s : Screen) (c : Creature) :
    s.paint c.drawing = Function.update s c.position (some c.tile) := rfl

end Screen

namespace Board

variable {σ : Type} {b after : Board σ} {under : Screen} {slot : Nat} {c d : Creature}

/-- What a display shows after all drawings of a board, if it was dark before. -/
def screen (b : Board σ) : Screen := b.drawings.toList.foldl Screen.paint Screen.dark

/-- What is to be seen of a board: the tile of the creature on each occupied square. -/
def view (b : Board σ) : Screen := fun p =>
  (b.grid.get? p).bind fun slot => (b.creatures[slot]?).map Creature.tile

/-- A display shows a board, and `under` where the board has no creature. -/
def Shows (under : Screen) (b : Board σ) : Prop := ∀ p, b.screen p = (b.view p).or (under p)

/-- A display shows a board and nothing else. -/
def InStep (b : Board σ) : Prop := ∀ p, b.screen p = b.view p

def Drawn (b : Board σ) : Prop :=
  ∀ (slot : Nat) (c : Creature), b.creatures[slot]? = some c → c.drawn = true

theorem shows_dark_iff : b.Shows .dark ↔ b.InStep :=
  forall_congr' fun p => by rw [Screen.dark, Option.or_none]

theorem screen_push {drawing : Drawing} (drawings : after.drawings = b.drawings.push drawing) :
    after.screen = b.screen.paint drawing := by
  rw [screen, drawings, Array.toList_push, List.foldl_append]
  rfl

/-! ## What is to be seen -/

theorem Agrees.view_self (agrees : b.Agrees) (here : b.creatures[slot]? = some c) :
    b.view c.position = some c.tile := by
  rw [view, agrees.holds here, Option.bind_some, here, Option.map_some]

theorem view_of_free {p : Position} (free : b.grid.get? p = none) : b.view p = none := by
  rw [view, free, Option.bind_none]

/-- Where something is on a square, a creature is to be seen. -/
theorem Agrees.view_eq_none_iff (agrees : b.Agrees) {p : Position} :
    b.view p = none ↔ b.grid.get? p = none := by
  refine ⟨fun unseen => ?_, view_of_free⟩
  by_contra held
  obtain ⟨slot, held⟩ := Option.ne_none_iff_exists'.1 held
  obtain ⟨c, here, rfl⟩ := agrees.stands held
  rw [agrees.view_self here] at unseen
  cases unseen

/-- Boards with one grid whose creatures look the same are seen the same. -/
theorem view_of_tiles (grid : after.grid = b.grid)
    (tiles : ∀ i : Nat, (after.creatures[i]?).map Creature.tile = (b.creatures[i]?).map Creature.tile) :
    after.view = b.view := by
  funext p
  rw [view, view, grid, funext tiles]

/-- A creature that changes in its place is seen there, and every other one as before. -/
theorem Agrees.view_put (agrees : b.Agrees) (here : b.creatures[slot]? = some c) (d : Creature) :
    (b.put slot d).view = Function.update b.view c.position (some d.tile) := by
  funext p
  by_cases there : p = c.position
  · subst there
    have held : (b.put slot d).grid.get? c.position = some slot := agrees.holds here
    rw [Function.update_self, view, held, Option.bind_some, getElem?_put_self here, Option.map_some]
  · rw [Function.update_of_ne there]
    show ((b.grid.get? p).bind fun i => ((b.put slot d).creatures[i]?).map Creature.tile) = b.view p
    rw [view]
    cases held : b.grid.get? p with
    | none => rfl
    | some i =>
      have other : slot ≠ i := by
        rintro rfl
        obtain ⟨e, found, stands⟩ := agrees.stands held
        rw [here] at found
        cases found
        exact there stands.symm
      rw [Option.bind_some, Option.bind_some, getElem?_put_of_ne other]

/-- A creature that goes to a free square is seen there, and its old square is seen empty. -/
theorem Agrees.view_relocate (agrees : b.Agrees) (here : b.creatures[slot]? = some c)
    {target : Position} (inside : b.grid.contains target = true)
    (free : b.grid.get? target = none)
    (grid : after.grid = (b.grid.write c.position none).write target (some slot))
    (creatures : after.creatures = b.creatures.setIfInBounds slot d) :
    after.view = Function.update (Function.update b.view c.position none) target (some d.tile) := by
  have squares : ∀ p, after.grid.get? p =
      if p = target then some slot else if p = c.position then none else b.grid.get? p := by
    intro p
    rw [grid, Grid.get?_write (by rw [Grid.contains_write, inside]),
      Grid.get?_write (agrees.contains here)]
  have stayed : c.position ≠ target := by
    rintro rfl
    rw [agrees.holds here] at free
    cases free
  -- Where nobody comes or goes, the board is seen as if the creature had changed in its place.
  have elsewhere := agrees.view_put here d
  funext p
  by_cases came : p = target
  · subst came
    have there : after.creatures[slot]? = some d := by
      rw [creatures]
      exact getElem?_put_self here d
    rw [Function.update_self, view, squares, if_pos rfl, Option.bind_some, there, Option.map_some]
  · rw [Function.update_of_ne came]
    by_cases left : p = c.position
    · subst left
      rw [Function.update_self, view_of_free]
      rw [squares, if_neg stayed, if_pos rfl]
    · rw [Function.update_of_ne left]
      have same := congrFun elsewhere p
      rw [Function.update_of_ne left] at same
      rw [← same, view, squares, if_neg came, if_neg left, creatures]
      rfl

theorem Agrees.view_insert (agrees : b.Agrees) (inside : b.grid.contains c.position = true) :
    (b.insert c).view = Function.update b.view c.position (some c.tile) := by
  have squares : ∀ p, (b.insert c).grid.get? p =
      if p = c.position then some b.creatures.size else b.grid.get? p := by
    intro p
    rw [Board.insert, draw_eq]
    exact Grid.get?_write inside _ p
  have creatures : ∀ i : Nat, (b.insert c).creatures[i]? =
      if i = b.creatures.size then some c else b.creatures[i]? := by
    intro i
    rw [Board.insert, draw_eq]
    exact Array.getElem?_push
  funext p
  by_cases there : p = c.position
  · subst there
    rw [Function.update_self, view, squares, if_pos rfl, Option.bind_some, creatures, if_pos rfl,
      Option.map_some]
  · rw [Function.update_of_ne there, view, squares, if_neg there, view]
    cases held : b.grid.get? p with
    | none => rfl
    | some i =>
      obtain ⟨e, found, -⟩ := agrees.stands held
      have old : i ≠ b.creatures.size := Nat.ne_of_lt (Array.getElem?_eq_some_iff.1 found).1
      rw [Option.bind_some, Option.bind_some, creatures, if_neg old]

/-! ## What keeps a display up to date -/

/-- A creature that is drawn where it is seen now. -/
theorem Shows.draw (shown : b.Shows under)
    (view : after.view = Function.update b.view d.position (some d.tile))
    (drawings : after.drawings = b.drawings.push d.drawing) : after.Shows under := by
  intro p
  rw [screen_push drawings, Screen.paint_drawing, view]
  by_cases there : p = d.position
  · subst there
    rw [Function.update_self, Function.update_self]
    rfl
  · rw [Function.update_of_ne there, Function.update_of_ne there]
    exact shown p

theorem Shows.of_tiles (shown : b.Shows under) (grid : after.grid = b.grid)
    (tiles : ∀ i : Nat, (after.creatures[i]?).map Creature.tile = (b.creatures[i]?).map Creature.tile)
    (drawings : after.drawings = b.drawings) : after.Shows under := by
  intro p
  rw [view_of_tiles grid tiles, screen, drawings]
  exact shown p

/-- A creature changes in its place and is drawn. -/
theorem Shows.put (shown : b.Shows under) (agrees : b.Agrees) (here : b.creatures[slot]? = some c)
    (still : d.position = c.position) (grid : after.grid = b.grid)
    (creatures : after.creatures = b.creatures.setIfInBounds slot d)
    (drawings : after.drawings = b.drawings.push d.drawing) : after.Shows under := by
  refine shown.draw ?_ drawings
  rw [still, ← agrees.view_put here d]
  exact view_of_tiles grid fun i => by rw [creatures]; rfl

theorem redraw_update (here : b.creatures[slot]? = some c) (f : Creature → Creature) :
    (b.update slot f).redraw slot = b.faced slot (f c) := by
  rw [update_eq_put here, redraw_eq (getElem?_put_self here _)]
  rfl

/-- A creature is added and drawn. -/
theorem Shows.insert (shown : b.Shows under) (agrees : b.Agrees)
    (inside : b.grid.contains c.position = true) (drawn : c.drawn = true) :
    (b.insert c).Shows under := by
  refine shown.draw (agrees.view_insert inside) ?_
  rw [Board.insert, draw_eq, if_pos drawn]

/-- After a turn of a creature that is drawn, a display that showed the board shows it again. -/
theorem Turned.inStep [CoinSource σ] {address : Int} {coin : σ} {result : Except Fault Action}
    (turned : Turned b slot c address coin result after) (agrees : b.Agrees)
    (here : b.creatures[slot]? = some c) (drawn : b.Drawn) (inStep : b.InStep) : after.InStep := by
  have shown := shows_dark_iff.2 inStep
  have paused (next : Int) (coin : σ) : (b.paused slot next coin).InStep := by
    refine shows_dark_iff.1 (shown.of_tiles rfl (fun i => ?_) rfl)
    rw [Board.paused, setCounter, update_eq_put here]
    exact map_put (d := { c with counter := next }) here rfl i
  cases turned with
  | hopped fetched inside free =>
    intro p
    rw [agrees.view_relocate here inside free rfl rfl]
    simp only [if_pos (drawn _ _ here), screen, Array.toList_push, List.foldl_append]
    show Function.update (Function.update b.screen c.position none) c.ahead _ p = _
    rw [funext inStep]
    rfl
  | left fetched =>
    exact shows_dark_iff.1 (shown.put (d := c.afterFacing (address + 1) c.direction.left) agrees here
      rfl rfl rfl (if_pos (drawn _ _ here)))
  | right fetched =>
    exact shows_dark_iff.1 (shown.put (d := c.afterFacing (address + 1) c.direction.right) agrees here
      rfl rfl rfl (if_pos (drawn _ _ here)))
  | @infected victim other fetched held there apart enemy =>
    -- The attacker looks as before; the victim is drawn as one of the attacker's species.
    have acted : (b.put slot (c.afterInfection (address + 1))).Shows .dark :=
      shown.of_tiles rfl (map_put here rfl) rfl
    have there' := (getElem?_put_of_ne apart (c.afterInfection (address + 1))).trans there
    exact shows_dark_iff.1 (acted.put (d := other.converted c) (agrees.put here rfl) there' rfl rfl rfl
      (if_pos (drawn _ _ there)))
  | blocked | spared | capped | endless | coinless => exact paused _ _

theorem Drawn.of_same (drawn : b.Drawn) (same : ∀ i : Nat,
    (after.creatures[i]?).map Creature.drawn = (b.creatures[i]?).map Creature.drawn) :
    after.Drawn := by
  intro i e there
  have before := same i
  rw [there, Option.map_some] at before
  obtain ⟨e', found, alike⟩ := Option.map_eq_some_iff.1 before.symm
  rw [← alike]
  exact drawn _ _ found

theorem Turned.drawn [CoinSource σ] {address : Int} {coin : σ} {result : Except Fault Action}
    (turned : Turned b slot c address coin result after) (here : b.creatures[slot]? = some c)
    (drawn : b.Drawn) : after.Drawn :=
  drawn.of_same (turned.map_eq here (fun _ => rfl) (fun _ => rfl) (fun _ _ => rfl) (fun _ => rfl)
    fun _ => rfl)

end Board

end Vivarium
