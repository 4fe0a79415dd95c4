import Vivarium.Proofs.Board.Outlook

/-!
# A quarter turn of a board

A board turned clockwise by a quarter is as wide as it was high. Its squares and creatures are
elsewhere and look elsewhere, and nothing else of them is changed.

1. `Grid.get?_rotate`, `Grid.write_rotate`: what is read and written on a grid that was turned.
2. `rotate_sameOutlook`: no creature notices that its board was turned.
3. `Turned.rotate`: a turn on the board that was turned makes of it what it makes of the board, turned.
4. `turn_rotate`: so turns, and by `face_rotate` changes from outside, do not depend on how the board
   lies.

Entries of the journal tell of positions in their texts; so a board that is turned is given a journal.
-/

namespace Vivarium

/-! ## Positions -/

namespace Position

/-- Where a position comes to when a rectangle of so many rows is turned clockwise by a quarter. -/
def rotate (rows : Nat) (p : Position) : Position := ⟨rows - 1 - p.y, p.x⟩

/-- Where a position was before a rectangle of so many rows was turned. -/
def unrotate (rows : Nat) (p : Position) : Position := ⟨p.y, rows - 1 - p.x⟩

@[simp] theorem rotate_unrotate (rows : Nat) (p : Position) :
    (p.unrotate rows).rotate rows = p := by
  obtain ⟨x, y⟩ := p
  simp only [rotate, unrotate, sub_sub_cancel]

@[simp] theorem unrotate_rotate (rows : Nat) (p : Position) :
    (p.rotate rows).unrotate rows = p := by
  obtain ⟨x, y⟩ := p
  simp only [rotate, unrotate, sub_sub_cancel]

theorem rotate_inj {rows : Nat} {p q : Position} : p.rotate rows = q.rotate rows ↔ p = q := by
  constructor
  · intro same
    rw [← unrotate_rotate rows p, same, unrotate_rotate]
  · rintro rfl
    rfl

/-- The neighbour to the right of where one looked is where the neighbour that one looked at has come
to. -/
theorem adjacent_rotate (rows : Nat) (p : Position) (d : Direction) :
    (p.rotate rows).adjacent d.right = (p.adjacent d).rotate rows := by
  obtain ⟨x, y⟩ := p
  cases d <;>
    simp only [adjacent, rotate, Direction.right, Direction.dx, Direction.dy, mk.injEq,
      and_true] <;>
    omega

end Position

/-! ## Directions -/

namespace Value

def turnedRight (direction : Value) : Value :=
  match direction.toDirection with
  | .ok d => .int d.right.index
  | .error _ => direction

theorem toDirection_turnedRight (direction : Value) :
    direction.turnedRight.toDirection = direction.toDirection.map Direction.right := by
  rw [turnedRight]
  cases named : direction.toDirection with
  | error fault => rw [named]; rfl
  | ok d => cases d <;> rfl

end Value

/-! ## Grids -/

namespace Grid

variable {α : Type}

/-- The grid turned clockwise by a quarter. -/
def rotate (g : Grid α) : Grid α :=
  let frame : Grid α := ofSize g.height g.width g.height_pos g.width_pos
  { frame with
    givenWidth := g.givenHeight
    givenHeight := g.givenWidth
    cells := (frame.positions.map fun p => g.get? (p.unrotate g.height)).toArray
    size_cells := by simp [frame, positions, ofSize] }

theorem contains_rotate (g : Grid α) (p : Position) :
    g.rotate.contains (p.rotate g.height) = g.contains p := by
  rw [Bool.eq_iff_iff, contains_iff, contains_iff]
  show 0 ≤ (g.height : Int) - 1 - p.y ∧ (g.height : Int) - 1 - p.y < g.height ∧ 0 ≤ p.x ∧
    p.x < g.width ↔ _
  omega

theorem getElem?_cells_rotate {g : Grid α} {i : Nat} (inside : i < g.height * g.width) :
    g.rotate.cells[i]? = some (g.get? ((g.rotate.positionAt i).unrotate g.height)) := by
  show ((List.map _ (List.map _ (List.range (g.height * g.width)))).toArray)[i]? = _
  rw [List.getElem?_toArray, List.getElem?_map, List.getElem?_map, List.getElem?_range inside]
  rfl

/-- A square holds what it held before the grid was turned. -/
theorem get?_rotate (g : Grid α) (p : Position) :
    g.rotate.get? (p.rotate g.height) = g.get? p := by
  cases inside : g.contains p with
  | false => rw [get?_of_not_contains inside, get?_of_not_contains (by rw [contains_rotate, inside])]
  | true =>
    have inside' : g.rotate.contains (p.rotate g.height) = true := by rw [contains_rotate, inside]
    rw [get?, if_pos inside', getElem?_cells_rotate (index_lt inside'), positionAt_index inside',
      Position.unrotate_rotate]
    rfl

theorem clear_rotate (g : Grid α) : g.clear.rotate.clear = g.rotate.clear := rfl

/-- What is written before the grid is turned is written where its square has come to. -/
theorem write_rotate {g : Grid α} {p : Position} (inside : g.contains p = true)
    (content : Option α) :
    (g.write p content).rotate = g.rotate.write (p.rotate g.height) content := by
  refine ext_get? ?_ fun q => ?_
  · rw [clear_write, ← clear_rotate, clear_write, clear_rotate]
  · have inside' : g.rotate.contains (p.rotate g.height) = true := by rw [contains_rotate, inside]
    obtain ⟨q, rfl⟩ : ∃ r : Position, q = r.rotate g.height := ⟨q.unrotate g.height, by simp⟩
    have turned := get?_rotate (g.write p content) q
    rw [height_write] at turned
    rw [turned, get?_write inside, get?_write inside', get?_rotate]
    simp only [Position.rotate_inj]

end Grid

/-! ## Creatures and drawings -/

/-- The creature on a grid of so many rows that was turned clockwise by a quarter. -/
def Creature.rotate (rows : Nat) (c : Creature) : Creature :=
  { c with position := c.position.rotate rows, direction := c.direction.right }

/-- What is drawn of a grid of so many rows that was turned clockwise by a quarter. -/
def Drawing.rotate (rows : Nat) : Drawing → Drawing
  | .square position glyph direction color =>
    .square (position.rotate rows) glyph direction.right color
  | .blank position => .blank (position.rotate rows)

/-- What is seen on a grid of so many rows that was turned clockwise by a quarter. -/
def Sight.rotate (rows : Nat) : Sight → Sight := Sight.mapSlots fun _ => Creature.rotate rows

namespace Creature

theorem ahead_rotate (rows : Nat) (c : Creature) :
    (c.rotate rows).ahead = c.ahead.rotate rows :=
  Position.adjacent_rotate rows c.position c.direction

theorem afterHop_rotate (rows : Nat) (c : Creature) (next : Int) :
    (c.rotate rows).afterHop next = (c.afterHop next).rotate rows := by
  rw [afterHop, ahead_rotate]
  rfl

theorem afterLeft_rotate (rows : Nat) (c : Creature) (next : Int) :
    (c.rotate rows).afterFacing next (c.rotate rows).direction.left =
      (c.afterFacing next c.direction.left).rotate rows := by
  have same : c.direction.right.left = c.direction.left.right := by
    rw [Direction.left_right, Direction.right_left]
  exact congrArg (fun d => (c.rotate rows).afterFacing next d) same

theorem afterRight_rotate (rows : Nat) (c : Creature) (next : Int) :
    (c.rotate rows).afterFacing next (c.rotate rows).direction.right =
      (c.afterFacing next c.direction.right).rotate rows := rfl

theorem afterInfection_rotate (rows : Nat) (c : Creature) (next : Int) :
    (c.rotate rows).afterInfection next = (c.afterInfection next).rotate rows := rfl

theorem converted_rotate (rows : Nat) (other c : Creature) :
    (other.rotate rows).converted (c.rotate rows) = (other.converted c).rotate rows := rfl

end Creature

/-! ## Boards -/

namespace Board

variable {σ : Type} {b : Board σ} {slot : Nat} {c : Creature}

/-- The board turned clockwise by a quarter, with a journal. -/
def rotate (b : Board σ) (journal : Array Journal.Entry) : Board σ where
  grid := b.grid.rotate
  creatures := b.creatures.map (Creature.rotate b.grid.height)
  drawings := b.drawings.map (Drawing.rotate b.grid.height)
  journal := journal
  coin := b.coin

variable (journal : Array Journal.Entry)

theorem getElem?_rotate (b : Board σ) (i : Nat) : (b.rotate journal).creatures[i]? =
    (b.creatures[i]?).map (Creature.rotate b.grid.height) := Array.getElem?_map

theorem getElem?_rotate_of_some (here : b.creatures[slot]? = some c) :
    (b.rotate journal).creatures[slot]? = some (c.rotate b.grid.height) := by
  rw [getElem?_rotate, here]
  rfl

theorem contains_ahead_rotate (b : Board σ) (c : Creature) :
    (b.rotate journal).grid.contains (c.rotate b.grid.height).ahead = b.grid.contains c.ahead := by
  rw [Creature.ahead_rotate]
  exact b.grid.contains_rotate c.ahead

theorem get?_ahead_rotate (b : Board σ) (c : Creature) :
    (b.rotate journal).grid.get? (c.rotate b.grid.height).ahead = b.grid.get? c.ahead := by
  rw [Creature.ahead_rotate]
  exact b.grid.get?_rotate c.ahead

/-- Squares and creatures still agree on who stands where. -/
theorem Agrees.rotate (agrees : b.Agrees) : (b.rotate journal).Agrees := by
  constructor
  · intro slot d here
    rw [getElem?_rotate] at here
    obtain ⟨c, found, rfl⟩ := Option.map_eq_some_iff.1 here
    exact (b.grid.get?_rotate c.position).trans (agrees.holds found)
  · intro p slot held
    have back : p = (p.unrotate b.grid.height).rotate b.grid.height := by simp
    rw [back] at held
    obtain ⟨c, found, stands⟩ := agrees.stands ((b.grid.get?_rotate _).symm.trans held)
    refine ⟨_, getElem?_rotate_of_some journal found, ?_⟩
    rw [back, ← stands]
    rfl

/-! ## Changes of creatures -/

/-- A change of a creature that does the same to it before and after its board is turned. -/
theorem update_rotate (b : Board σ) (slot : Nat) {f g : Creature → Creature}
    (same : ∀ c, g (c.rotate b.grid.height) = (f c).rotate b.grid.height) :
    (b.rotate journal).update slot g = (b.update slot f).rotate journal := by
  have creatures : (b.creatures.map (Creature.rotate b.grid.height)).modify slot g =
      (b.creatures.modify slot f).map (Creature.rotate b.grid.height) := by
    apply Array.ext_getElem?
    intro i
    rw [Array.getElem?_modify, Array.getElem?_map, Array.getElem?_map, Array.getElem?_modify]
    split
    · rw [Option.map_map, Option.map_map]
      exact congrArg (fun h => (b.creatures[i]?).map h) (funext same)
    · rfl
  exact congrArg (fun creatures => { b.rotate journal with creatures := creatures }) creatures

theorem paused_rotate (b : Board σ) (slot : Nat) (counter : Int) (coin : σ) :
    (b.rotate journal).paused slot counter coin = (b.paused slot counter coin).rotate journal :=
  congrArg (fun x : Board σ => { x with coin := coin })
    (update_rotate journal b slot (f := fun d => { d with counter := counter }) fun _ => rfl)

theorem put_rotate (b : Board σ) (slot : Nat) (d : Creature) :
    (b.rotate journal).put slot (d.rotate b.grid.height) = (b.put slot d).rotate journal :=
  congrArg (fun creatures => { b.rotate journal with creatures := creatures })
    Array.map_setIfInBounds.symm

/-- What was drawn, and what more is if it is to be drawn. -/
theorem drawings_rotate (drawings : Array Drawing) (rows : Nat) (drawn : Bool) (d : Drawing) :
    (if drawn then (drawings.map (Drawing.rotate rows)).push (d.rotate rows)
      else drawings.map (Drawing.rotate rows)) =
      (if drawn then drawings.push d else drawings).map (Drawing.rotate rows) := by
  cases drawn with
  | true => exact Array.map_push.symm
  | false => rfl

theorem drawings_rotate_twice (drawings : Array Drawing) (rows : Nat) (drawn : Bool)
    (d e : Drawing) :
    (if drawn then ((drawings.map (Drawing.rotate rows)).push (d.rotate rows)).push (e.rotate rows)
      else drawings.map (Drawing.rotate rows)) =
      (if drawn then (drawings.push d).push e else drawings).map (Drawing.rotate rows) := by
  cases drawn with
  | true =>
    rw [if_pos rfl, if_pos rfl, Array.map_push, Array.map_push]
  | false => rfl

theorem faced_rotate (b : Board σ) (slot : Nat) (d : Creature) :
    (b.rotate journal).faced slot (d.rotate b.grid.height) = (b.faced slot d).rotate journal := by
  rw [faced, put_rotate]
  exact congrArg (fun drawings => { (b.put slot d).rotate journal with drawings := drawings })
    (drawings_rotate b.drawings b.grid.height d.drawn d.drawing)

theorem redraw_rotate (b : Board σ) (slot : Nat) :
    (b.rotate journal).redraw slot = (b.redraw slot).rotate journal := by
  cases here : b.creatures[slot]? with
  | none =>
    have nobody : (b.rotate journal).creatures[slot]? = none := by rw [getElem?_rotate, here]; rfl
    simp only [redraw, here, nobody]
  | some c =>
    rw [redraw_eq here, redraw_eq (getElem?_rotate_of_some journal here)]
    exact congrArg (fun drawings => { b.rotate journal with drawings := drawings })
      (drawings_rotate b.drawings b.grid.height c.drawn c.drawing)

/-- A hop on the board that was turned. -/
theorem hopped_rotate (inside : b.grid.contains c.ahead = true)
    (standing : b.grid.contains c.position = true) (slot : Nat) (next : Int) (coin : σ) :
    ({ b.put slot (c.afterHop next) with
        grid := (b.grid.write c.position none).write c.ahead (some slot)
        drawings :=
          if c.drawn then
            (b.drawings.push (.blank c.position)).push (c.afterHop next).drawing
          else b.drawings
        coin := coin } : Board σ).rotate journal =
      { (b.rotate journal).put slot ((c.rotate b.grid.height).afterHop next) with
        grid := ((b.rotate journal).grid.write (c.rotate b.grid.height).position none).write
          (c.rotate b.grid.height).ahead (some slot)
        drawings :=
          if (c.rotate b.grid.height).drawn then
            ((b.rotate journal).drawings.push (.blank (c.rotate b.grid.height).position)).push
              ((c.rotate b.grid.height).afterHop next).drawing
          else (b.rotate journal).drawings
        coin := coin } := by
  have inside' : (b.grid.write c.position none).contains c.ahead = true := by
    rw [Grid.contains_write, inside]
  have grid : ((b.grid.write c.position none).write c.ahead (some slot)).rotate =
      ((b.rotate journal).grid.write (c.rotate b.grid.height).position none).write
        (c.rotate b.grid.height).ahead (some slot) := by
    rw [Grid.write_rotate inside', Grid.height_write, Grid.write_rotate standing,
      Creature.ahead_rotate]
    rfl
  have drawings := drawings_rotate_twice b.drawings b.grid.height c.drawn (.blank c.position)
    (c.afterHop next).drawing
  rw [Creature.afterHop_rotate, put_rotate, ← grid]
  simp only [rotate, Grid.height_write, ← drawings]
  rfl

/-- An infection on the board that was turned. -/
theorem infected_rotate (b : Board σ) (slot victim : Nat) (c other : Creature) (next : Int)
    (entry entry' : Journal.Entry) (coin : σ) :
    ({ (b.put slot (c.afterInfection next)).put victim (other.converted c) with
        drawings := if other.drawn then b.drawings.push (other.converted c).drawing else b.drawings
        journal := b.journal.push entry
        coin := coin } : Board σ).rotate (journal.push entry') =
      { ((b.rotate journal).put slot ((c.rotate b.grid.height).afterInfection next)).put victim
          ((other.rotate b.grid.height).converted (c.rotate b.grid.height)) with
        drawings :=
          if (other.rotate b.grid.height).drawn then
            (b.rotate journal).drawings.push
              ((other.rotate b.grid.height).converted (c.rotate b.grid.height)).drawing
          else (b.rotate journal).drawings
        journal := (b.rotate journal).journal.push entry'
        coin := coin } := by
  have drawings := drawings_rotate b.drawings b.grid.height other.drawn (other.converted c).drawing
  have put : ((b.put slot (c.afterInfection next)).rotate journal).put victim
      ((other.converted c).rotate b.grid.height) = _ :=
    put_rotate journal (b.put slot (c.afterInfection next)) victim (other.converted c)
  rw [Creature.afterInfection_rotate, put_rotate, Creature.converted_rotate, put]
  exact congrArg (fun drawings =>
    ({ ((b.put slot (c.afterInfection next)).put victim (other.converted c)).rotate journal with
      drawings := drawings
      journal := journal.push entry'
      coin := coin } : Board σ)) drawings.symm

/-! ## Changes from outside -/

/-- Turning a creature to a direction does not depend on how the board lies either. -/
theorem face_rotate (b : Board σ) (slot : Nat) (direction : Value)
    (journal : Array Journal.Entry) :
    (b.rotate journal).face slot (direction.turnedRight) =
      (b.face slot direction).map fun after => after.rotate journal := by
  rw [face, face, creature, creature, getElem?_rotate, Value.toDirection_turnedRight]
  cases here : b.creatures[slot]? with
  | none => rfl
  | some c =>
    cases direction.toDirection with
    | error fault => rfl
    | ok d =>
      have faced := update_rotate journal b slot (f := fun e => { e with direction := d })
        (g := fun e => { e with direction := d.right }) fun _ => rfl
      show Except.ok (((b.rotate journal).update slot _).redraw slot) = _
      rw [faced, redraw_rotate]
      rfl

/-! ## Turns -/

/-- The same is seen, turned. -/
theorem Sees.rotate {seen : Sight} (sees : b.Sees c seen) :
    (b.rotate journal).Sees (c.rotate b.grid.height) (seen.rotate b.grid.height) := by
  cases sees with
  | wall outside => exact .wall ((contains_ahead_rotate journal b c).trans outside)
  | empty inside free =>
    exact .empty ((contains_ahead_rotate journal b c).trans inside)
      ((get?_ahead_rotate journal b c).trans free)
  | creature held there =>
    exact .creature ((get?_ahead_rotate journal b c).trans held)
      (getElem?_rotate_of_some journal there)

/-- No creature notices that its board was turned. -/
theorem rotate_sameOutlook (agrees : b.Agrees) (c : Creature) :
    b.SameOutlook c (b.rotate journal) (c.rotate b.grid.height) := by
  obtain ⟨seen, -, sees⟩ := agrees.sight c
  exact ⟨rfl, rfl, rfl, rfl, rfl, seen, _, sees, sees.rotate journal,
    holds_of_slots (f := fun _ => Creature.rotate b.grid.height) (fun _ _ => rfl) rfl seen⟩

variable [CoinSource σ] {address : Int} {coin : σ} {result : Except Fault Action} {after : Board σ}

/-- What a quarter turn makes of what a turn makes of the board, a turn makes of the board that was
turned by a quarter. -/
theorem Turned.rotate (turned : Turned b slot c address coin result after) (agrees : b.Agrees)
    (here : b.creatures[slot]? = some c) :
    ∃ journal', Turned (b.rotate journal) slot (c.rotate b.grid.height) address coin result
      (after.rotate journal') := by
  have contains := contains_ahead_rotate journal b c
  have held_eq := get?_ahead_rotate journal b c
  have paused := paused_rotate journal b slot
  cases turned with
  | hopped fetched inside free =>
    refine ⟨journal, ?_⟩
    rw [hopped_rotate journal inside (agrees.contains here)]
    exact .hopped fetched (contains.trans inside) (held_eq.trans free)
  | left fetched =>
    refine ⟨journal, ?_⟩
    show Turned _ _ _ _ _ _
      { (b.faced slot (c.afterFacing (address + 1) c.direction.left)).rotate journal with
        coin := coin }
    rw [← faced_rotate, ← Creature.afterLeft_rotate]
    exact .left fetched
  | right fetched =>
    refine ⟨journal, ?_⟩
    show Turned _ _ _ _ _ _
      { (b.faced slot (c.afterFacing (address + 1) c.direction.right)).rotate journal with
        coin := coin }
    rw [← faced_rotate, ← Creature.afterRight_rotate]
    exact .right fetched
  | @infected victim other fetched held there apart enemy =>
    refine ⟨journal.push (infection (c.rotate b.grid.height) (other.rotate b.grid.height)), ?_⟩
    rw [infected_rotate]
    exact .infected fetched (held_eq.trans held) (getElem?_rotate_of_some journal there) apart enemy
  | blocked fetched taken =>
    exact ⟨journal, paused _ coin ▸ .blocked fetched (by rw [contains, held_eq]; exact taken)⟩
  | spared fetched harmless =>
    refine ⟨journal, paused _ coin ▸ .spared fetched fun victim other held there => ?_⟩
    rw [getElem?_rotate] at there
    obtain ⟨d, found, rfl⟩ := Option.map_eq_some_iff.1 there
    exact harmless victim d (held_eq.symm.trans held) found
  | capped limited => exact ⟨journal, paused _ coin ▸ .capped limited⟩
  | endless unlimited => exact ⟨journal, paused _ coin ▸ .endless unlimited⟩
  | coinless missing => exact ⟨journal, paused _ coin ▸ .coinless missing⟩

/-- A turn does not depend on how the board lies. -/
theorem turn_rotate (agrees : b.Agrees) (slot : Nat) (journal : Array Journal.Entry) :
    ∃ journal', (b.rotate journal).turn slot =
      ((b.turn slot).1, (b.turn slot).2.rotate journal') := by
  cases here : b.creatures[slot]? with
  | none =>
    have nobody : (b.rotate journal).creatures[slot]? = none := by rw [getElem?_rotate, here]; rfl
    refine ⟨journal, ?_⟩
    simp only [turn, here, nobody]
  | some c =>
    have here' := getElem?_rotate_of_some journal here
    obtain ⟨address, coin, same, turned, turned'⟩ :=
      (rotate_sameOutlook journal agrees c).turn agrees (agrees.rotate journal) here here'
    obtain ⟨journal', rotated⟩ := turned.rotate journal agrees here
    exact ⟨journal', Prod.ext same (turned'.unique rotated)⟩

end Board

end Vivarium
