import Vivarium.Value.Number

/-!
# Grids

A grid is a rectangle of squares, at least one, each empty or with something on it. Squares are
read and written by position; a position outside the rectangle holds nothing and cannot be written.
-/

namespace Vivarium

def Position.coordinates (p : Position) : List Value := [.int p.x, .int p.y]

/-- A rectangle of squares, row by row from the top, each with at most one `α` on it. -/
structure Grid (α : Type) where
  width : Nat
  height : Nat
  /-- The width as it was given and is shown: a truth value may have asked for one column. -/
  givenWidth : Value
  /-- The height as it was given and is shown. -/
  givenHeight : Value
  cells : Array (Option α)
  width_pos : 0 < width
  height_pos : 0 < height
  size_cells : cells.size = width * height

namespace Grid

variable {α : Type}

/-! ## Making a grid -/

def ofSize (width height : Nat) (width_pos : 0 < width) (height_pos : 0 < height) : Grid α where
  width := width
  height := height
  givenWidth := .int width
  givenHeight := .int height
  cells := Array.replicate (width * height) none
  width_pos := width_pos
  height_pos := height_pos
  size_cells := Array.size_replicate

/-- The empty grid of a width and a height, if there is one. -/
def ofSize? (width height : Int) : Option (Grid α) :=
  if h : 0 < width.toNat ∧ 0 < height.toNat then
    some (ofSize width.toNat height.toNat h.1 h.2)
  else none

/-- There must be room for the squares of so many columns and rows. -/
def checkRoom (columns rows : Int) : Except Fault Unit :=
  if Value.countLimit ≤ columns then .error .uncountable
  else if Value.room < columns * rows then .error .noRoom
  else .ok ()

/-- The empty grid of a width and a height of any kind. Both must be positive numbers, and then
whole ones; the height is looked at first. -/
def ofValues (width height : Value) : Except Fault (Grid α) := do
  let narrow ← width.le (.int 0)
  let low ← (if narrow then .ok true else height.le (.int 0) : Except Fault Bool)
  if narrow || low then .error (.telling (.emptyGrid width height) [width, height])
  else
    let rows ← height.toCount
    match width.whole? with
    | none => .error (.notRepeatable width.kind)
    | some columns =>
      checkRoom columns rows
      match ofSize? columns rows with
      | some grid => return { grid with givenWidth := width, givenHeight := height }
      | none => .error (.emptyGrid width height)

/-! ## Positions -/

def contains (g : Grid α) (p : Position) : Bool :=
  decide (0 ≤ p.x ∧ p.x < g.width ∧ 0 ≤ p.y ∧ p.y < g.height)

/-- The place of a position of the grid among the squares, row by row. -/
def index (g : Grid α) (p : Position) : Nat :=
  p.y.toNat * g.width + p.x.toNat

def positionAt (g : Grid α) (i : Nat) : Position :=
  ⟨(i % g.width : Nat), (i / g.width : Nat)⟩

def positions (g : Grid α) : List Position :=
  (List.range (g.width * g.height)).map g.positionAt

/-! ## Reading -/

def get? (g : Grid α) (p : Position) : Option α :=
  if g.contains p then g.cells[g.index p]?.join else none

/-- The occupied squares with what is on them, row by row. -/
def occupants (g : Grid α) : List (Position × α) :=
  g.positions.filterMap fun p => (g.get? p).map fun a => (p, a)

/-- The empty squares, row by row. -/
def emptyPositions (g : Grid α) : List Position :=
  g.positions.filter fun p => (g.get? p).isNone

/-! ## Writing -/

/-- The grid with the content of a square replaced. -/
def write (g : Grid α) (p : Position) (content : Option α) : Grid α :=
  if g.contains p then
    { g with
      cells := g.cells.setIfInBounds (g.index p) content
      size_cells := by rw [Array.size_setIfInBounds, g.size_cells] }
  else g

/-- The grid with every square empty. -/
def clear (g : Grid α) : Grid α :=
  { ofSize g.width g.height g.width_pos g.height_pos with
    givenWidth := g.givenWidth
    givenHeight := g.givenHeight }

/-! ## Checked reading and writing -/

def inRange (g : Grid α) (p : Option Position) : Bool :=
  p.any g.contains

/-- The fault of a position that is not given or not on the grid. It tells of the position and of the
size of the grid. -/
def outside (g : Grid α) (p : Option Position) : Fault :=
  .telling (.outOfBounds p g.givenWidth g.givenHeight)
    ((p.map Position.coordinates).getD [] ++ [g.givenWidth, g.givenHeight])

/-- A position that must be given and on the grid. -/
def check (g : Grid α) (p : Option Position) : Except Fault Position :=
  match p with
  | some q => if g.contains q then .ok q else .error (g.outside p)
  | none => .error (g.outside p)

def read (g : Grid α) (p : Option Position) : Except Fault (Option α) :=
  (g.check p).map g.get?

def set (g : Grid α) (p : Option Position) (content : Option α) : Except Fault (Grid α) :=
  (g.check p).map fun q => g.write q content

/-! ## Lemmas -/

theorem contains_iff {g : Grid α} {p : Position} :
    g.contains p = true ↔ 0 ≤ p.x ∧ p.x < g.width ∧ 0 ≤ p.y ∧ p.y < g.height := by
  simp [contains]

theorem index_lt {g : Grid α} {p : Position} (h : g.contains p = true) :
    g.index p < g.width * g.height := by
  obtain ⟨_, _, _, _⟩ := contains_iff.1 h
  have row : p.y.toNat + 1 ≤ g.height := by omega
  have column : p.x.toNat < g.width := by omega
  calc g.index p < p.y.toNat * g.width + g.width := by rw [index]; omega
    _ = (p.y.toNat + 1) * g.width := by rw [Nat.add_mul, Nat.one_mul]
    _ ≤ g.height * g.width := Nat.mul_le_mul_right _ row
    _ = g.width * g.height := Nat.mul_comm ..

theorem positionAt_index {g : Grid α} {p : Position} (h : g.contains p = true) :
    g.positionAt (g.index p) = p := by
  obtain ⟨_, _, _, _⟩ := contains_iff.1 h
  obtain ⟨x, y⟩ := p
  have column : x.toNat < g.width := by
    simp only at *
    omega
  rw [positionAt, index, Nat.add_comm, Nat.add_mul_mod_self_right,
    Nat.add_mul_div_right _ _ g.width_pos, Nat.mod_eq_of_lt column, Nat.div_eq_of_lt column]
  simp only at *
  simp only [Position.mk.injEq]
  omega

@[simp] theorem width_write (g : Grid α) (p : Position) (content : Option α) :
    (g.write p content).width = g.width := by
  rw [write]
  split <;> rfl

@[simp] theorem height_write (g : Grid α) (p : Position) (content : Option α) :
    (g.write p content).height = g.height := by
  rw [write]
  split <;> rfl

@[simp] theorem contains_write (g : Grid α) (p : Position) (content : Option α) (q : Position) :
    (g.write p content).contains q = g.contains q := by
  rw [contains, contains, width_write, height_write]

/-- Positions of the grid with one place are the same. -/
theorem index_injective {g : Grid α} {p q : Position} (hp : g.contains p = true)
    (hq : g.contains q = true) (same : g.index p = g.index q) : p = q := by
  rw [← positionAt_index hp, ← positionAt_index hq, same]

theorem get?_of_not_contains {g : Grid α} {p : Position} (h : g.contains p = false) :
    g.get? p = none := by
  rw [get?, h]
  rfl

theorem contains_of_get? {g : Grid α} {p : Position} {a : α} (h : g.get? p = some a) :
    g.contains p = true := by
  cases inside : g.contains p with
  | true => rfl
  | false =>
    rw [get?_of_not_contains inside] at h
    cases h

/-- A written square holds what was written, every other square what it held. -/
theorem get?_write {g : Grid α} {p : Position} (h : g.contains p = true) (content : Option α)
    (q : Position) : (g.write p content).get? q = if q = p then content else g.get? q := by
  by_cases hq : g.contains q = true
  · have place : (g.write p content).index q = g.index q := by
      rw [index, index, width_write]
    have cells : (g.write p content).cells = g.cells.setIfInBounds (g.index p) content := by
      rw [write, if_pos h]
    have inside : g.index p < g.cells.size := by
      rw [g.size_cells]
      exact index_lt h
    rw [get?, get?, contains_write, hq, place, cells, Array.getElem?_setIfInBounds]
    by_cases same : q = p
    · subst same
      simp [inside]
    · have apart : g.index p ≠ g.index q := fun e => same (index_injective h hq e).symm
      simp [apart, same]
  · have outside : g.contains q = false := by simpa using hq
    have apart : q ≠ p := fun e => hq (e ▸ h)
    rw [if_neg apart, get?_of_not_contains outside, get?_of_not_contains]
    rw [contains_write, outside]

@[simp] theorem get?_ofSize {width height : Nat} (width_pos : 0 < width) (height_pos : 0 < height)
    (p : Position) : (ofSize width height width_pos height_pos : Grid α).get? p = none := by
  have empty : ∀ i : Nat, ((Array.replicate (width * height) (none : Option α))[i]?).join = none := by
    intro i
    rw [Array.getElem?_replicate]
    split <;> rfl
  rw [get?, ofSize, empty, ite_self]

@[simp] theorem get?_clear (g : Grid α) (p : Position) : g.clear.get? p = none :=
  get?_ofSize g.width_pos g.height_pos p

/-- Writing leaves the grid as it is but for its squares. -/
@[simp] theorem clear_write (g : Grid α) (p : Position) (content : Option α) :
    (g.write p content).clear = g.clear := by
  rw [write]
  split <;> rfl

@[simp] theorem clear_clear (g : Grid α) : g.clear.clear = g.clear := rfl

/-- A grid that was made from values is empty. -/
theorem clear_ofValues {width height : Value} {g : Grid α}
    (made : ofValues width height = .ok g) : g.clear = g := by
  obtain ⟨narrow, -, made⟩ := Fault.exists_of_bind_eq_ok made
  obtain ⟨low, -, made⟩ := Fault.exists_of_bind_eq_ok made
  split at made
  · cases made
  · obtain ⟨rows, -, made⟩ := Fault.exists_of_bind_eq_ok made
    split at made
    · cases made
    · next columns _ =>
      obtain ⟨_, -, made⟩ := Fault.exists_of_bind_eq_ok made
      rw [ofSize?] at made
      split at made
      · next grid sized =>
        split at sized
        · cases sized
          cases made
          rfl
        · cases sized
      · cases made

theorem get?_ofValues {width height : Value} {g : Grid α} (made : ofValues width height = .ok g)
    (p : Position) : g.get? p = none := by
  rw [← clear_ofValues made, get?_clear]

theorem check_of_contains {g : Grid α} {p : Position} (h : g.contains p = true) :
    g.check (some p) = .ok p := by
  rw [check, if_pos h]

theorem read_of_contains {g : Grid α} {p : Position} (h : g.contains p = true) :
    g.read (some p) = .ok (g.get? p) := by
  rw [read, check_of_contains h]
  rfl

theorem set_of_contains {g : Grid α} {p : Position} (h : g.contains p = true)
    (content : Option α) : g.set (some p) content = .ok (g.write p content) := by
  rw [set, check_of_contains h]
  rfl

/-- The listed positions are those of the grid. -/
theorem mem_positions {g : Grid α} {p : Position} : p ∈ g.positions ↔ g.contains p = true := by
  rw [positions, List.mem_map]
  constructor
  · rintro ⟨i, inside, rfl⟩
    have column : i % g.width < g.width := Nat.mod_lt _ g.width_pos
    have row : i / g.width < g.height := by
      rw [Nat.div_lt_iff_lt_mul g.width_pos, Nat.mul_comm]
      exact List.mem_range.1 inside
    exact contains_iff.2 ⟨Int.natCast_nonneg _, Int.ofNat_lt.2 column, Int.natCast_nonneg _,
      Int.ofNat_lt.2 row⟩
  · intro h
    exact ⟨g.index p, List.mem_range.2 (index_lt h), positionAt_index h⟩

theorem contains_positionAt {g : Grid α} {i : Nat} (inside : i < g.width * g.height) :
    g.contains (g.positionAt i) = true :=
  mem_positions.1 (List.mem_map_of_mem (List.mem_range.2 inside))

theorem index_positionAt (g : Grid α) (i : Nat) : g.index (g.positionAt i) = i := by
  rw [index, positionAt, Int.toNat_natCast, Int.toNat_natCast, Nat.mul_comm]
  exact Nat.div_add_mod i g.width

/-- The squares are what is read at their positions. -/
theorem getElem?_cells {g : Grid α} {i : Nat} (inside : i < g.width * g.height) :
    g.cells[i]? = some (g.get? (g.positionAt i)) := by
  have within : i < g.cells.size := by rw [g.size_cells]; exact inside
  rw [get?, if_pos (contains_positionAt inside), index_positionAt, Array.getElem?_eq_getElem within]
  rfl

/-- Grids that are the same when emptied and hold the same on every square are the same. -/
theorem ext_get? {g h : Grid α} (frame : g.clear = h.clear) (squares : ∀ p, g.get? p = h.get? p) :
    g = h := by
  simp only [clear, ofSize, mk.injEq] at frame
  obtain ⟨width, height, givenWidth, givenHeight, -⟩ := frame
  have cells : g.cells = h.cells := by
    refine Array.ext_getElem? fun i => ?_
    rcases Nat.lt_or_ge i (g.width * g.height) with inside | outside
    · have place : g.positionAt i = h.positionAt i := by rw [positionAt, positionAt, width]
      have inside' : i < h.width * h.height := by rw [← width, ← height]; exact inside
      rw [getElem?_cells inside, getElem?_cells inside', squares, place]
    · rw [Array.getElem?_eq_none (by rw [g.size_cells]; exact outside),
        Array.getElem?_eq_none (by rw [h.size_cells, ← width, ← height]; exact outside)]
  cases g
  cases h
  cases width
  cases height
  cases cells
  cases givenWidth
  cases givenHeight
  rfl

/-- The listed occupants are what the squares hold. -/
theorem mem_occupants {g : Grid α} {p : Position} {a : α} :
    (p, a) ∈ g.occupants ↔ g.get? p = some a := by
  rw [occupants, List.mem_filterMap]
  constructor
  · rintro ⟨q, -, found⟩
    obtain ⟨b, held, same⟩ := Option.map_eq_some_iff.1 found
    cases same
    exact held
  · intro held
    exact ⟨p, mem_positions.2 (contains_of_get? held), by rw [held]; rfl⟩

end Grid

end Vivarium
