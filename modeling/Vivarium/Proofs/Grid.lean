import Mathlib.Data.List.Nodup
import Vivarium.Grid
import Vivarium.Proofs.Value

/-!
# A grid is a map from its positions

Squares are kept in one row after the other and found by position. Whatever is done to a grid, each of
its positions has a square of its own, and no other position has one. What fails off the grid tells of the
position, and so fails in another way where a number of it is too long to be written.

1. `ofValues_of_whole`: the grid that is made from whole numbers.
2. `positions_pairwise`, `count_listed`: each position of a grid is listed once, row by row.
3. `Operation` and `lastPut`: what is asked of a grid, and what a square then holds by all that was asked.
4. `offGrid`: how an operation fails off the grid.
5. `Keeps`: what each operation keeps, and `performAll_lastPut`: what all of them come to.
6. `farSquare_unwritable`: a position far off the grid is not reported as being off it.
-/

namespace Vivarium

/-! ## Positions in order -/

namespace Position

/-- Whether a position comes before another, row by row from the top and from the left in a row. -/
def Precedes (p q : Position) : Prop := p.y < q.y ∨ p.y = q.y ∧ p.x < q.x

theorem Precedes.ne {p q : Position} (before : p.Precedes q) : p ≠ q := by
  rintro rfl
  rcases before with less | ⟨-, less⟩ <;> exact absurd less (Int.lt_irrefl _)

/-- Whether a position is on a grid of so many columns and rows. -/
def Within (p : Position) (width height : Nat) : Prop :=
  0 ≤ p.x ∧ p.x < width ∧ 0 ≤ p.y ∧ p.y < height

instance (p : Position) (width height : Nat) : Decidable (p.Within width height) :=
  inferInstanceAs (Decidable (_ ∧ _))

end Position

namespace Grid

variable {α : Type}

/-! ## Grids of whole numbers -/

section Made

variable {width height : Value} {columns rows : Int}

/-- The grid of whole numbers has as many columns and rows, unless it has too many squares. -/
theorem ofValues_of_whole (wide : width.whole? = some columns) (high : height.whole? = some rows)
    (left : 0 < columns) (low : 0 < rows) :
    (ofValues width height : Except Fault (Grid α)) = (checkRoom columns rows).map fun _ =>
      { ofSize columns.toNat rows.toNat (by omega) (by omega) with
        givenWidth := width
        givenHeight := height } := by
  have zero : (Value.int 0).whole? = some 0 := rfl
  have sized : (ofSize? columns rows : Option (Grid α)) =
      some (ofSize columns.toNat rows.toNat (by omega) (by omega)) := dif_pos (by omega)
  rw [ofValues, Value.le_of_whole wide zero, Value.le_of_whole high zero,
    decide_eq_false (Int.not_le.2 left), decide_eq_false (Int.not_le.2 low), Value.toCount, high, wide]
  simp only [bind, Except.bind, Bool.or_self, Bool.false_eq_true, if_false]
  rw [sized]
  cases checkRoom columns rows <;> rfl

theorem checkRoom_eq_error {fault : Fault} (failed : checkRoom columns rows = .error fault) :
    fault = .uncountable ∨ fault = .noRoom := by
  rw [checkRoom] at failed
  split at failed
  · cases failed
    exact .inl rfl
  · split at failed
    · cases failed
      exact .inr rfl
    · cases failed

end Made

/-! ## Squares in order -/

/-- The positions are listed row by row. -/
theorem positions_pairwise (g : Grid α) : g.positions.Pairwise Position.Precedes := by
  refine List.pairwise_map.2 (List.pairwise_lt_range.imp fun {i j} less => ?_)
  have row : i / g.width ≤ j / g.width := Nat.div_le_div_right (Nat.le_of_lt less)
  rcases Nat.lt_or_eq_of_le row with above | same
  · exact .inl (Int.ofNat_lt.2 above)
  · have parts := Nat.div_add_mod i g.width
    have at' := Nat.div_add_mod j g.width
    rw [same] at parts
    exact .inr ⟨congrArg Int.ofNat same, Int.ofNat_lt.2 (by omega)⟩

theorem map_fst_occupants (g : Grid α) :
    g.occupants.map (·.1) = g.positions.filter fun p => (g.get? p).isSome := by
  rw [occupants, List.map_filterMap, ← List.filterMap_eq_filter]
  congr 1
  funext p
  rw [Option.guard]
  cases g.get? p <;> rfl

theorem mem_emptyPositions {g : Grid α} {p : Position} :
    p ∈ g.emptyPositions ↔ g.contains p = true ∧ g.get? p = none := by
  rw [emptyPositions, List.mem_filter, mem_positions, Option.isNone_iff_eq_none]

/-- The occupied squares and the empty ones together are the positions, each of them once. -/
theorem count_listed (g : Grid α) (p : Position) :
    (g.occupants.map (·.1) ++ g.emptyPositions).count p = if g.contains p then 1 else 0 := by
  have distinct : g.positions.Nodup := g.positions_pairwise.imp Position.Precedes.ne
  have parted : (g.occupants.map (·.1) ++ g.emptyPositions).Perm g.positions := by
    have vacant : g.emptyPositions = g.positions.filter fun p => !(g.get? p).isSome := by
      rw [emptyPositions]
      refine List.filter_congr fun p _ => ?_
      cases g.get? p <;> rfl
    rw [map_fst_occupants, vacant]
    exact List.filter_append_perm _ _
  rw [parted.count_eq, distinct.count]
  simp only [mem_positions]

/-! ## Operations -/

theorem check_of_not_contains {g : Grid α} {p : Position} (outside : g.contains p = false) :
    g.check (some p) = .error (g.outside (some p)) := by
  simp [check, outside]

inductive Operation (α : Type) where
  | set (p : Position) (content : Option α)
  | read (p : Position)
  | clear

/-- Performs an operation. The answer is what is on the square that was read. -/
def perform (g : Grid α) : Operation α → Except Fault (Option α) × Grid α
  | .set p content =>
    match g.set (some p) content with
    | .ok after => (.ok none, after)
    | .error fault => (.error fault, g)
  | .read p => (g.read (some p), g)
  | .clear => (.ok none, g.clear)

/-- Performs operations one after the other, also after one that failed. -/
def performAll (g : Grid α) : List (Operation α) → List (Except Fault (Option α)) × Grid α
  | [] => ([], g)
  | operation :: rest =>
    let performed := g.perform operation
    let more := performed.2.performAll rest
    (performed.1 :: more.1, more.2)

/-! ## What they come to -/

/-- What was last put at a position since all squares were last emptied, by the operations so far, the
latest first. -/
def lastPut (p : Position) : List (Operation α) → Option α
  | [] => none
  | .set q content :: earlier => if q = p then content else lastPut p earlier
  | .read _ :: earlier => lastPut p earlier
  | .clear :: _ => none

/-- The fault of a position that is not on a grid of a size. Its message has the coordinates and the size,
and cannot be written if one of them has too many digits. -/
def offGrid (p : Position) (width height : Nat) : Fault :=
  if ∀ n ∈ [p.x, p.y, (width : Int), (height : Int)], n.natAbs < 10 ^ Text.digitLimit then
    .outOfBounds (some p) (.int width) (.int height)
  else .unwritable

/-- What an operation on a grid of a size answers after others, the latest first. -/
def answer (width height : Nat) (past : List (Operation α)) :
    Operation α → Except Fault (Option α)
  | .set p _ => if p.Within width height then .ok none else .error (offGrid p width height)
  | .read p => if p.Within width height then .ok (lastPut p past) else .error (offGrid p width height)
  | .clear => .ok none

def answers (width height : Nat) (past : List (Operation α)) :
    List (Operation α) → List (Except Fault (Option α))
  | [] => []
  | operation :: rest =>
    answer width height past operation :: answers width height (operation :: past) rest

/-- A grid of a size that holds on each square what was last put there. -/
structure Keeps (width height : Nat) (past : List (Operation α)) (g : Grid α) : Prop where
  width_eq : g.width = width
  height_eq : g.height = height
  givenWidth_eq : g.givenWidth = .int width
  givenHeight_eq : g.givenHeight = .int height
  squares : ∀ p, p.Within width height → g.get? p = lastPut p past

namespace Keeps

variable {width height : Nat} {past : List (Operation α)} {g : Grid α} {p : Position}

theorem contains_iff (keeps : Keeps width height past g) :
    g.contains p = true ↔ p.Within width height := by
  rw [Grid.contains_iff, keeps.width_eq, keeps.height_eq]
  rfl

theorem outside_eq (keeps : Keeps width height past g) (p : Position) :
    g.outside (some p) = offGrid p width height := by
  have told : (Option.map Position.coordinates (some p)).getD [] ++ [g.givenWidth, g.givenHeight] =
      [p.x, p.y, (width : Int), (height : Int)].map .int := by
    rw [keeps.givenWidth_eq, keeps.givenHeight_eq]
    rfl
  rw [Grid.outside, told, Fault.telling_of_ints, keeps.givenWidth_eq, keeps.givenHeight_eq, offGrid]

theorem check_eq (keeps : Keeps width height past g) (p : Position) :
    g.check (some p) = if p.Within width height then .ok p else .error (offGrid p width height) := by
  by_cases within : p.Within width height
  · rw [if_pos within, check_of_contains (keeps.contains_iff.2 within)]
  · have outside : g.contains p = false := by
      rw [← Bool.not_eq_true, keeps.contains_iff]
      exact within
    rw [if_neg within, check_of_not_contains outside, keeps.outside_eq]

theorem of_same {h : Grid α} {operation : Operation α} (keeps : Keeps width height past g)
    (frame : h.clear = g.clear)
    (squares : ∀ p, p.Within width height → h.get? p = lastPut p (operation :: past)) :
    Keeps width height (operation :: past) h where
  width_eq := (congrArg Grid.width frame).trans keeps.width_eq
  height_eq := (congrArg Grid.height frame).trans keeps.height_eq
  givenWidth_eq := (congrArg Grid.givenWidth frame).trans keeps.givenWidth_eq
  givenHeight_eq := (congrArg Grid.givenHeight frame).trans keeps.givenHeight_eq
  squares := squares

/-- An operation answers by what was put where, and leaves a grid that holds what was put last. -/
theorem perform (keeps : Keeps width height past g) (operation : Operation α) :
    (g.perform operation).1 = answer width height past operation ∧
      Keeps width height (operation :: past) (g.perform operation).2 := by
  cases operation with
  | set p content =>
    rw [Grid.perform, Grid.set, keeps.check_eq, answer]
    by_cases within : p.Within width height
    · simp only [if_pos within, Except.map]
      refine ⟨trivial, keeps.of_same (clear_write ..) fun q inside => ?_⟩
      rw [get?_write (keeps.contains_iff.2 within), lastPut, keeps.squares q inside]
      simp only [eq_comm]
    · simp only [if_neg within, Except.map]
      refine ⟨trivial, keeps.of_same rfl fun q inside => ?_⟩
      have apart : p ≠ q := fun same => within (same ▸ inside)
      rw [lastPut, if_neg apart, keeps.squares q inside]
  | read p =>
    rw [Grid.perform, Grid.read, keeps.check_eq, answer]
    refine ⟨?_, keeps.of_same rfl keeps.squares⟩
    by_cases within : p.Within width height
    · simp only [if_pos within, Except.map, keeps.squares p within]
    · simp only [if_neg within, Except.map]
  | clear => exact ⟨rfl, keeps.of_same (clear_clear g) fun q _ => get?_clear g q⟩

theorem performAll (keeps : Keeps width height past g) (operations : List (Operation α)) :
    (g.performAll operations).1 = answers width height past operations ∧
      Keeps width height (operations.reverse ++ past) (g.performAll operations).2 := by
  induction operations generalizing past g with
  | nil => exact ⟨rfl, keeps⟩
  | cons operation rest ih =>
    obtain ⟨answered, kept⟩ := keeps.perform operation
    obtain ⟨more, last⟩ := ih kept
    rw [List.reverse_cons, List.append_assoc]
    exact ⟨congrArg₂ List.cons answered more, last⟩

theorem ofSize {width height : Nat} (width_pos : 0 < width) (height_pos : 0 < height) :
    Keeps width height [] (Grid.ofSize width height width_pos height_pos : Grid α) :=
  ⟨rfl, rfl, rfl, rfl, fun p _ => get?_ofSize width_pos height_pos p⟩

end Keeps

/-- Grids of every size, and any operations at any positions, on the grid and off it, one after the
other. The empty grid is the one that is made from the two numbers, if there is room for it. Then:

* every operation answers as a map would: a square that is read holds what was last put there since all
  were emptied, and reading and writing fail off the grid and only there;
* they fail with a fault that says so, unless its message would have a number in it that is too long to
  be written, which is then the fault;
* a write that fails leaves the grid as it is;
* the occupied squares are listed with what they hold, and the empty ones are listed, each row by row,
  and together they are the positions of the grid, each of them once. -/
theorem performAll_lastPut {width height : Nat} (width_pos : 0 < width) (height_pos : 0 < height)
    (operations : List (Operation α)) :
    let start : Grid α := ofSize width height width_pos height_pos
    let g := (start.performAll operations).2
    let held (p : Position) : Option α := lastPut p operations.reverse
    ofValues (.int width) (.int height) = (checkRoom width height).map (fun _ => start) ∧
    (start.performAll operations).1 = answers width height [] operations ∧
    (∀ p content, ¬ p.Within width height →
      g.perform (.set p content) = (.error (offGrid p width height), g)) ∧
    (∀ p a, (p, a) ∈ g.occupants ↔ p.Within width height ∧ held p = some a) ∧
    (∀ p, p ∈ g.emptyPositions ↔ p.Within width height ∧ held p = none) ∧
    (∀ p, (g.occupants.map (·.1) ++ g.emptyPositions).count p =
      if p.Within width height then 1 else 0) ∧
    (g.occupants.map (·.1)).Pairwise Position.Precedes ∧
    g.emptyPositions.Pairwise Position.Precedes := by
  intro start g held
  obtain ⟨answered, keeps⟩ := (Keeps.ofSize (α := α) width_pos height_pos).performAll operations
  rw [List.append_nil] at keeps
  have ordered := g.positions_pairwise
  refine ⟨?_, answered, ?_, ?_, ?_, ?_, ?_, ?_⟩
  · exact ofValues_of_whole rfl rfl (Int.natCast_pos.2 width_pos) (Int.natCast_pos.2 height_pos)
  · intro p content off
    rw [perform, set, keeps.check_eq, if_neg off]
    rfl
  · intro p a
    rw [mem_occupants]
    constructor
    · intro found
      have within := keeps.contains_iff.1 (contains_of_get? found)
      exact ⟨within, (keeps.squares p within).symm.trans found⟩
    · rintro ⟨within, found⟩
      exact (keeps.squares p within).trans found
  · intro p
    rw [mem_emptyPositions, keeps.contains_iff]
    exact and_congr_right fun within => by rw [keeps.squares p within]
  · intro p
    rw [count_listed]
    exact if_congr keeps.contains_iff rfl rfl
  · rw [map_fst_occupants]
    exact ordered.sublist List.filter_sublist
  · exact ordered.sublist List.filter_sublist

/-- On a grid of two columns and one row: a square is put to use once more, another is given up, and
there is no square to the left of the first. -/
theorem twoSquares_lastPut :
    let operations : List (Operation Nat) :=
      [.set ⟨0, 0⟩ (some 7), .set ⟨1, 0⟩ (some 8), .set ⟨-1, 0⟩ (some 9), .set ⟨0, 0⟩ none,
        .set ⟨1, 0⟩ (some 5), .read ⟨1, 0⟩]
    let g := ((ofSize 2 1 Nat.two_pos Nat.one_pos : Grid Nat).performAll operations).2
    (0 < 2 ∧ 0 < 1) ∧ lastPut ⟨1, 0⟩ operations.reverse = some 5 ∧ (⟨1, 0⟩, 5) ∈ g.occupants ∧
      ⟨0, 0⟩ ∈ g.emptyPositions := by
  intro operations g
  obtain ⟨-, -, -, occupied, vacant, -⟩ :=
    performAll_lastPut Nat.two_pos Nat.one_pos operations
  exact ⟨⟨Nat.two_pos, Nat.one_pos⟩, rfl, (occupied ⟨1, 0⟩ 5).2 (by decide),
    (vacant ⟨0, 0⟩).2 (by decide)⟩

/-- Reading a square so far to the right that its column cannot be written does not fail as it does next to
the grid. And of `2 ^ 63` columns there is no grid at all. -/
theorem farSquare_unwritable :
    let g : Grid Nat := ofSize 2 1 Nat.two_pos Nat.one_pos
    let far : Position := ⟨(10 ^ Text.digitLimit : Nat), 0⟩
    g.perform (.read ⟨2, 0⟩) = (.error (.outOfBounds (some ⟨2, 0⟩) (.int 2) (.int 1)), g) ∧
      ¬ far.Within 2 1 ∧ g.perform (.read far) = (.error .unwritable, g) ∧
      (ofValues (.int (2 ^ 63 : Nat)) (.int 1) : Except Fault (Grid Nat)) = .error .uncountable := by
  intro g far
  have keeps : Keeps 2 1 [] g := Keeps.ofSize Nat.two_pos Nat.one_pos
  have short : ∀ n ∈ [(2 : Int), 0, (2 : Nat), (1 : Nat)], n.natAbs < 10 ^ Text.digitLimit := by
    decide +kernel
  have long : ¬ far.x.natAbs < 10 ^ Text.digitLimit := by
    rw [Int.natAbs_natCast]
    exact Nat.lt_irrefl _
  have off : ¬ far.Within 2 1 := by
    rintro ⟨-, low, -⟩
    have high : 1 < 10 ^ Text.digitLimit := Nat.one_lt_pow nofun (by decide)
    exact absurd (Int.ofNat_lt.1 low) (Nat.not_lt.2 high)
  refine ⟨?_, off, ?_, ?_⟩
  · rw [perform, read, keeps.check_eq, if_neg (by decide), offGrid, if_pos short]
    rfl
  · rw [perform, read, keeps.check_eq, if_neg off, offGrid,
      if_neg fun short => long (short _ (List.mem_cons_self ..))]
    rfl
  · rw [ofValues_of_whole rfl rfl (by decide) (by decide)]
    rfl

end Grid

end Vivarium
