import Vivarium.Proofs.Board.Retarget
import Vivarium.Proofs.Colony.Disguise

/-!
# Colonies with targets past the end

Replacing targets past the end by one, in the programs of any species of the roster, makes no
difference to a colony. `performAll_retarget` says so of every sequence of operations: they have the
same results, and they leave colonies that differ in those targets only.
-/

namespace Vivarium.Colony

variable {κ : Type} {chosen : Nat → Bool}

/-! ## Colonies -/

/-- The colony with the targets replaced in the programs of the chosen species, in the roster and
on the board. -/
def retarget (chosen : Nat → Bool) (c : Colony κ) : Colony κ :=
  { c with
    roster := c.roster.mapIdx fun number species => (Lineage.retarget chosen ⟨number, species⟩).species
    board := c.board.retarget chosen }

theorem size_roster_retarget (c : Colony κ) :
    (c.retarget chosen).roster.size = c.roster.size := Array.size_mapIdx

theorem settings_retarget (c : Colony κ) : (c.retarget chosen).settings = c.settings := rfl

theorem nextId_retarget (c : Colony κ) : (c.retarget chosen).nextId = c.nextId := rfl

theorem lineage?_retarget (c : Colony κ) (number : Nat) :
    (c.retarget chosen).lineage? number =
      (c.lineage? number).map (Lineage.retarget chosen) := by
  have whole (species : Species) :
      Lineage.mk number (Lineage.retarget chosen ⟨number, species⟩).species =
        Lineage.retarget chosen ⟨number, species⟩ := by
    rw [Lineage.retarget]
    split <;> rfl
  rw [lineage?, lineage?, retarget, Array.getElem?_mapIdx, Option.map_map, Option.map_map]
  exact congrArg (fun f => (c.roster[number]?).map f) (funext whole)

/-! ## Counts -/

theorem labels_retarget (c : Colony κ) : (c.retarget chosen).labels = c.labels := by
  have names : (c.retarget chosen).roster.map Species.name = c.roster.map Species.name := by
    apply Array.ext_getElem?
    intro i
    rw [Array.getElem?_map, Array.getElem?_map, retarget, Array.getElem?_mapIdx, Option.map_map]
    refine congrArg (fun f => (c.roster[i]?).map f) (funext fun species => ?_)
    show (Lineage.retarget chosen ⟨i, species⟩).species.name = species.name
    rw [Lineage.retarget]
    split <;> rfl
  rw [labels, labels, ← Array.toList_map, ← Array.toList_map, names]

theorem sameTally_retarget (c : Colony κ) : SameTally c (c.retarget chosen) where
  labels := c.labels_retarget
  tallies := by
    show (c.board.retarget chosen).creatures.toList.map tally = _
    rw [Board.retarget_eq_revise, map_tally_revise]

/-! ## What is seen of a colony -/

/-- What is seen of a creature: its number, the number of its species, where it stands and looks,
its counter, its moves and its infections. -/
def row (d : Creature) : Int × Nat × Position × Direction × Int × Nat × Nat :=
  (d.id, d.lineage.number, d.position, d.direction, d.counter, d.moves, d.infections)

/-- Two colonies in which the same is seen: all but the programs of their species. -/
structure Alike (c d : Colony κ) : Prop where
  rows : d.board.creatures.map row = c.board.creatures.map row
  grid : d.board.grid = c.board.grid
  drawings : d.board.drawings = c.board.drawings
  journal : d.board.journal = c.board.journal
  coin : d.board.coin = c.board.coin
  labels : d.labels = c.labels
  counts : d.counts = c.counts
  reports : d.reports = c.reports
  sleeps : d.sleeps = c.sleeps
  nextId : d.nextId = c.nextId

theorem retarget_alike (c : Colony κ) : c.Alike (c.retarget chosen) where
  rows := by
    show (c.board.creatures.map (Creature.retarget chosen)).map row = _
    rw [Array.map_map]
    refine congrArg (fun f => c.board.creatures.map f) (funext fun d => ?_)
    show row (d.retarget chosen) = row d
    rw [row, row, Creature.retarget, Lineage.number_retarget]
  grid := rfl
  drawings := rfl
  journal := rfl
  coin := rfl
  labels := c.labels_retarget
  counts := c.sameTally_retarget.counts_eq
  reports := rfl
  sleeps := rfl
  nextId := rfl

/-! ## Placing creatures -/

/-- The chosen species are in the roster. -/
def Lists (c : Colony κ) (chosen : Nat → Bool) : Prop :=
  ∀ number, chosen number = true → number < c.roster.size

theorem enlist_retarget {c : Colony κ} (lists : c.Lists chosen) (recruit : Recruit) :
    (c.retarget chosen).enlist recruit =
      ((c.enlist recruit).1.map (Lineage.retarget chosen),
        (c.enlist recruit).2.retarget chosen) := by
  cases recruit with
  | listed number =>
    rw [enlist, enlist, lineage?_retarget]
  | new species =>
    -- The new species comes after all that were chosen, so none of its targets is replaced.
    have unchosen : chosen c.roster.size = false := by
      cases picked : chosen c.roster.size with
      | false => rfl
      | true => exact absurd (lists _ picked) (Nat.lt_irrefl _)
    have same : Lineage.retarget chosen ⟨c.roster.size, species⟩ = ⟨c.roster.size, species⟩ := by
      rw [Lineage.retarget, unchosen]
      rfl
    have roster : (c.retarget chosen).roster.push species =
        (({ c with roster := c.roster.push species } : Colony κ).retarget chosen).roster := by
      simp only [retarget, Array.mapIdx_push, same]
    rw [enlist, enlist, size_roster_retarget, roster, Option.map_some, same]
    rfl

theorem add_retarget {c : Colony κ} (lists : c.Lists chosen) (recruit : Recruit)
    (position : Option Position) (direction : Value) :
    (c.retarget chosen).add recruit position direction =
      ((c.add recruit position direction).1,
        (c.add recruit position direction).2.retarget chosen) := by
  rw [add, add, enlist_retarget lists]
  generalize c.enlist recruit = enlisted
  obtain ⟨lineage, colony⟩ := enlisted
  have placed : (colony.retarget chosen).board.place
      ⟨lineage.map (Lineage.retarget chosen), position, direction, colony.settings.turnLimit,
        colony.nextId, true⟩ =
      (colony.board.place ⟨lineage, position, direction, colony.settings.turnLimit, colony.nextId,
        true⟩).map (Board.retarget chosen) :=
    colony.board.place_retarget ⟨lineage, position, direction, colony.settings.turnLimit,
      colony.nextId, true⟩
  simp only [settings_retarget, nextId_retarget, placed]
  cases colony.board.place ⟨lineage, position, direction, colony.settings.turnLimit, colony.nextId,
    true⟩ <;> rfl

/-! ## Operations -/

variable [CoinSource κ]

/-- No change takes a species out of the roster. -/
theorem Change.lists {c d : Colony κ} (change : Change c d) (lists : c.Lists chosen) :
    d.Lists chosen := by
  intro number picked
  have inside := lists number picked
  cases change with
  | enlisted species =>
    show number < (c.roster.push species).size
    rw [Array.size_push]
    exact Nat.lt_succ_of_lt inside
  | noted | drew | placed | faced | turned | reported | rested | cleared => exact inside

/-- Targets that are replaced make no difference to what becomes of a colony. -/
def retargeted (chosen : Nat → Bool) : Disguise κ where
  board := Board.retarget chosen
  colony := retarget chosen
  board_eq _ := rfl
  rounds_eq _ := rfl
  pause_eq _ := rfl
  reports_eq _ := rfl
  tally := sameTally_retarget
  withBoard _ _ := rfl
  noted _ _ := rfl
  reported _ _ := rfl
  rested _ _ := rfl
  turned := Board.turn_retarget
  Fits c := c.Lists chosen
  fits_change := Change.lists
  settings_eq _ := rfl
  populates_eq _ := rfl
  grid_eq _ := rfl
  generator_eq _ := rfl
  withGenerator _ _ := rfl
  cleared c := by
    simp only [Colony.cleared, retarget, Board.retarget, List.map_toArray, List.map_nil]
  faced := Board.face_retarget
  added := add_retarget

theorem performAll_eq {c : Colony κ} (lists : c.Lists chosen) (operations : List Operation) :
    (c.retarget chosen).performAll operations =
      ((c.performAll operations).1, (c.performAll operations).2.retarget chosen) :=
  (retargeted chosen).performAll lists operations

/-- Replacing targets past the end by one, in the programs of any species of the roster, makes no
difference: all operations have the same results, one after the other, and the same is seen in the
colonies they leave. These still differ in nothing but the replaced targets. -/
theorem performAll_retarget {c : Colony κ} (lists : c.Lists chosen)
    (operations : List Operation) :
    ((c.retarget chosen).performAll operations).1 = (c.performAll operations).1 ∧
      (c.performAll operations).2.Alike ((c.retarget chosen).performAll operations).2 ∧
      ((c.retarget chosen).performAll operations).2 =
        (c.performAll operations).2.retarget chosen := by
  rw [performAll_eq lists]
  exact ⟨rfl, retarget_alike _, rfl⟩

/-- The last jump of a trap goes past its end; two rounds with a hopper are the same without it. -/
theorem facingLane_retarget :
    facingLane.Lists (· == 1) ∧ trap.program.retarget ≠ trap.program ∧
      ((facingLane.retarget (· == 1)).performAll [.step 0, .step 1]).1 =
        (facingLane.performAll [.step 0, .step 1]).1 := by
  have lists : facingLane.Lists (· == 1) := by
    intro number picked
    rw [beq_iff_eq] at picked
    rw [picked]
    decide +kernel
  exact ⟨lists, by decide +kernel, (performAll_retarget lists [.step 0, .step 1]).1⟩

end Vivarium.Colony
