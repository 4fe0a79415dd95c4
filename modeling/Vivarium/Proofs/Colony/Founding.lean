import Vivarium.Proofs.Board.Footprint
import Vivarium.Proofs.Chance.Seed
import Vivarium.Proofs.Colony.Occupancy
import Vivarium.Proofs.Settings.Validation

/-!
# What is settled at the founding

Settings are checked when a colony is founded and never change. Neither do the size of the grid, the
seed, and whether creatures are placed at random. Where the generator begins again changes only with the
starts that were made, and not at all if a seed was given.

1. `Reachable.valid`: the settings of a reachable colony are checked ones.
2. `performAll_kin`: what else is settled, operations leave alone.
-/

namespace Vivarium

/-! ## Checked settings -/

namespace Settings

variable {s : Settings}

/-- Checked settings give a limit, or none. -/
theorem exists_limit (valid : s.validate = .ok ()) :
    ∃ limit, TurnLimit.ofValue s.turnLimit = .ok limit := by
  by_cases unset : s.turnLimit = .null
  · rw [unset]
    exact ⟨none, rfl⟩
  · have compared := (validate_eq_ok_iff_valid.1 valid).turnLimit.resolve_left unset
    rw [TurnLimit.ofValue, compared]
    · exact ⟨_, rfl⟩
    · exact unset

/-- In checked settings the number of creatures is a number. -/
theorem exists_count (valid : s.validate = .ok ()) : ∃ count, s.count.number? = some count := by
  obtain ⟨count, -, known, -⟩ := Value.compare_eq_ok_iff.1 (validate_eq_ok_iff_valid.1 valid).count
  exact ⟨count, known⟩

end Settings

/-! ## Dice -/

/-- Flips leave dice their start, and dice without another coin get none. -/
theorem Dice.flip_keeps {κ : Type} [CoinSource κ] (dice : Dice κ) :
    dice.generator.SameStart dice.flip.2.generator ∧
      (dice.script = none → dice.flip.2.script = none) := by
  rw [flip]
  split
  · next flipped =>
    refine ⟨.refl dice.generator, fun alone => ?_⟩
    rw [alone] at flipped
    cases flipped
  · exact ⟨dice.generator.flip_sameStart, id⟩

/-! ## Kin -/

namespace Colony

variable {κ : Type} {c d e : Colony κ}

/-- Two colonies that may come from one founding: the same is settled for both. -/
structure Kin (c d : Colony κ) : Prop where
  settings : d.settings = c.settings
  populates : d.populates = c.populates
  /-- The grids are the same but for what is on them. -/
  squares : d.board.grid.clear = c.board.grid.clear
  seed : d.board.coin.generator.seed = c.board.coin.generator.seed
  /-- Some more starts may have been made. -/
  origin : ∃ k, d.board.coin.generator.origin = c.board.coin.generator.origin.after k
  /-- No coin comes to stand in for the generator. -/
  unscripted : c.board.coin.script = none → d.board.coin.script = none

namespace Kin

theorem refl (c : Colony κ) : Kin c c := ⟨rfl, rfl, rfl, rfl, ⟨0, (Origin.after_zero _).symm⟩, id⟩

theorem trans (first : Kin c d) (second : Kin d e) : Kin c e where
  settings := second.settings.trans first.settings
  populates := second.populates.trans first.populates
  squares := second.squares.trans first.squares
  seed := second.seed.trans first.seed
  origin := by
    obtain ⟨j, before⟩ := first.origin
    obtain ⟨k, since⟩ := second.origin
    exact ⟨j + k, by rw [since, before, Origin.after_after]⟩
  unscripted := second.unscripted ∘ first.unscripted

/-- What else differs does not matter. -/
theorem of_same (settings : d.settings = c.settings) (populates : d.populates = c.populates)
    (grid : d.board.grid = c.board.grid) (coin : d.board.coin = c.board.coin) : Kin c d where
  settings := settings
  populates := populates
  squares := by rw [grid]
  seed := by rw [coin]
  origin := ⟨0, by rw [coin, Origin.after_zero]⟩
  unscripted alone := by rw [coin, alone]

theorem width_eq (kin : Kin c d) : d.board.grid.width = c.board.grid.width := by
  have width := congrArg Grid.width kin.squares
  exact width

theorem height_eq (kin : Kin c d) : d.board.grid.height = c.board.grid.height := by
  have height := congrArg Grid.height kin.squares
  exact height

end Kin

/-- Colonies that may come from one founding and have the same roster. -/
structure Twin (c d : Colony κ) : Prop extends Kin c d where
  roster : d.roster = c.roster

namespace Twin

theorem refl (c : Colony κ) : Twin c c := ⟨.refl c, rfl⟩

theorem of_same (settings : d.settings = c.settings) (populates : d.populates = c.populates)
    (grid : d.board.grid = c.board.grid) (coin : d.board.coin = c.board.coin)
    (roster : d.roster = c.roster) : Twin c d :=
  ⟨.of_same settings populates grid coin, roster⟩

theorem trans (first : Twin c d) (second : Twin d e) : Twin c e :=
  ⟨first.toKin.trans second.toKin, second.roster.trans first.roster⟩

end Twin

/-! ## What keeps kin -/

theorem Settles.twin (chain : Settles c d) : c.Twin d := by
  refine chain.keeps (P := c.Twin) ?_ (.refl c)
  intro d e settling twin
  refine twin.trans ?_
  cases settling with
  | noted => exact .of_same rfl rfl rfl rfl rfl
  | drew same =>
    exact ⟨⟨rfl, rfl, rfl, same.seed, ⟨0, same.origin.trans (Origin.after_zero _).symm⟩, id⟩, rfl⟩
  | placed newcomer =>
    rw [Board.insert, Board.draw_eq]
    exact ⟨⟨rfl, rfl, Grid.clear_write .., rfl, ⟨0, (Origin.after_zero _).symm⟩, id⟩, rfl⟩

theorem enlist_kin (c : Colony κ) (recruit : Recruit) : c.Kin (c.enlist recruit).2 := by
  cases recruit <;> exact .of_same rfl rfl rfl rfl

theorem cleared_twin (c : Colony κ) : c.Twin c.cleared where
  settings := rfl
  populates := rfl
  squares := Grid.clear_clear c.board.grid
  seed := rfl
  origin := ⟨1, Generator.origin_startAt _ _⟩
  unscripted := id
  roster := rfl

theorem reset_twin (c : Colony κ) : c.Twin c.reset.2 :=
  (cleared_twin c).trans (inhabit_settles c.cleared).twin

section Operations

variable [CoinSource κ]

theorem Play.twin (play : Play c d) (orderly : c.Orderly) : c.Twin d := by
  cases play with
  | noted | reported | rested => exact .of_same rfl rfl rfl rfl rfl
  | @faced slot e here direction =>
    have there := Board.getElem?_put_self here { e with direction := direction }
    rw [Board.update_eq_put here, Board.redraw_eq there]
    exact .of_same rfl rfl rfl rfl rfl
  | @turned slot e here =>
    obtain ⟨address, coin, comes, turned⟩ := Board.turn_turned orderly.agrees here
    -- Only the jumps on the way to the action flip coins. The action itself flips none.
    have same : (c.board.turn slot).2.coin = coin := turned.coin_eq
    have start : c.board.coin.generator.SameStart (c.board.turn slot).2.coin.generator := by
      rw [same]
      refine comes.coin (P := fun dice => c.board.coin.generator.SameStart dice.generator) ?_
        (.refl c.board.coin.generator)
      intro dice flipped flip start
      cases flip
      exact start.trans dice.flip_keeps.1
    refine ⟨⟨rfl, rfl, turned.clear_eq, start.seed,
      ⟨0, start.origin.trans (Origin.after_zero _).symm⟩, fun alone => ?_⟩, rfl⟩
    · show (c.board.turn slot).2.coin.script = none
      rw [same]
      refine comes.coin (P := fun dice => dice.script = none) ?_ alone
      intro dice flipped flip alone
      cases flip
      exact dice.flip_keeps.2 alone

theorem Plays.twin (chain : Plays c d) (orderly : c.Orderly) : c.Twin d := by
  have both : d.Orderly ∧ c.Twin d := by
    refine chain.keeps (P := fun d => d.Orderly ∧ c.Twin d) ?_ ⟨orderly, .refl c⟩
    intro d e play ⟨orderly, twin⟩
    exact ⟨play.change.orderly orderly, twin.trans (play.twin orderly)⟩
  exact both.2

/-- Whether an operation gives the roster a new species. -/
def Operation.enlists : Operation → Bool
  | .add (.new _) .. => true
  | .add (.listed _) .. | .face .. | .turn .. | .step .. | .run .. | .reset => false

theorem perform_twin (orderly : c.Orderly) {operation : Operation}
    (unlisted : operation.enlists = false) : c.Twin (c.perform operation).2 := by
  cases operation with
  | add recruit position direction =>
    cases recruit with
    | listed number => exact (add_settles c (.listed number) position direction).twin
    | new species => cases unlisted
  | reset => exact reset_twin c
  | face | turn | step | run => exact (perform_plays c rfl).twin orderly

theorem perform_kin (orderly : c.Orderly) (operation : Operation) :
    c.Kin (c.perform operation).2 := by
  cases operation with
  | add recruit position direction =>
    exact (enlist_kin c recruit).trans (add_settles c recruit position direction).twin.toKin
  | face | turn | step | run | reset => exact (perform_twin orderly rfl).toKin

/-- Operations that give no new species to the roster change nothing that is settled. -/
theorem performAll_twin (orderly : c.Orderly) {operations : List Operation}
    (unlisted : ∀ operation ∈ operations, operation.enlists = false) :
    c.Twin (c.performAll operations).2 := by
  induction operations generalizing c with
  | nil => exact .refl c
  | cons operation rest ih =>
    have first := perform_twin orderly (unlisted operation List.mem_cons_self)
    exact first.trans (ih (perform_orderly orderly operation) fun other later =>
      unlisted other (List.mem_cons_of_mem _ later))

/-- Operations change nothing that is settled but the roster. -/
theorem performAll_kin (orderly : c.Orderly) (operations : List Operation) :
    c.Kin (c.performAll operations).2 := by
  induction operations generalizing c with
  | nil => exact .refl c
  | cons operation rest ih =>
    exact (perform_kin orderly operation).trans (ih (perform_orderly orderly operation))

end Operations

/-! ## Founding -/

section Founding

variable {folder : Folder} {settings : Settings} {founding : Founding κ} {roster : List Species}
  {journal : Array Journal.Entry}

/-- A founded colony has the settings, which were checked. -/
theorem settled_of_created (created : (create folder settings founding).1 = .ok c) :
    settings.validate = .ok () ∧ c.settings = settings ∧ c.populates = founding.populates := by
  obtain ⟨valid, roster, journal, empty, -, founded, done⟩ := create_eq_ok_iff.1 created
  obtain ⟨same, populates, -⟩ := unpopulated_eq_ok founded
  have twin := (inhabit_settles empty).twin
  rw [done] at twin
  exact ⟨valid, twin.settings.trans same, twin.populates.trans populates⟩

end Founding

/-! ## Reachable colonies -/

/-- The settings of a reachable colony are checked ones. -/
theorem Reachable.valid [CoinSource κ] (reached : Reachable c) :
    c.settings.validate = .ok () := by
  induction reached with
  | founded created =>
    obtain ⟨valid, same, -⟩ := settled_of_created created
    rw [same]
    exact valid
  | @operated c reached operation ih =>
    rw [(perform_kin reached.orderly operation).settings]
    exact ih

end Colony

end Vivarium
