import Vivarium.Proofs.Board.Screen
import Vivarium.Proofs.Colony.Occupancy

/-!
# What a display shows of a colony

A display that was there when a colony was founded is told of every change of a square, but not of the
one that a reset makes: the grid is emptied behind its back.

1. `performAll_inStep`: as long as there is no reset, the display shows the creatures and nothing else.
2. `reset_shows`: after a reset it shows the new creatures, and what it showed before where there are
   none.
3. `reset_inStep_iff`: so after a reset it shows the creatures and nothing else exactly if every square
   that was occupied is occupied again. `facingLane_afterimage` is a reset where none is.
-/

namespace Vivarium.Colony

variable {κ : Type} {c d : Colony κ} {under : Screen}

/-! ## Colonies on display -/

/-- A colony whose creatures are drawn, and which a display shows, with nothing else on it. -/
structure Displayed (c : Colony κ) : Prop where
  orderly : c.Orderly
  drawn : c.board.Drawn
  inStep : c.board.InStep

theorem insert_drawn {e : Creature} (newcomer : c.Newcomer e) (drawn : c.board.Drawn) :
    (c.board.insert e).Drawn := by
  intro slot f here
  rw [Board.insert, Board.draw_eq] at here
  rcases Array.mem_push.1 (Array.mem_of_getElem? here) with old | rfl
  · obtain ⟨i, there⟩ := Array.mem_iff_getElem?.1 old
    exact drawn _ _ there
  · exact newcomer.drawn

/-- Whatever else a display shows, it is told of the creatures that are added. -/
theorem Settles.shows (chain : Settles c d) (orderly : c.Orderly) (shown : c.board.Shows under) :
    d.board.Shows under := by
  have both : d.Orderly ∧ d.board.Shows under := by
    refine chain.keeps (P := fun d => d.Orderly ∧ d.board.Shows under) ?_ ⟨orderly, shown⟩
    intro c d settling ⟨orderly, shown⟩
    cases settling with
    | noted | drew => exact ⟨orderly.of_same rfl rfl rfl rfl, shown⟩
    | placed newcomer =>
      exact ⟨orderly.insert newcomer, shown.insert orderly.agrees newcomer.inside newcomer.drawn⟩
  exact both.2

theorem Settles.drawn (chain : Settles c d) (drawn : c.board.Drawn) : d.board.Drawn := by
  refine chain.keeps (P := fun d => d.board.Drawn) ?_ drawn
  intro c d settling drawn
  cases settling with
  | noted | drew => exact drawn
  | placed newcomer => exact insert_drawn newcomer drawn

theorem Settles.orderly (chain : Settles c d) (orderly : c.Orderly) : d.Orderly := by
  refine chain.keeps (P := Orderly) ?_ orderly
  intro c d settling orderly
  cases settling with
  | noted | drew => exact orderly.of_same rfl rfl rfl rfl
  | placed newcomer => exact orderly.insert newcomer

theorem Settles.displayed (chain : Settles c d) (displayed : c.Displayed) : d.Displayed where
  orderly := chain.orderly displayed.orderly
  drawn := chain.drawn displayed.drawn
  inStep :=
    Board.shows_dark_iff.1 (chain.shows displayed.orderly (Board.shows_dark_iff.2 displayed.inStep))

/-! ## Operations without a reset -/

def Operation.resets : Operation → Bool
  | .reset => true
  | .add .. | .face .. | .turn .. | .step .. | .run .. => false

section Operations

variable [CoinSource κ]

/-- Every play is shown. -/
theorem Play.displayed (play : Play c d) (displayed : c.Displayed) : d.Displayed := by
  obtain ⟨orderly, drawn, inStep⟩ := displayed
  refine ⟨play.change.orderly orderly, ?_, ?_⟩
  · cases play with
    | noted | reported | rested => exact drawn
    | @faced slot e here direction =>
      rw [Board.redraw_update here]
      exact drawn.of_same (Board.map_put (d := { e with direction := direction }) here rfl)
    | @turned slot e here =>
      obtain ⟨address, coin, -, turned⟩ := Board.turn_turned orderly.agrees here
      exact turned.drawn here drawn
  · cases play with
    | noted | reported | rested => exact inStep
    | @faced slot e here direction =>
      rw [Board.redraw_update here]
      have shown := Board.shows_dark_iff.2 inStep
      exact Board.shows_dark_iff.1 (shown.put (d := { e with direction := direction }) orderly.agrees
        here rfl rfl rfl (if_pos (drawn _ _ here)))
    | @turned slot e here =>
      obtain ⟨address, coin, -, turned⟩ := Board.turn_turned orderly.agrees here
      exact turned.inStep orderly.agrees here drawn inStep

/-- Every operation other than a reset is shown, also one that fails. -/
theorem perform_displayed (displayed : c.Displayed) {operation : Operation}
    (kept : operation.resets = false) : (c.perform operation).2.Displayed := by
  cases operation with
  | add recruit position direction =>
    have enlisted : (c.enlist recruit).2.Displayed :=
      ⟨displayed.orderly.of_same (by simp) (by simp) (by simp) (by simp),
        by rw [enlist_board]; exact displayed.drawn, by rw [enlist_board]; exact displayed.inStep⟩
    exact (add_settles c recruit position direction).displayed enlisted
  | face | turn | step | run => exact (perform_plays c rfl).keeps Play.displayed displayed
  | reset => cases kept

theorem performAll_displayed (displayed : c.Displayed) {operations : List Operation}
    (kept : ∀ operation ∈ operations, operation.resets = false) :
    (c.performAll operations).2.Displayed := by
  induction operations generalizing c with
  | nil => exact displayed
  | cons operation rest ih =>
    have first := perform_displayed displayed (kept operation List.mem_cons_self)
    exact ih first fun other later => kept other (List.mem_cons_of_mem _ later)

end Operations

/-! ## Resets -/

/-- After a reset a display shows the creatures, and elsewhere what it showed before. -/
theorem reset_shows (c : Colony κ) : c.reset.2.board.Shows c.board.screen := by
  have cleared : c.cleared.board.Shows c.board.screen := by
    intro p
    rw [Board.view_of_free (c.bare_cleared.get?_eq_none p)]
    rfl
  exact (inhabit_settles c.cleared).shows c.bare_cleared.orderly cleared

theorem reset_orderly_drawn (c : Colony κ) : c.reset.2.Orderly ∧ c.reset.2.board.Drawn := by
  have drawn : c.cleared.board.Drawn := fun _ _ here => by cases here
  exact ⟨(inhabit_settles c.cleared).orderly c.bare_cleared.orderly,
    (inhabit_settles c.cleared).drawn drawn⟩

/-- A founded colony is shown. -/
theorem displayed_of_created {folder : Folder} {settings : Settings} {founding : Founding κ}
    (created : (create folder settings founding).1 = .ok c) : c.Displayed := by
  obtain ⟨-, roster, journal, empty, -, founded, done⟩ := create_eq_ok_iff.1 created
  have chain := inhabit_settles empty
  rw [done] at chain
  have orderly := unpopulated_orderly founded
  obtain ⟨generator, grid, seeded, made, rfl⟩ := made_of_unpopulated founded
  refine chain.displayed ⟨orderly, fun _ _ here => (by cases here), fun p => ?_⟩
  rw [Board.view_of_free (Grid.get?_ofValues made p)]
  rfl

section Founded

variable [CoinSource κ] {folder : Folder} {settings : Settings} {founding : Founding κ}

/-- A founded colony and any operations but resets, also such as fail. What was drawn since the
founding, one drawing after the other on a dark display, shows on every occupied square the glyph and
the colour of the creature's species as it is now and the direction that it faces, and nothing on any
other square. -/
theorem performAll_inStep (created : (create folder settings founding).1 = .ok c)
    {operations : List Operation} (kept : ∀ operation ∈ operations, operation.resets = false)
    {left : Colony κ} (operated : left = (c.performAll operations).2) (p : Position) :
    (∀ slot, left.board.grid.get? p = some slot →
      ∃ d, left.board.creatures[slot]? = some d ∧ d.position = p ∧
        left.board.screen p = some ⟨d.species.glyph, d.direction, d.species.color⟩) ∧
    (left.board.grid.get? p = none → left.board.screen p = none) := by
  obtain ⟨orderly, -, inStep⟩ := performAll_displayed (displayed_of_created created) kept
  rw [← operated] at orderly inStep
  constructor
  · intro slot held
    obtain ⟨d, here, rfl⟩ := orderly.agrees.stands held
    exact ⟨d, here, rfl, (inStep d.position).trans (orderly.agrees.view_self here)⟩
  · intro free
    exact (inStep p).trans (Board.view_of_free free)

/-- A hopper and a trap are added to a lane, the hopper comes up to the trap and is infected: it is
shown with the glyph and the colour of the traps, and its old square is dark. -/
theorem huntedLane_inStep :
    (create .empty lane { roster := some [hopper, trap], populates := false : Founding }).1 =
      .ok emptyLane ∧
    huntedLane.board.screen ⟨1, 0⟩ = some ⟨'T', .east, "red"⟩ ∧
    huntedLane.board.screen ⟨0, 0⟩ = none := by
  have created : (create .empty lane
      { roster := some [hopper, trap], populates := false : Founding }).1 = .ok emptyLane := rfl
  have kept : ∀ operation ∈ [Operation.add (.listed 0) (some ⟨0, 0⟩) (.int 1),
      .add (.listed 1) (some ⟨2, 0⟩) (.int 3), .step 0], operation.resets = false := by decide
  have operated : huntedLane = (emptyLane.performAll
      [.add (.listed 0) (some ⟨0, 0⟩) (.int 1), .add (.listed 1) (some ⟨2, 0⟩) (.int 3),
        .step 0]).2 := rfl
  have shown := performAll_inStep created kept operated
  refine ⟨created, ?_, (shown ⟨0, 0⟩).2 (by decide +kernel)⟩
  obtain ⟨d, here, -, tile⟩ := (shown ⟨1, 0⟩).1 0 (by decide +kernel)
  have looks : (huntedLane.board.creatures[0]?).map Creature.tile =
      some ⟨'T', .east, "red"⟩ := by decide +kernel
  rw [here] at looks
  exact tile.trans looks

end Founded

/-- A display that shows a reachable colony and nothing else, and a reset. On every square the display
then shows the creature that is there, and where there is none, what was there before. So it shows
nothing else exactly if every square that was occupied is occupied again. -/
theorem reset_inStep_iff [CoinSource κ] (reached : Reachable c) (inStep : c.board.InStep) :
    (∀ p, c.reset.2.board.screen p = (c.reset.2.board.view p).or (c.board.view p)) ∧
    (c.reset.2.board.InStep ↔
      ∀ p, c.board.grid.get? p ≠ none → c.reset.2.board.grid.get? p ≠ none) := by
  have before := reached.orderly.agrees
  have after := (reset_orderly_drawn c).1.agrees
  have shown (p : Position) :
      c.reset.2.board.screen p = (c.reset.2.board.view p).or (c.board.view p) := by
    rw [reset_shows c p, inStep p]
  refine ⟨shown, forall_congr' fun p => ?_⟩
  rw [shown, ne_eq, ne_eq, ← before.view_eq_none_iff, ← after.view_eq_none_iff]
  cases c.reset.2.board.view p with
  | none => simp
  | some tile => simp

/-- The lane with the hopper and the trap is shown as it is. -/
theorem facingLane_displayed : facingLane.Displayed := by
  have created : (create .empty lane
      { roster := some [hopper, trap], populates := false : Founding }).1 = .ok emptyLane := rfl
  have kept : ∀ operation ∈ [Operation.add (.listed 0) (some ⟨0, 0⟩) (.int 1),
      .add (.listed 1) (some ⟨2, 0⟩) (.int 3)], operation.resets = false := by decide
  exact performAll_displayed (displayed_of_created created) kept

/-- After a reset it would be shown as it is if both squares were occupied again. -/
theorem facingLane_inStep_iff :
    Reachable facingLane ∧ facingLane.board.InStep ∧
      (facingLane.reset.2.board.InStep ↔
        ∀ p, facingLane.board.grid.get? p ≠ none → facingLane.reset.2.board.grid.get? p ≠ none) :=
  ⟨facingLane_reachable, facingLane_displayed.inStep,
    (reset_inStep_iff facingLane_reachable facingLane_displayed.inStep).2⟩

/-- The reset leaves the lane empty, and the display still shows the hopper. -/
theorem facingLane_afterimage :
    Reachable facingLane ∧ (∀ p, facingLane.board.screen p = facingLane.board.view p) ∧
      facingLane.reset.1 = .ok () ∧ facingLane.reset.2.board.grid.get? ⟨0, 0⟩ = none ∧
      facingLane.reset.2.board.screen ⟨0, 0⟩ = some ⟨'H', .east, "green"⟩ :=
  ⟨facingLane_reachable, facingLane_displayed.inStep, rfl, rfl, by decide +kernel⟩

end Vivarium.Colony
