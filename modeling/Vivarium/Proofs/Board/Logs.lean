import Vivarium.Proofs.Board.Limit
import Vivarium.Proofs.Board.Retarget

/-!
# What was drawn and noted before

What happens on a board is written down: squares are drawn and the journal gets entries. Nothing that
was written down is ever looked at. `Board.recalling` puts earlier logs in front of those of a board,
and whatever is done to the board does the same and leaves the same, but for these logs.

1. `perform_recalling`, `stride_recalling`: actions and instructions look at no log.
2. `turn_recalling`: so neither does a turn.
3. `place_recalling`, `face_recalling`: nor a change from outside.
-/

namespace Vivarium

/-- What was written down: what was drawn, and the journal. -/
structure Logs where
  drawings : Array Drawing
  journal : Array Journal.Entry

namespace Board

variable {σ : Type} {b : Board σ} {slot : Nat} {c : Creature} (logs : Logs)

/-- The board with logs in front of its own. -/
def recalling (b : Board σ) (logs : Logs) : Board σ :=
  { b with
    drawings := logs.drawings ++ b.drawings
    journal := logs.journal ++ b.journal }

/-! ## Writing down -/

theorem draw_recalling (b : Board σ) (drawn : Bool) (d : Drawing) :
    (b.recalling logs).draw drawn d = (b.draw drawn d).recalling logs := by
  rw [draw, draw]
  split
  · exact congrArg (fun drawings => { b.recalling logs with drawings := drawings }) Array.push_append
  · rfl

theorem redraw_recalling (b : Board σ) (slot : Nat) :
    (b.recalling logs).redraw slot = (b.redraw slot).recalling logs := by
  have creatures : (b.recalling logs).creatures = b.creatures := rfl
  rw [redraw, redraw, creatures]
  cases b.creatures[slot]? with
  | none => rfl
  | some c => exact draw_recalling logs b c.drawn c.drawing

theorem note_recalling (b : Board σ) (entry : Journal.Entry) :
    (b.recalling logs).note entry = (b.note entry).recalling logs :=
  congrArg (fun journal => { b.recalling logs with journal := journal }) Array.push_append

theorem update_recalling (b : Board σ) (slot : Nat) (f : Creature → Creature) :
    (b.recalling logs).update slot f = (b.update slot f).recalling logs := rfl

theorem redraw_update_recalling (b : Board σ) (slot : Nat) (f : Creature → Creature) :
    ((b.recalling logs).update slot f).redraw slot =
      ((b.update slot f).redraw slot).recalling logs :=
  redraw_recalling logs (b.update slot f) slot

theorem setCounter_recalling (b : Board σ) (slot : Nat) (counter : Int) :
    (b.recalling logs).setCounter slot counter = (b.setCounter slot counter).recalling logs := rfl

theorem sight_recalling (b : Board σ) (c : Creature) : (b.recalling logs).sight c = b.sight c := rfl

/-! ## Actions -/

theorem move_recalling (b : Board σ) (slot : Nat) (c : Creature) (target : Position) :
    (b.recalling logs).move slot c target =
      ((b.move slot c target).1, (b.move slot c target).2.recalling logs) := by
  rw [move, move, draw_recalling]
  generalize b.draw c.drawn (.blank c.position) = left
  have grid : (left.recalling logs).grid = left.grid := rfl
  simp only [grid]
  cases left.grid.set (some c.position) none with
  | error fault => rfl
  | ok emptied =>
    dsimp only
    cases emptied.set (some target) (some slot) with
    | error fault => rfl
    | ok taken =>
      let gone := ({ left with grid := emptied }.update slot fun d => { d with position := target })
      exact congrArg (Prod.mk _)
        (redraw_update_recalling logs { gone with grid := taken } slot fun d =>
          { d with moves := d.moves + 1 })

theorem infect_recalling (b : Board σ) (slot : Nat) (c : Creature) (victim : Nat)
    (other : Creature) :
    (b.recalling logs).infect slot c victim other =
      (b.infect slot c victim other).recalling logs := by
  simp only [infect, note_recalling, update_recalling, redraw_recalling]

theorem perform_recalling (b : Board σ) (slot : Nat) (c : Creature) (seen : Sight)
    (action : Action) :
    (b.recalling logs).perform slot c seen action =
      ((b.perform slot c seen action).1, (b.perform slot c seen action).2.recalling logs) := by
  simp only [perform, setCounter_recalling]
  generalize b.setCounter slot (c.counter + 1) = next
  cases action with
  | hop =>
    cases seen with
    | wall | creature => rfl
    | empty => exact move_recalling logs next slot c c.ahead
  | left | right => exact congrArg (Prod.mk _) (redraw_update_recalling logs next slot _)
  | infect =>
    cases seen with
    | wall | empty => rfl
    | creature victim other =>
      dsimp only
      split
      · rfl
      · rw [infect_recalling]

/-! ## Changes from outside -/

theorem face_recalling (b : Board σ) (slot : Nat) (direction : Value) :
    (b.recalling logs).face slot direction =
      (b.face slot direction).map fun after => after.recalling logs := by
  have found : (b.recalling logs).creature slot = b.creature slot := rfl
  rw [face, face, found]
  cases b.creature slot with
  | error fault => rfl
  | ok c =>
    cases direction.toDirection with
    | error fault => rfl
    | ok d => exact congrArg Except.ok (redraw_update_recalling logs b slot _)

theorem insert_recalling (b : Board σ) (c : Creature) :
    (b.recalling logs).insert c = (b.insert c).recalling logs :=
  draw_recalling logs
    { b with
      grid := b.grid.write c.position (some b.creatures.size)
      creatures := b.creatures.push c }
    c.drawn c.drawing

theorem place_recalling (b : Board σ) (p : Placement) :
    (b.recalling logs).place p = (b.place p).map fun after => after.recalling logs := by
  have made : (b.recalling logs).creatureFor p = b.creatureFor p := rfl
  rw [place, place, made]
  cases b.creatureFor p with
  | error fault => rfl
  | ok c => exact congrArg Except.ok (insert_recalling logs b c)

/-! ## Turns -/

variable [CoinSource σ]

theorem test_recalling (b : Board σ) (c : Creature) (seen : Sight) (condition : Condition) :
    (b.recalling logs).test c seen condition =
      (b.test c seen condition).map fun tested => (tested.1, tested.2.recalling logs) := by
  cases condition with
  | random =>
    show (CoinSource.flip b.coin).map _ = ((CoinSource.flip b.coin).map _).map _
    rw [Option.map_map]
    rfl
  | empty | wall | same | enemy | always => rfl

theorem follow_recalling (b : Board σ) (slot : Nat) (c : Creature) (seen : Sight)
    (instruction : Instruction) :
    (b.recalling logs).follow slot c seen instruction =
      (b.follow slot c seen instruction).map (recalling · logs) := by
  cases instruction with
  | act action =>
    rw [follow, follow, perform_recalling]
    cases b.perform slot c seen action with
    | mk result after => cases result <;> rfl
  | jump condition target positive =>
    rw [follow, follow, test_recalling]
    cases b.test c seen condition with
    | none => rfl
    | some tested =>
      obtain ⟨taken, after⟩ := tested
      cases taken <;> rfl

theorem stride_recalling (b : Board σ) (slot : Nat) :
    (b.recalling logs).stride slot = (b.stride slot).map (recalling · logs) := by
  rw [stride, stride, update_recalling]
  generalize b.update slot Creature.wrapped = ready
  have creatures : (ready.recalling logs).creatures = ready.creatures := rfl
  simp only [creatures]
  cases ready.creatures[slot]? with
  | none => rfl
  | some c =>
    dsimp only
    rw [execute, execute, sight_recalling]
    cases c.program.fetch c.counter with
    | error fault => rfl
    | ok instruction =>
      cases ready.sight c with
      | error fault => rfl
      | ok seen => exact follow_recalling logs ready slot c seen instruction

theorem run_recalling (slot steps : Nat) (b : Board σ) :
    run slot steps (b.recalling logs) = (run slot steps b).map (recalling · logs) := by
  induction steps generalizing b with
  | zero => rfl
  | succ steps ih =>
    rw [run_succ, run_succ, stride_recalling]
    cases b.stride slot with
    | acted | failed => rfl
    | jumped after => exact ih after

/-- A turn looks at nothing that was written down. -/
theorem turn_recalling (b : Board σ) (slot : Nat) :
    (b.recalling logs).turn slot = ((b.turn slot).1, (b.turn slot).2.recalling logs) := by
  have creatures : (b.recalling logs).creatures = b.creatures := rfl
  rw [turn, turn, creatures]
  cases b.creatures[slot]? with
  | none => rfl
  | some c =>
    have patience : (b.recalling logs).patience c = b.patience c := rfl
    simp only [patience, run_recalling]
    cases run slot (c.limit.elim (b.patience c) TurnLimit.steps) b with
    | acted | failed => rfl
    | unfinished after => cases c.limit <;> rfl

end Board

end Vivarium
