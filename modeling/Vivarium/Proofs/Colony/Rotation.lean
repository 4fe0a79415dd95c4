import Vivarium.Proofs.Board.Rotation
import Vivarium.Proofs.Colony.Census
import Vivarium.Proofs.Colony.Turn

/-!
# A quarter turn of a colony

Nothing that a colony does depends on how its grid lies. A colony that is turned clockwise by a quarter
gives its creatures the same turns and reports the same rounds; what it leaves is what the colony
leaves, turned by a quarter.

1. `step_rotate`, `playRounds_rotate`, `run_rotate`: one layer of a run of rounds after the other.
2. `performAll_rotate`: any operations on the creatures that are there, one after the other.

The squares and the creatures of the colony must agree on who stands where.
-/

namespace Vivarium.Colony

variable {κ : Type}

/-! ## Colonies that were turned -/

def turnedSettings (s : Settings) : Settings := { s with width := s.height, height := s.width }

def rotate (c : Colony κ) (journal : Array Journal.Entry) : Colony κ :=
  { c with settings := turnedSettings c.settings, board := c.board.rotate journal }

/-- The operation on a colony that was turned. What is asked of a creature is the same, but for a
direction that it is to look in. -/
def Operation.rotate : Operation → Operation
  | .face slot direction => .face slot direction.turnedRight
  | operation => operation

theorem sameTally_rotate (c : Colony κ) (journal : Array Journal.Entry) :
    SameTally c (c.rotate journal) where
  labels := rfl
  tallies := by
    show (c.board.creatures.map (Creature.rotate c.board.grid.height)).toList.map tally = _
    rw [Array.toList_map, List.map_map]
    rfl

theorem withBoard_rotate (c : Colony κ) (board : Board (Dice κ))
    (journal journal' : Array Journal.Entry) :
    (c.rotate journal).withBoard (board.rotate journal') = (c.withBoard board).rotate journal' := rfl

theorem note_rotate (c : Colony κ) (journal : Array Journal.Entry) (entry : Journal.Entry) :
    (c.rotate journal).note entry = (c.note entry).rotate (journal.push entry) := rfl

theorem sleep_rotate (c : Colony κ) (journal : Array Journal.Entry) (clock : Clock) (delay : Value) :
    (c.rotate journal).sleep clock delay = ((c.sleep clock delay).1, (c.sleep clock delay).2.rotate journal) := by
  rw [sleep, sleep]
  split <;> rfl

theorem face_rotate (c : Colony κ) (slot : Nat) (direction : Value)
    (journal : Array Journal.Entry) :
    (c.rotate journal).face slot direction.turnedRight =
      ((c.face slot direction).1, (c.face slot direction).2.rotate journal) := by
  have faced : (c.rotate journal).board.face slot direction.turnedRight = _ :=
    Board.face_rotate c.board slot direction journal
  rw [face, face, faced]
  cases c.board.face slot direction <;> rfl

/-! ## Agreement while a colony plays on -/

variable [CoinSource κ] {c : Colony κ}

theorem Play.agrees {d : Colony κ} (play : Play c d) (agrees : c.board.Agrees) : d.board.Agrees := by
  cases play with
  | noted | reported | rested => exact agrees.of_positions rfl fun _ => rfl
  | @faced slot e here direction =>
    have there := Board.getElem?_put_self here { e with direction := direction }
    rw [Board.update_eq_put here, Board.redraw_eq there]
    exact agrees.of_positions rfl (Board.map_put here rfl)
  | turned here =>
    obtain ⟨address, coin, -, turned⟩ := Board.turn_turned agrees here
    exact turned.agrees agrees here

theorem Plays.agrees {d : Colony κ} (chain : Plays c d) (agrees : c.board.Agrees) :
    d.board.Agrees :=
  chain.keeps Play.agrees agrees

/-! ## Rounds -/

theorem takeTurns_rotate {b : Board (Dice κ)} (agrees : b.Agrees) (slots : List Nat)
    (actions : Table String Nat) (journal : Array Journal.Entry) :
    ∃ journal', takeTurns slots actions (b.rotate journal) =
      ((takeTurns slots actions b).1, (takeTurns slots actions b).2.rotate journal') := by
  induction slots generalizing b actions journal with
  | nil => exact ⟨journal, rfl⟩
  | cons slot rest ih =>
    obtain ⟨journal', turned⟩ := Board.turn_rotate agrees slot journal
    have agrees' : (b.turn slot).2.Agrees := by
      cases here : b.creatures[slot]? with
      | none =>
        rw [Board.turn, here]
        exact agrees
      | some d =>
        obtain ⟨address, coin, -, turned⟩ := Board.turn_turned agrees here
        exact turned.agrees agrees here
    rw [takeTurns, takeTurns, turned]
    cases played : b.turn slot with
    | mk result after =>
      rw [played] at agrees'
      cases result with
      | error fault => exact ⟨journal', rfl⟩
      | ok action => exact ih agrees' _ journal'

theorem step_rotate (agrees : c.board.Agrees) (round : Int) (journal : Array Journal.Entry) :
    ∃ journal', (c.rotate journal).step round =
      ((c.step round).1, (c.step round).2.rotate journal') := by
  obtain ⟨journal', taken⟩ :=
    takeTurns_rotate agrees (List.range c.population) Table.empty journal
  have board : (c.rotate journal).board = c.board.rotate journal := rfl
  rw [step, step, (sameTally_rotate c journal).population_eq, board, taken]
  cases takeTurns (List.range c.population) Table.empty c.board with
  | mk result after =>
    cases result with
    | error fault => exact ⟨journal', rfl⟩
    | ok actions =>
      have same := (sameTally_rotate c journal).report_eq
        (sameTally_rotate (c.withBoard after) journal') round actions
      refine ⟨journal'.push (roundEntry (report c (c.withBoard after) round actions)), ?_⟩
      simp only [withBoard_rotate, same]
      rfl

theorem playRounds_rotate (agrees : c.board.Agrees) (clock : Clock) (delay : Value) (count : Nat) (round : Int)
    (journal : Array Journal.Entry) :
    ∃ journal', playRounds clock delay count round (c.rotate journal) =
      ((playRounds clock delay count round c).1, (playRounds clock delay count round c).2.rotate journal') := by
  induction count generalizing c round journal with
  | zero => exact ⟨journal, rfl⟩
  | succ count ih =>
    have stepped := (step_plays c round).agrees agrees
    obtain ⟨journal', same⟩ := step_rotate agrees round journal
    rw [playRounds, playRounds, same]
    cases played : c.step round with
    | mk result after =>
      rw [played] at stepped
      cases result with
      | error fault => exact ⟨journal', rfl⟩
      | ok r =>
        have rested := (sleep_plays after clock delay).agrees stepped
        simp only [sleep_rotate]
        cases paused : after.sleep clock delay with
        | mk result left =>
          rw [paused] at rested
          cases result with
          | error fault => exact ⟨journal', rfl⟩
          | ok _ =>
            obtain ⟨journal'', more⟩ := ih rested (round + 1) journal'
            refine ⟨journal'', ?_⟩
            simp only [more]
            cases playRounds clock delay count (round + 1) left with
            | mk result last => cases result <;> rfl

theorem run_rotate (agrees : c.board.Agrees) (rounds pause : Option Value)
    (journal : Array Journal.Entry) :
    ∃ journal', (c.rotate journal).run rounds pause =
      ((c.run rounds pause).1, (c.run rounds pause).2.rotate journal') := by
  have settings (r : Option Value) : r.getD (c.rotate journal).settings.rounds =
      r.getD c.settings.rounds := rfl
  have pauses (r : Option Value) : r.getD (c.rotate journal).settings.pause =
      r.getD c.settings.pause := rfl
  have reports : (c.rotate journal).reports = c.reports := rfl
  rw [run, run, settings, pauses, reports]
  cases (rounds.getD c.settings.rounds).toCount with
  | error fault => exact ⟨journal, rfl⟩
  | ok count =>
    obtain ⟨journal', played⟩ := playRounds_rotate agrees .system (pause.getD c.settings.pause)
      count.toNat c.reports.size journal
    simp only [played]
    cases playRounds .system (pause.getD c.settings.pause) count.toNat c.reports.size c with
    | mk result after =>
      cases result with
      | error fault => exact ⟨journal', rfl⟩
      | ok reports =>
        simp only [(sameTally_rotate after journal').finishedEntry_eq, note_rotate]
        exact ⟨_, rfl⟩

/-! ## Operations -/

theorem turn_rotate (agrees : c.board.Agrees) (slot : Nat) (journal : Array Journal.Entry) :
    ∃ journal', (c.rotate journal).turn slot =
      ((c.turn slot).1, (c.turn slot).2.rotate journal') := by
  obtain ⟨journal', turned⟩ := Board.turn_rotate agrees slot journal
  have board : (c.rotate journal).board = c.board.rotate journal := rfl
  rw [turn, turn, board, turned]
  exact ⟨journal', rfl⟩

theorem perform_rotate (agrees : c.board.Agrees) {operation : Operation}
    (plays : operation.plays = true) (journal : Array Journal.Entry) :
    ∃ journal', (c.rotate journal).perform operation.rotate =
      ((c.perform operation).1, (c.perform operation).2.rotate journal') := by
  cases operation with
  | add | reset => cases plays
  | face slot direction =>
    exact ⟨journal, congrArg (answered fun _ => .done) (face_rotate c slot direction journal)⟩
  | turn slot =>
    obtain ⟨journal', same⟩ := turn_rotate agrees slot journal
    exact ⟨journal', congrArg (answered .acted) same⟩
  | step round =>
    obtain ⟨journal', same⟩ := step_rotate agrees round journal
    exact ⟨journal', congrArg (answered fun r => .reported [r]) same⟩
  | run rounds pause =>
    obtain ⟨journal', same⟩ := run_rotate agrees rounds pause journal
    exact ⟨journal', congrArg (answered .reported) same⟩

/-- A colony has no preferred orientation. Turned clockwise by a quarter, it gives the same answers to
the same operations, whether they fail or not: the actions that turns end with, the reports of rounds,
the faults. What is left is the colony that the operations leave without the quarter turn, turned by a
quarter: the same coin, and on each square that was turned the same creature, of the same species and
with the same counter, turned. Only the journal, which tells of positions, is another one. -/
theorem performAll_rotate (agrees : c.board.Agrees) {operations : List Operation}
    (plays : ∀ operation ∈ operations, operation.plays = true) (journal : Array Journal.Entry) :
    ∃ journal', (c.rotate journal).performAll (operations.map Operation.rotate) =
      ((c.performAll operations).1, (c.performAll operations).2.rotate journal') := by
  induction operations generalizing c journal with
  | nil => exact ⟨journal, rfl⟩
  | cons operation rest ih =>
    have first := plays operation List.mem_cons_self
    obtain ⟨journal', same⟩ := perform_rotate agrees first journal
    obtain ⟨journal'', more⟩ := ih ((perform_plays c first).agrees agrees)
      (fun other later => plays other (List.mem_cons_of_mem _ later)) journal'
    refine ⟨journal'', ?_⟩
    rw [List.map_cons]
    simp only [performAll, same, more]

/-- The lane of three columns, turned, is one of three rows. In it the hopper comes down to the trap and
is infected there too. -/
theorem facingLane_rotated : facingLane.board.Agrees ∧
    (facingLane.rotate #[]).board.grid.width = 1 ∧ (facingLane.rotate #[]).board.grid.height = 3 ∧
      ∃ journal, (facingLane.rotate #[]).performAll [.step 0, .step 1] =
        ((facingLane.performAll [.step 0, .step 1]).1,
          (facingLane.performAll [.step 0, .step 1]).2.rotate journal) := by
  have agrees := facingLane_reachable.orderly.agrees
  have plays : ∀ operation ∈ [Operation.step 0, .step 1], operation.plays = true := by decide
  exact ⟨agrees, rfl, rfl, performAll_rotate agrees plays #[]⟩

end Vivarium.Colony
