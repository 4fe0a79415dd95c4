import Vivarium.Proofs.Colony.Census

/-!
# Changes that nobody notices

Some changes of a colony make no difference to what becomes of it: whatever is done, before or after the
change, the same answer is given, and what is left differs by the change. It is enough that this is so
of turns and of the creatures that are placed.

1. `Mask`: a change that makes no difference to turns. Then it makes none to rounds (`Mask.run`).
2. `Disguise`: a mask that makes no difference to what is done from outside either. Then no operations
   tell a colony from its disguise (`Disguise.performAll`).
-/

namespace Vivarium.Colony

variable {κ : Type} [CoinSource κ]

/-! ## Masks -/

/-- A change of boards and of colonies that makes no difference to turns, to counts and to what a run of
rounds is set to. -/
structure Mask (κ : Type) [CoinSource κ] where
  board : Board (Dice κ) → Board (Dice κ)
  colony : Colony κ → Colony κ
  board_eq : ∀ c, (colony c).board = board c.board
  rounds_eq : ∀ c, (colony c).settings.rounds = c.settings.rounds
  pause_eq : ∀ c, (colony c).settings.pause = c.settings.pause
  reports_eq : ∀ c, (colony c).reports = c.reports
  tally : ∀ c, SameTally c (colony c)
  withBoard : ∀ c b, (colony c).withBoard (board b) = colony (c.withBoard b)
  noted : ∀ c entry, (colony c).note entry = colony (c.note entry)
  reported : ∀ c r,
    { colony c with reports := (colony c).reports.push r } =
      colony { c with reports := c.reports.push r }
  rested : ∀ c delay,
    { colony c with sleeps := (colony c).sleeps.push delay } =
      colony { c with sleeps := c.sleeps.push delay }
  turned : ∀ b slot, (board b).turn slot = ((b.turn slot).1, board (b.turn slot).2)

namespace Mask

variable (m : Mask κ)

theorem sleep (c : Colony κ) (clock : Clock) (delay : Value) :
    (m.colony c).sleep clock delay = ((c.sleep clock delay).1, m.colony (c.sleep clock delay).2) := by
  rw [Colony.sleep, Colony.sleep]
  split
  · rfl
  · rw [m.rested]
  · rfl

theorem turn (c : Colony κ) (slot : Nat) :
    (m.colony c).turn slot = ((c.turn slot).1, m.colony (c.turn slot).2) := by
  rw [Colony.turn, Colony.turn, m.board_eq, m.turned, m.withBoard]

theorem takeTurns (slots : List Nat) (actions : Table String Nat) (b : Board (Dice κ)) :
    Colony.takeTurns slots actions (m.board b) =
      ((Colony.takeTurns slots actions b).1, m.board (Colony.takeTurns slots actions b).2) := by
  induction slots generalizing actions b with
  | nil => rfl
  | cons slot rest ih =>
    rw [Colony.takeTurns, Colony.takeTurns, m.turned]
    cases b.turn slot with
    | mk result after =>
      cases result with
      | ok action => exact ih _ after
      | error fault => rfl

theorem step (c : Colony κ) (round : Int) :
    (m.colony c).step round = ((c.step round).1, m.colony (c.step round).2) := by
  rw [Colony.step, Colony.step, (m.tally c).population_eq, m.board_eq, m.takeTurns]
  cases Colony.takeTurns (List.range c.population) Table.empty c.board with
  | mk result board =>
    cases result with
    | error fault => exact congrArg (Prod.mk _) (m.withBoard c board)
    | ok actions =>
      have same := (m.tally c).report_eq (m.tally (c.withBoard board)) round actions
      simp only [m.withBoard, same, m.reported, m.noted]

theorem playRounds (clock : Clock) (delay : Value) (count : Nat) (round : Int) (c : Colony κ) :
    Colony.playRounds clock delay count round (m.colony c) =
      ((Colony.playRounds clock delay count round c).1,
        m.colony (Colony.playRounds clock delay count round c).2) := by
  induction count generalizing round c with
  | zero => rfl
  | succ count ih =>
    rw [Colony.playRounds, Colony.playRounds, m.step]
    cases c.step round with
    | mk result after =>
      cases result with
      | error fault => rfl
      | ok r =>
        simp only [m.sleep]
        cases after.sleep clock delay with
        | mk result rested =>
          cases result with
          | error fault => rfl
          | ok _ =>
            simp only [ih]
            cases Colony.playRounds clock delay count (round + 1) rested with
            | mk result last => cases result <;> rfl

theorem run (c : Colony κ) (rounds pause : Option Value) :
    (m.colony c).run rounds pause =
      ((c.run rounds pause).1, m.colony (c.run rounds pause).2) := by
  rw [Colony.run, Colony.run, m.rounds_eq, m.pause_eq, m.reports_eq]
  cases (rounds.getD c.settings.rounds).toCount with
  | error fault => rfl
  | ok count =>
    simp only [m.playRounds]
    cases Colony.playRounds .system (pause.getD c.settings.pause) count.toNat c.reports.size c with
    | mk result after =>
      cases result with
      | error fault => rfl
      | ok reports => simp only [(m.tally after).finishedEntry_eq, m.noted]

end Mask

/-! ## Disguises -/

/-- A mask that makes no difference to what is done from outside either: to directions that are set, to
creatures that are added, and to what is looked at when a colony is populated. It may be fit for some
colonies only; what is done to these leaves them fit. -/
structure Disguise (κ : Type) [CoinSource κ] extends Mask κ where
  Fits : Colony κ → Prop
  fits_change : ∀ {c d}, Change c d → Fits c → Fits d
  settings_eq : ∀ c, (colony c).settings = c.settings
  populates_eq : ∀ c, (colony c).populates = c.populates
  grid_eq : ∀ b, (board b).grid = b.grid
  generator_eq : ∀ b, (board b).coin.generator = b.coin.generator
  withGenerator : ∀ c g, (colony c).withGenerator g = colony (c.withGenerator g)
  cleared : ∀ c, (colony c).cleared = colony c.cleared
  faced : ∀ b slot direction, (board b).face slot direction = (b.face slot direction).map board
  added : ∀ {c}, Fits c → ∀ recruit position direction,
    (colony c).add recruit position direction =
      ((c.add recruit position direction).1, colony (c.add recruit position direction).2)

namespace Disguise

variable (m : Disguise κ) {c : Colony κ}

theorem grid_colony (c : Colony κ) : (m.colony c).board.grid = c.board.grid := by
  rw [m.board_eq, m.grid_eq]

theorem size_roster (c : Colony κ) : (m.colony c).roster.size = c.roster.size := by
  rw [← length_labels, ← length_labels, (m.tally c).labels]

theorem face (c : Colony κ) (slot : Nat) (direction : Value) :
    (m.colony c).face slot direction =
      ((c.face slot direction).1, m.colony (c.face slot direction).2) := by
  rw [Colony.face, Colony.face, m.board_eq, m.faced]
  cases c.board.face slot direction with
  | error fault => rfl
  | ok board => exact congrArg (Prod.mk _) (m.withBoard c board)

/-! ### Populating -/

theorem settle (fits : m.Fits c) (number : Nat) :
    (m.colony c).settle number = ((c.settle number).1, m.colony (c.settle number).2) := by
  rw [Colony.settle, Colony.settle, m.board_eq, m.grid_eq, m.generator_eq]
  cases drawPlace c.board.grid c.board.coin.generator with
  | error fault => rfl
  | ok place =>
    obtain ⟨position, direction, g⟩ := place
    have drawn : m.Fits (c.withGenerator g) := m.fits_change (.drew c g) fits
    simp only [m.withGenerator, m.added drawn]
    cases (c.withGenerator g).add (.listed number) (some position) (.int direction) with
    | mk result after => cases result <;> rfl

theorem settleAll (fits : m.Fits c) (numbers : List Nat) :
    Colony.settleAll numbers (m.colony c) =
      ((Colony.settleAll numbers c).1, m.colony (Colony.settleAll numbers c).2) := by
  induction numbers generalizing c with
  | nil => rfl
  | cons number rest ih =>
    -- The next creature is placed in what the first one left, so that must fit too.
    have settled := (settle_changes c number).keeps m.fits_change fits
    rw [Colony.settleAll, Colony.settleAll, m.settle fits]
    generalize c.settle number = result at settled
    obtain ⟨result, after⟩ := result
    cases result with
    | error fault => rfl
    | ok _ => exact ih settled

theorem free (c : Colony κ) : (m.colony c).free = c.free := by
  rw [Colony.free, Colony.free, (m.tally c).population_eq, m.grid_colony]

theorem crowding (c : Colony κ) : (m.colony c).crowding = c.crowding := by
  rw [Colony.crowding, Colony.crowding, m.size_roster, m.free, m.settings_eq]

theorem settlers (c : Colony κ) : (m.colony c).settlers = c.settlers := by
  have empty : (m.colony c).roster.isEmpty = c.roster.isEmpty := by
    rw [Array.isEmpty, Array.isEmpty, m.size_roster]
  rw [Colony.settlers, Colony.settlers, m.size_roster, empty, m.settings_eq]

theorem placedEntry (c : Colony κ) : (m.colony c).placedEntry = c.placedEntry := by
  rw [Colony.placedEntry, Colony.placedEntry, m.size_roster, (m.tally c).population_eq,
    m.grid_colony]

theorem populate (fits : m.Fits c) :
    (m.colony c).populate = (c.populate.1, m.colony c.populate.2) := by
  rw [Colony.populate, Colony.populate, m.crowding, m.settlers, m.free]
  cases c.crowding with
  | error fault => rfl
  | ok crowding =>
    obtain ⟨wanted, crowded⟩ := crowding
    cases crowded with
    | true => exact congrArg (Prod.mk _) (m.noted c _)
    | false =>
      cases c.settlers with
      | error fault => rfl
      | ok numbers =>
        simp only [m.settleAll fits]
        cases Colony.settleAll numbers c with
        | mk result after =>
          cases result with
          | error fault => rfl
          | ok _ => simp only [m.placedEntry, m.noted]

theorem inhabit (fits : m.Fits c) : (m.colony c).inhabit = (c.inhabit.1, m.colony c.inhabit.2) := by
  rw [Colony.inhabit, Colony.inhabit, m.populates_eq]
  split
  · exact m.populate fits
  · rfl

theorem reset (fits : m.Fits c) : (m.colony c).reset = (c.reset.1, m.colony c.reset.2) := by
  rw [Colony.reset, Colony.reset, m.cleared]
  exact m.inhabit (m.fits_change (.cleared c) fits)

/-! ### Operations -/

theorem perform (fits : m.Fits c) (operation : Operation) :
    (m.colony c).perform operation =
      ((c.perform operation).1, m.colony (c.perform operation).2) := by
  cases operation with
  | add recruit position direction =>
    exact congrArg (answered .placed) (m.added fits recruit position direction)
  | face slot direction => exact congrArg (answered fun _ => .done) (m.face c slot direction)
  | turn slot => exact congrArg (answered .acted) (m.turn c slot)
  | step round => exact congrArg (answered fun r => .reported [r]) (m.step c round)
  | run rounds pause => exact congrArg (answered .reported) (m.run c rounds pause)
  | reset => exact congrArg (answered fun _ => .done) (m.reset fits)

/-- Operations have the same answers, one after the other, and leave a colony in the same disguise. -/
theorem performAll (fits : m.Fits c) (operations : List Operation) :
    (m.colony c).performAll operations =
      ((c.performAll operations).1, m.colony (c.performAll operations).2) := by
  induction operations generalizing c with
  | nil => rfl
  | cons operation rest ih =>
    have more := ih ((perform_changes c operation).keeps m.fits_change fits)
    simp only [Colony.performAll, m.perform fits, more]

end Disguise

end Vivarium.Colony
