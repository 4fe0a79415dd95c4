import Vivarium.Proofs.Colony.Game

/-!
# The number of rounds in the settings

The number of rounds says how long a game is played and nothing else. A colony that is founded for another
number of rounds is the same but for that number.

`create_withRounds` says so, and `Settings.validate_withRounds` that the number passes the checks.
-/

namespace Vivarium

/-! ## The checks -/

namespace Settings

variable {s : Settings}

/-- Checked settings ask for a round at least. -/
theorem rounds_pos {rounds : Int} (valid : s.validate = .ok ()) (whole : s.rounds.whole? = some rounds) :
    0 < rounds :=
  (Value.le_zero_iff whole).1 (validate_eq_ok_iff_valid.1 valid).rounds

def withRounds (s : Settings) (rounds : Value) : Settings := { s with rounds := rounds }

/-- Any number of rounds but zero passes the checks. -/
theorem validate_withRounds (valid : s.validate = .ok ()) {count : Nat} (asked : 1 ≤ count) :
    (s.withRounds (.int count)).validate = .ok () := by
  have rules := validate_eq_ok_iff_valid.1 valid
  have positive : (Value.int count).le (.int 0) = .ok false :=
    (Value.le_zero_iff rfl).2 (Int.natCast_pos.2 asked)
  exact validate_eq_ok_iff_valid.2 { rules with rounds := positive }

end Settings

/-! ## Founding -/

namespace Colony

variable {κ : Type} (c : Colony κ) (rounds : Value)

def withRounds : Colony κ := c.withSettings (c.settings.withRounds rounds)

theorem add_withRounds (recruit : Recruit) (position : Option Position) (direction : Value) :
    (c.withRounds rounds).add recruit position direction =
      ((c.add recruit position direction).1,
        (c.add recruit position direction).2.withRounds rounds) := by
  have enlisted : (c.withRounds rounds).enlist recruit =
      ((c.enlist recruit).1, (c.enlist recruit).2.withRounds rounds) := by cases recruit <;> rfl
  rw [add, add, enlisted]
  generalize c.enlist recruit = result
  obtain ⟨lineage, colony⟩ := result
  have board : (colony.withRounds rounds).board = colony.board := rfl
  have limit : (colony.withRounds rounds).settings.turnLimit = colony.settings.turnLimit := rfl
  have nextId : (colony.withRounds rounds).nextId = colony.nextId := rfl
  simp only [board, limit, nextId]
  cases colony.board.place ⟨lineage, position, direction, colony.settings.turnLimit, colony.nextId,
    true⟩ <;> rfl

theorem settle_withRounds (number : Nat) :
    (c.withRounds rounds).settle number =
      ((c.settle number).1, (c.settle number).2.withRounds rounds) := by
  have board : (c.withRounds rounds).board = c.board := rfl
  rw [settle, settle, board]
  cases drawPlace c.board.grid c.board.coin.generator with
  | error fault => rfl
  | ok place =>
    obtain ⟨position, direction, g⟩ := place
    have placed := (c.withGenerator g).add_withRounds rounds (.listed number) (some position)
      (.int direction)
    have drawn : (c.withRounds rounds).withGenerator g = (c.withGenerator g).withRounds rounds := rfl
    simp only [drawn, placed]
    cases (c.withGenerator g).add (.listed number) (some position) (.int direction) with
    | mk result after => cases result <;> rfl

theorem settleAll_withRounds (numbers : List Nat) :
    settleAll numbers (c.withRounds rounds) =
      ((settleAll numbers c).1, (settleAll numbers c).2.withRounds rounds) := by
  induction numbers generalizing c with
  | nil => rfl
  | cons number rest ih =>
    rw [settleAll, settleAll, settle_withRounds]
    cases c.settle number with
    | mk result after =>
      cases result with
      | error fault => rfl
      | ok _ => exact ih after

/-- How many creatures are placed does not depend on the number of rounds, and neither does where. -/
theorem populate_withRounds :
    (c.withRounds rounds).populate = (c.populate.1, c.populate.2.withRounds rounds) := by
  have crowding : (c.withRounds rounds).crowding = c.crowding := rfl
  have settlers : (c.withRounds rounds).settlers = c.settlers := rfl
  rw [populate, populate, crowding, settlers]
  cases c.crowding with
  | error fault => rfl
  | ok crowding =>
    obtain ⟨wanted, crowded⟩ := crowding
    cases crowded with
    | true => rfl
    | false =>
      cases c.settlers with
      | error fault => rfl
      | ok numbers =>
        simp only [settleAll_withRounds]
        cases settleAll numbers c with
        | mk result after => cases result <;> rfl

theorem inhabit_withRounds :
    (c.withRounds rounds).inhabit = (c.inhabit.1, c.inhabit.2.withRounds rounds) := by
  have populates : (c.withRounds rounds).populates = c.populates := rfl
  rw [inhabit, inhabit, populates, populate_withRounds]
  split <;> rfl

variable {c} {folder : Folder} {settings : Settings} {founding : Founding κ}

/-- A colony can as well be founded for another number of rounds, and is then the same but for that
number. -/
theorem create_withRounds (created : (create folder settings founding).1 = .ok c) {count : Nat}
    (asked : 1 ≤ count) :
    (create folder (settings.withRounds (.int count)) founding).1 =
      .ok (c.withRounds (.int count)) := by
  obtain ⟨valid, roster, journal, empty, loaded, founded, done⟩ := create_eq_ok_iff.1 created
  have founded' : unpopulated (settings.withRounds (.int count)) founding roster journal =
      .ok (empty.withRounds (.int count)) := by
    obtain ⟨generator, grid, seeded, made, rfl⟩ := made_of_unpopulated founded
    have seeded' : generatorOf (settings.withRounds (.int count)) founding = .ok generator := seeded
    have made' : Grid.ofValues (settings.withRounds (.int count)).width
      (settings.withRounds (.int count)).height = .ok grid := made
    rw [unpopulated, seeded', made']
    rfl
  refine create_eq_ok_iff.2 ⟨Settings.validate_withRounds valid asked, roster, journal, _, loaded,
    founded', ?_⟩
  rw [inhabit_withRounds, done]

/-- Nothing was reported in a colony that was just founded. -/
theorem reports_of_created (created : (create folder settings founding).1 = .ok c) :
    c.reports = #[] := by
  obtain ⟨-, roster, journal, empty, -, founded, done⟩ := create_eq_ok_iff.1 created
  have newly := (unpopulated_eq_ok founded).2.2.2.inhabit_newly
  rw [done] at newly
  exact newly.unreported

end Colony

end Vivarium
