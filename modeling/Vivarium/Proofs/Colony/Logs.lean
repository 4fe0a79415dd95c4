import Vivarium.Colony.Picture
import Vivarium.Proofs.Board.Logs
import Vivarium.Proofs.Colony.Disguise

/-!
# Colonies with a past

What was drawn and noted, and the pauses that were made, are written down in a colony and never looked
at. `Colony.recalling` puts a past in front of what is written down.

1. `givenPast`: a past is a disguise.
2. `SameState`: colonies that are the same but for what is written down; they show the same pictures.
3. `SameState.performAll`: any operations keep them so, and have the same answers.
-/

namespace Vivarium

/-- What was written down in a colony: the logs of its board, and the pauses that were made. -/
structure Past extends Logs where
  sleeps : Array Value

namespace Colony

variable {κ : Type} (past : Past)

/-- The colony with a past in front of what is written down in it. -/
def recalling (c : Colony κ) (past : Past) : Colony κ :=
  { c with
    board := c.board.recalling past.toLogs
    sleeps := past.sleeps ++ c.sleeps }

theorem note_recalling (c : Colony κ) (entry : Journal.Entry) :
    (c.recalling past).note entry = (c.note entry).recalling past :=
  congrArg (c.recalling past).withBoard (c.board.note_recalling past.toLogs entry)

theorem rest_recalling (c : Colony κ) (delay : Value) :
    { c.recalling past with sleeps := (c.recalling past).sleeps.push delay } =
      ({ c with sleeps := c.sleeps.push delay } : Colony κ).recalling past := by
  have sleeps : (c.recalling past).sleeps.push delay = past.sleeps ++ c.sleeps.push delay :=
    Array.push_append
  rw [sleeps]
  rfl

theorem enlist_recalling (c : Colony κ) (recruit : Recruit) :
    (c.recalling past).enlist recruit =
      ((c.enlist recruit).1, (c.enlist recruit).2.recalling past) := by
  cases recruit <;> rfl

theorem add_recalling (c : Colony κ) (recruit : Recruit) (position : Option Position)
    (direction : Value) :
    (c.recalling past).add recruit position direction =
      ((c.add recruit position direction).1,
        (c.add recruit position direction).2.recalling past) := by
  rw [add, add, enlist_recalling]
  generalize c.enlist recruit = enlisted
  obtain ⟨lineage, colony⟩ := enlisted
  have placed (p : Board.Placement) : (colony.recalling past).board.place p = _ :=
    Board.place_recalling past.toLogs colony.board p
  have settings : (colony.recalling past).settings = colony.settings := rfl
  have nextId : (colony.recalling past).nextId = colony.nextId := rfl
  simp only [placed, settings, nextId]
  cases colony.board.place ⟨lineage, position, direction, colony.settings.turnLimit,
    colony.nextId, true⟩ <;> rfl

/-- A past makes no difference to what becomes of a colony. -/
def givenPast [CoinSource κ] (past : Past) : Disguise κ where
  board b := b.recalling past.toLogs
  colony c := c.recalling past
  board_eq _ := rfl
  rounds_eq _ := rfl
  pause_eq _ := rfl
  reports_eq _ := rfl
  tally _ := ⟨rfl, rfl⟩
  withBoard _ _ := rfl
  noted := note_recalling past
  reported _ _ := rfl
  rested := rest_recalling past
  turned := Board.turn_recalling past.toLogs
  Fits _ := True
  fits_change _ _ := trivial
  settings_eq _ := rfl
  populates_eq _ := rfl
  grid_eq _ := rfl
  generator_eq _ := rfl
  withGenerator _ _ := rfl
  cleared _ := rfl
  faced := Board.face_recalling past.toLogs
  added _ := add_recalling past _

/-! ## Colonies in the same state -/

/-- Two colonies that are the same but for what is written down: the drawings, the journal and the
pauses. -/
structure SameState (c d : Colony κ) : Prop where
  settings : d.settings = c.settings
  roster : d.roster = c.roster
  grid : d.board.grid = c.board.grid
  creatures : d.board.creatures = c.board.creatures
  coin : d.board.coin = c.board.coin
  nextId : d.nextId = c.nextId
  populates : d.populates = c.populates
  reports : d.reports = c.reports

theorem sameState_recalling (c : Colony κ) (past : Past) : c.SameState (c.recalling past) :=
  ⟨rfl, rfl, rfl, rfl, rfl, rfl, rfl, rfl⟩

namespace SameState

variable {c d e : Colony κ}

theorem symm (same : c.SameState d) : d.SameState c :=
  ⟨same.settings.symm, same.roster.symm, same.grid.symm, same.creatures.symm, same.coin.symm,
    same.nextId.symm, same.populates.symm, same.reports.symm⟩

theorem trans (first : c.SameState d) (second : d.SameState e) : c.SameState e :=
  ⟨second.settings.trans first.settings, second.roster.trans first.roster,
    second.grid.trans first.grid, second.creatures.trans first.creatures,
    second.coin.trans first.coin, second.nextId.trans first.nextId,
    second.populates.trans first.populates, second.reports.trans first.reports⟩

/-- Colonies in the same state differ in their pasts only. -/
theorem exists_recalling (same : c.SameState d) :
    ∃ (e : Colony κ) (past past' : Past), c = e.recalling past ∧ d = e.recalling past' := by
  obtain ⟨settings, roster, ⟨grid, creatures, drawings, journal, coin⟩, nextId, populates, reports,
    sleeps⟩ := c
  obtain ⟨settings', roster', ⟨grid', creatures', drawings', journal', coin'⟩, nextId', populates',
    reports', sleeps'⟩ := d
  obtain ⟨rfl, rfl, rfl, rfl, rfl, rfl, rfl, rfl⟩ := same
  refine ⟨⟨settings', roster', ⟨grid', creatures', #[], #[], coin'⟩, nextId', populates', reports',
    #[]⟩, ⟨⟨drawings, journal⟩, sleeps⟩, ⟨⟨drawings', journal'⟩, sleeps'⟩, ?_, ?_⟩ <;>
    simp only [recalling, Board.recalling, Array.append_empty]

/-- What is seen in a picture does not tell colonies in the same state apart. -/
theorem picture_eq (same : c.SameState d) (round : Int) : d.picture round = c.picture round := by
  obtain ⟨e, past, past', rfl, rfl⟩ := same.exists_recalling
  rfl

/-- Operations on colonies in the same state have the same answers and leave them in the same
state. -/
theorem performAll [CoinSource κ] (same : c.SameState d) (operations : List Operation) :
    (d.performAll operations).1 = (c.performAll operations).1 ∧
      (c.performAll operations).2.SameState (d.performAll operations).2 := by
  obtain ⟨e, past, past', rfl, rfl⟩ := same.exists_recalling
  have first : (e.recalling past).performAll operations = _ :=
    (givenPast past).performAll trivial operations
  have second : (e.recalling past').performAll operations = _ :=
    (givenPast past').performAll trivial operations
  rw [first, second]
  exact ⟨rfl, (sameState_recalling _ past).symm.trans (sameState_recalling _ past')⟩

end SameState

end Colony

end Vivarium
