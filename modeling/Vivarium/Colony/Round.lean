import Vivarium.Clock
import Vivarium.Colony.Census

/-!
# Rounds

In a round each creature has one turn, in the order the creatures were added; a creature converted
early in a round already acts as one of its new species. A round that fails leaves the turns that
were taken and no report.
-/

namespace Vivarium.Colony

variable {κ : Type} [CoinSource κ]

/-! ## One round -/

/-- Gives the creatures with the listed numbers a turn each. The result counts the actions, after
those counted before. -/
def takeTurns : List Nat → Table String Nat → Board (Dice κ) →
    Except Fault (Table String Nat) × Board (Dice κ)
  | [], actions, b => (.ok actions, b)
  | slot :: rest, actions, b =>
    match b.turn slot with
    | (.ok action, after) => takeTurns rest (actions.bump action.mnemonic) after
    | (.error fault, after) => (.error fault, after)

def moves (c : Colony κ) : Nat :=
  (c.board.creatures.toList.map Creature.moves).foldr (· + ·) 0

def infections (c : Colony κ) : Nat :=
  (c.board.creatures.toList.map Creature.infections).foldr (· + ·) 0

/-- The report of a round that led from one colony to another. -/
def report (before after : Colony κ) (round : Int) (actions : Table String Nat) : Report where
  round := round
  population := after.population
  counts := after.counts
  infections := after.infections - before.infections
  moves := after.moves - before.moves
  turns := after.population
  actions := actions

def roundEntry (r : Report) : Journal.Entry where
  level := .debug
  topic := .simulation
  text :=
    s!"round {r.round}: {r.counts.toValue.shown} (infections={r.infections}, moves={r.moves})"

/-- Plays a round under a number. -/
def step (c : Colony κ) (round : Int) : Except Fault Report × Colony κ :=
  match takeTurns (List.range c.population) Table.empty c.board with
  | (.error fault, board) => (.error fault, c.withBoard board)
  | (.ok actions, board) =>
    let after := c.withBoard board
    let r := report c after round actions
    (.ok r, { after with reports := after.reports.push r }.note (roundEntry r))

/-! ## Several rounds -/

/-- Pauses by a clock, if the delay is positive. -/
def sleep (c : Colony κ) (clock : Clock) (delay : Value) : Except Fault Unit × Colony κ :=
  match clock.pause delay with
  | .error fault => (.error fault, c)
  | .ok true => (.ok (), { c with sleeps := c.sleeps.push delay })
  | .ok false => (.ok (), c)

/-- Plays a number of rounds, the first under the given number, with a pause after each. -/
def playRounds (clock : Clock) (delay : Value) :
    Nat → Int → Colony κ → Except Fault (List Report) × Colony κ
  | 0, _, c => (.ok [], c)
  | count + 1, round, c =>
    match c.step round with
    | (.error fault, after) => (.error fault, after)
    | (.ok r, after) =>
      match after.sleep clock delay with
      | (.error fault, rested) => (.error fault, rested)
      | (.ok _, rested) =>
        match playRounds clock delay count (round + 1) rested with
        | (.ok more, last) => (.ok (r :: more), last)
        | (.error fault, last) => (.error fault, last)

def finishedEntry (c : Colony κ) (rounds : Value) : Journal.Entry where
  level := .info
  topic := .simulation
  text := s!"Finished {rounds.truncated} rounds: {c.counts.toValue.shown}"

/-- Plays rounds, as many and with such pauses as given or as the settings say. They are numbered
on from the rounds that were reported. -/
def run (c : Colony κ) (rounds pause : Option Value) (clock : Clock := .system) :
    Except Fault (List Report) × Colony κ :=
  let total := rounds.getD c.settings.rounds
  match total.toCount with
  | .error fault => (.error fault, c)
  | .ok count =>
    match playRounds clock (pause.getD c.settings.pause) count.toNat c.reports.size c with
    | (.ok reports, after) => (.ok reports, after.note (after.finishedEntry total))
    | (.error fault, after) => (.error fault, after)

end Vivarium.Colony
