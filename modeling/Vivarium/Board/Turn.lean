import Vivarium.Board.Basic

/-!
# Turns

In a turn a creature runs instructions until one is an action. Before each instruction its counter
is brought to the address it stands for. A jump looks at the square ahead, or flips the coin, and
changes nothing but the counter and the coin.

* `Board.execute` is one instruction, `Board.run` a number of them, `Board.turn` a turn.
* Instructions are fetched, and squares read and written, by operations that can fail.
* A turn's limit is the number of instructions it may run. Without a limit a turn may run as many
  as there are pairs of an address and a state of the coin: one that has not ended by then never
  ends.
-/

namespace Vivarium

/-! ## What lies ahead -/

/-- What a creature sees on the square ahead. -/
inductive Sight where
  | wall
  | empty
  | creature (slot : Nat) (other : Creature)

namespace Sight

/-- Whether the edge of the grid is seen. -/
def isWall : Sight → Bool
  | wall => true
  | _ => false

/-- Whether a free square is seen. -/
def isEmpty : Sight → Bool
  | empty => true
  | _ => false

def creature? : Sight → Option Creature
  | creature _ other => some other
  | _ => none

end Sight

namespace Board

variable {σ : Type}

/-- What a creature sees ahead. A square of the grid is read, and reading may fail. -/
def sight (b : Board σ) (c : Creature) : Except Fault Sight :=
  if b.grid.contains c.ahead then
    (b.grid.read (some c.ahead)).map fun
      | none => .empty
      | some slot =>
        match b.creatures[slot]? with
        | some other => .creature slot other
        | none => .empty
  else .ok .wall

/-- Whether a condition other than chance holds for a creature and what it sees. -/
def holds (c : Creature) (seen : Sight) : Condition → Bool
  | .empty => seen.isEmpty
  | .wall => seen.isWall
  | .same => seen.creature?.any fun other => other.sameSpecies c
  | .enemy => seen.creature?.any fun other => !other.sameSpecies c
  | .random => false
  | .always => true

/-! ## Actions -/

/-- Moves a creature to another position: its square is emptied, then the other one is taken. The
board that is left is given also when a square cannot be written. -/
def move (b : Board σ) (slot : Nat) (c : Creature) (target : Position) :
    Except Fault Unit × Board σ :=
  let left := b.draw c.drawn (.blank c.position)
  match left.grid.set (some c.position) none with
  | .error fault => (.error fault, left)
  | .ok emptied =>
    let going := { left with grid := emptied }.update slot fun d => { d with position := target }
    match emptied.set (some target) (some slot) with
    | .error fault => (.error fault, going)
    | .ok taken =>
      let there := { going with grid := taken }.update slot fun d => { d with moves := d.moves + 1 }
      (.ok (), there.redraw slot)

def infection (attacker victim : Creature) : Journal.Entry where
  level := .debug
  topic := .creature
  text :=
    s!"{attacker.species.name} #{attacker.id} infected {victim.species.name} #{victim.id} at " ++
      victim.position.text

/-- The board with a creature made one of the attacker's species, which starts its program. -/
def infect (b : Board σ) (slot : Nat) (c : Creature) (victim : Nat) (other : Creature) : Board σ :=
  let noted := b.note (infection c other)
  let turned := noted.update victim fun d => { d with lineage := c.lineage, counter := 1 }
  (turned.update slot fun d => { d with infections := d.infections + 1 }).redraw victim

/-- Does a creature's action, given what it sees. The counter goes on whatever comes of the
action. -/
def perform (b : Board σ) (slot : Nat) (c : Creature) (seen : Sight) (action : Action) :
    Except Fault Unit × Board σ :=
  let next := b.setCounter slot (c.counter + 1)
  match action with
  | .hop =>
    match seen with
    | .empty => next.move slot c c.ahead
    | _ => (.ok (), next)
  | .left =>
    (.ok (), (next.update slot fun d => { d with direction := d.direction.left }).redraw slot)
  | .right =>
    (.ok (), (next.update slot fun d => { d with direction := d.direction.right }).redraw slot)
  | .infect =>
    match seen with
    | .creature victim other =>
      (.ok (), if other.sameSpecies c then next else next.infect slot c victim other)
    | _ => (.ok (), next)

/-! ## Instructions -/

/-- What comes of one instruction: the turn ends with an action, goes on, or fails. -/
inductive Stride (σ : Type) where
  | acted (action : Action) (board : Board σ)
  | jumped (board : Board σ)
  | failed (fault : Fault) (board : Board σ)

variable [CoinSource σ]

/-- Whether a condition holds for a creature, given what it sees, and the board after the coin that
this may take; none when the coin is missing. -/
def test (b : Board σ) (c : Creature) (seen : Sight) : Condition → Option (Bool × Board σ)
  | .random => (CoinSource.flip b.coin).map fun flipped => (flipped.1, { b with coin := flipped.2 })
  | condition => some (holds c seen condition, b)

/-- Runs an instruction of a creature, given what it sees. -/
def follow (b : Board σ) (slot : Nat) (c : Creature) (seen : Sight) : Instruction → Stride σ
  | .act action =>
    match b.perform slot c seen action with
    | (.ok _, after) => .acted action after
    | (.error fault, after) => .failed fault after
  | .jump condition target _ =>
    match b.test c seen condition with
    | some (true, after) => .jumped (after.setCounter slot target)
    | some (false, after) => .jumped (after.setCounter slot (c.counter + 1))
    | none => .failed (.noCoin c.id c.species.name) b

/-- Runs the instruction at a creature's counter: it is fetched, the square ahead is looked at, and
then it is followed. -/
def execute (b : Board σ) (slot : Nat) (c : Creature) : Stride σ :=
  match c.program.fetch c.counter with
  | .error fault => .failed fault b
  | .ok instruction =>
    match b.sight c with
    | .error fault => .failed fault b
    | .ok seen => b.follow slot c seen instruction

/-! ## Turns -/

/-- How a run of instructions ends: with an action, with a fault, or before either. -/
inductive Run (σ : Type) where
  | acted (action : Action) (board : Board σ)
  | failed (fault : Fault) (board : Board σ)
  | unfinished (board : Board σ)

/-- Runs up to a number of a creature's instructions. -/
def run (slot : Nat) : Nat → Board σ → Run σ
  | 0, b => .unfinished (b.update slot Creature.wrapped)
  | steps + 1, b =>
    let ready := b.update slot Creature.wrapped
    match ready.creatures[slot]? with
    | none => .failed .noSuchItem ready
    | some c =>
      match ready.execute slot c with
      | .acted action after => .acted action after
      | .failed fault after => .failed fault after
      | .jumped after => run slot steps after

/-- The number of instructions after which a creature's turn without action repeats itself. -/
def patience (b : Board σ) (c : Creature) : Nat :=
  c.program.size * max 1 (CoinSource.states b.coin)

/-- A creature's turn: the action it ended with, or the fault, and the board that is left. -/
def turn (b : Board σ) (slot : Nat) : Except Fault Action × Board σ :=
  match b.creatures[slot]? with
  | none => (.error .noSuchItem, b)
  | some c =>
    let steps := c.limit.elim (b.patience c) TurnLimit.steps
    match run slot steps b with
    | .acted action after => (.ok action, after)
    | .failed fault after => (.error fault, after)
    | .unfinished after =>
      match c.limit with
      | some limit => (.error (.turnLimit c.id c.species.name limit.text), after)
      | none => (.error .endlessTurn, after)

end Board

end Vivarium
