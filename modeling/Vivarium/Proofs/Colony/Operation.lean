import Vivarium.Colony.Round
import Vivarium.Proofs.Colony.Population

/-!
# Operations on a colony

After it was founded, a colony is changed by operations only: creatures are added, turned to a
direction or given a turn, rounds are played, and it is reset. Any of them may fail, and then it
leaves a colony too.

* `Colony.perform` is one operation, and `Colony.Reachable` says which colonies operations lead to.
* `Colony.Change` lists the few ways in which a colony ever changes. Whatever an operation does, also
  when it fails, is a chain of such changes (`perform_changes`).
* So what an empty colony has and every change keeps, every reachable colony has
  (`Reachable.invariant`).
* `Colony.Play` lists the changes that neither add creatures nor take them away. Operations other than
  adding and reset are chains of these (`perform_plays`).
-/

namespace Vivarium.Colony

variable {κ : Type}

/-! ## Operations -/

/-- What can be asked of a colony. Creatures are meant by their slots. -/
inductive Operation where
  | add (recruit : Recruit) (position : Option Position) (direction : Value)
  | face (slot : Nat) (direction : Value)
  | turn (slot : Nat)
  | step (round : Int)
  | run (rounds pause : Option Value)
  | reset

def Operation.plays : Operation → Bool
  | .add .. | .reset => false
  | .face .. | .turn .. | .step .. | .run .. => true

inductive Answer where
  | done
  | placed (id : Nat)
  | acted (action : Action)
  | reported (reports : List Report)

/-- Turns a creature to a direction. -/
def face (c : Colony κ) (slot : Nat) (direction : Value) : Except Fault Unit × Colony κ :=
  match c.board.face slot direction with
  | .ok board => (.ok (), c.withBoard board)
  | .error fault => (.error fault, c)

/-- Gives a creature a turn, outside of a round. -/
def turn [CoinSource κ] (c : Colony κ) (slot : Nat) : Except Fault Action × Colony κ :=
  ((c.board.turn slot).1, c.withBoard (c.board.turn slot).2)

def answered {α : Type} (answer : α → Answer) (result : Except Fault α × Colony κ) :
    Except Fault Answer × Colony κ :=
  (result.1.map answer, result.2)

def perform [CoinSource κ] (c : Colony κ) : Operation → Except Fault Answer × Colony κ
  | .add recruit position direction => answered .placed (c.add recruit position direction)
  | .face slot direction => answered (fun _ => .done) (c.face slot direction)
  | .turn slot => answered .acted (c.turn slot)
  | .step round => answered (fun r => .reported [r]) (c.step round)
  | .run rounds pause => answered .reported (c.run rounds pause)
  | .reset => answered (fun _ => .done) c.reset

/-- Performs operations one after the other, also after one that failed. -/
def performAll [CoinSource κ] (c : Colony κ) :
    List Operation → List (Except Fault Answer) × Colony κ
  | [] => ([], c)
  | operation :: rest =>
    let performed := c.perform operation
    let more := performed.2.performAll rest
    (performed.1 :: more.1, more.2)

/-- The colonies that operations lead to. An operation that failed counts as well: the next one goes
on with what it left. -/
inductive Reachable [CoinSource κ] : Colony κ → Prop
  | founded {folder : Folder} {settings : Settings} {founding : Founding κ} {c : Colony κ}
      (created : (create folder settings founding).1 = .ok c) : Reachable c
  | operated {c : Colony κ} (reached : Reachable c) (operation : Operation) :
      Reachable (c.perform operation).2

/-! ## Changes -/

inductive Change [CoinSource κ] : Colony κ → Colony κ → Prop
  /-- The journal gets an entry. -/
  | noted (c : Colony κ) (entry : Journal.Entry) : Change c (c.note entry)
  /-- Numbers are drawn. -/
  | drew (c : Colony κ) (g : Generator) : Change c (c.withGenerator g)
  /-- The roster gets a species. -/
  | enlisted (c : Colony κ) (species : Species) :
      Change c { c with roster := c.roster.push species }
  /-- A creature is added. -/
  | placed {c : Colony κ} {d : Creature} (newcomer : c.Newcomer d) :
      Change c { c with board := c.board.insert d, nextId := c.nextId + 1 }
  /-- A creature is turned to a direction. -/
  | faced {c : Colony κ} {slot : Nat} {d : Creature} (here : c.board.creatures[slot]? = some d)
      (direction : Direction) :
      Change c
        (c.withBoard ((c.board.update slot fun e => { e with direction := direction }).redraw slot))
  /-- A creature has a turn. -/
  | turned {c : Colony κ} {slot : Nat} {d : Creature} (here : c.board.creatures[slot]? = some d) :
      Change c (c.withBoard (c.board.turn slot).2)
  /-- A round is reported. -/
  | reported (c : Colony κ) (report : Report) :
      Change c { c with reports := c.reports.push report }
  /-- A pause is made. -/
  | rested (c : Colony κ) (delay : Value) : Change c { c with sleeps := c.sleeps.push delay }
  /-- The colony is emptied. -/
  | cleared (c : Colony κ) : Change c c.cleared

def Changes [CoinSource κ] : Colony κ → Colony κ → Prop := Relation.ReflTransGen Change

namespace Changes

variable [CoinSource κ] {c d e : Colony κ}

theorem refl (c : Colony κ) : Changes c c := Relation.ReflTransGen.refl

theorem single (change : Change c d) : Changes c d := Relation.ReflTransGen.single change

theorem trans (first : Changes c d) (second : Changes d e) : Changes c e :=
  Relation.ReflTransGen.trans first second

theorem tail (first : Changes c d) (second : Change d e) : Changes c e :=
  Relation.ReflTransGen.tail first second

/-- What every change keeps, a chain of changes keeps. -/
theorem keeps {P : Colony κ → Prop} (chain : Changes c d)
    (change : ∀ {c d : Colony κ}, Change c d → P c → P d) (start : P c) : P d := by
  induction chain with
  | refl => exact start
  | tail _ last ih => exact change last ih

end Changes

/-! ## Plays -/

/-- The ways in which a colony changes while it plays on with the creatures that are there. -/
inductive Play [CoinSource κ] : Colony κ → Colony κ → Prop
  | noted (c : Colony κ) (entry : Journal.Entry) : Play c (c.note entry)
  | faced {c : Colony κ} {slot : Nat} {d : Creature} (here : c.board.creatures[slot]? = some d)
      (direction : Direction) :
      Play c
        (c.withBoard ((c.board.update slot fun e => { e with direction := direction }).redraw slot))
  | turned {c : Colony κ} {slot : Nat} {d : Creature} (here : c.board.creatures[slot]? = some d) :
      Play c (c.withBoard (c.board.turn slot).2)
  | reported (c : Colony κ) (report : Report) : Play c { c with reports := c.reports.push report }
  | rested (c : Colony κ) (delay : Value) : Play c { c with sleeps := c.sleeps.push delay }

theorem Play.change [CoinSource κ] {c d : Colony κ} (play : Play c d) : Change c d := by
  cases play with
  | noted entry => exact .noted c entry
  | faced here direction => exact .faced here direction
  | turned here => exact .turned here
  | reported report => exact .reported c report
  | rested delay => exact .rested c delay

def Plays [CoinSource κ] : Colony κ → Colony κ → Prop := Relation.ReflTransGen Play

namespace Plays

variable [CoinSource κ] {c d e : Colony κ}

theorem refl (c : Colony κ) : Plays c c := Relation.ReflTransGen.refl

theorem single (play : Play c d) : Plays c d := Relation.ReflTransGen.single play

theorem trans (first : Plays c d) (second : Plays d e) : Plays c e :=
  Relation.ReflTransGen.trans first second

theorem tail (first : Plays c d) (second : Play d e) : Plays c e :=
  Relation.ReflTransGen.tail first second

theorem changes (chain : Plays c d) : Changes c d :=
  Relation.ReflTransGen.mono (fun _ _ => Play.change) c d chain

/-- What every play keeps, a chain of plays keeps. -/
theorem keeps {P : Colony κ → Prop} (chain : Plays c d)
    (play : ∀ {c d : Colony κ}, Play c d → P c → P d) (start : P c) : P d := by
  induction chain with
  | refl => exact start
  | tail _ last ih => exact play last ih

end Plays

/-! ## Playing on is a chain of plays -/

variable [CoinSource κ]

theorem face_plays (c : Colony κ) (slot : Nat) (direction : Value) :
    Plays c (c.face slot direction).2 := by
  rw [face, Board.face, Board.creature]
  cases here : c.board.creatures[slot]? with
  | none => exact .refl c
  | some d =>
    cases turned : direction.toDirection with
    | error fault => exact .refl c
    | ok direction => exact .single (.faced here direction)

theorem turn_plays (c : Colony κ) (slot : Nat) : Plays c (c.turn slot).2 := by
  cases here : c.board.creatures[slot]? with
  | none =>
    have idle : (c.turn slot).2 = c := by
      rw [turn, Board.turn, here]
      rfl
    rw [idle]
    exact .refl c
  | some d => exact .single (.turned here)

/-- The turns of a round, also of one that fails. -/
theorem takeTurns_plays (slots : List Nat) (c : Colony κ) (actions : Table String Nat) :
    Plays c (c.withBoard (takeTurns slots actions c.board).2) := by
  induction slots generalizing c actions with
  | nil => exact .refl c
  | cons slot rest ih =>
    have first := turn_plays c slot
    rw [takeTurns]
    rw [turn] at first
    generalize c.board.turn slot = turned at first
    obtain ⟨result, after⟩ := turned
    cases result with
    | error fault => exact first
    | ok action => exact first.trans (ih (c.withBoard after) _)

theorem step_plays (c : Colony κ) (round : Int) : Plays c (c.step round).2 := by
  have turns := takeTurns_plays (List.range c.population) c Table.empty
  rw [step]
  generalize takeTurns (List.range c.population) Table.empty c.board = taken at turns
  obtain ⟨result, after⟩ := taken
  cases result with
  | error fault => exact turns
  | ok actions => exact (turns.tail (.reported _ _)).tail (.noted _ _)

/-- A round that is reported has taken the turns of all creatures. -/
theorem step_eq_ok {c after : Colony κ} {round : Int} {r : Report}
    (stepped : c.step round = (.ok r, after)) :
    ∃ actions board, takeTurns (List.range c.population) Table.empty c.board = (.ok actions, board) ∧
      r = report c (c.withBoard board) round actions ∧
      after = { c.withBoard board with reports := c.reports.push r }.note (roundEntry r) := by
  rw [step] at stepped
  cases played : takeTurns (List.range c.population) Table.empty c.board with
  | mk result board =>
    rw [played] at stepped
    cases result with
    | error fault => cases stepped
    | ok actions =>
      cases stepped
      exact ⟨actions, board, rfl, rfl, rfl⟩

/-- A round that ends has its report added; a round that fails has none. -/
theorem reports_step (c : Colony κ) (round : Int) :
    (∃ fault after, c.step round = (.error fault, after) ∧ after.reports = c.reports) ∨
      ∃ r after, c.step round = (.ok r, after) ∧ after.reports = c.reports.push r := by
  rw [step]
  cases takeTurns (List.range c.population) Table.empty c.board with
  | mk result board =>
    cases result with
    | error fault => exact .inl ⟨_, _, rfl, rfl⟩
    | ok actions => exact .inr ⟨_, _, rfl, rfl⟩

theorem sleep_plays (c : Colony κ) (clock : Clock) (delay : Value) :
    Plays c (c.sleep clock delay).2 := by
  rw [sleep]
  split
  · exact .refl c
  · exact .single (.rested c delay)
  · exact .refl c

theorem playRounds_plays (clock : Clock) (delay : Value) (count : Nat) (round : Int) (c : Colony κ) :
    Plays c (playRounds clock delay count round c).2 := by
  induction count generalizing round c with
  | zero => exact .refl c
  | succ count ih =>
    have stepped := step_plays c round
    rw [playRounds]
    generalize c.step round = played at stepped
    obtain ⟨result, after⟩ := played
    cases result with
    | error fault => exact stepped
    | ok r =>
      have slept := stepped.trans (sleep_plays after clock delay)
      dsimp only
      generalize after.sleep clock delay = paused at slept
      obtain ⟨result, rested⟩ := paused
      cases result with
      | error fault => exact slept
      | ok _ =>
        have more := slept.trans (ih (round + 1) rested)
        dsimp only
        generalize playRounds clock delay count (round + 1) rested = played at more
        obtain ⟨result, last⟩ := played
        cases result with
        | error fault => exact more
        | ok reports => exact more

theorem run_plays (c : Colony κ) (rounds pause : Option Value) (clock : Clock) :
    Plays c (c.run rounds pause clock).2 := by
  rw [run]
  split
  · exact .refl c
  · next count counted =>
    have played := playRounds_plays clock (pause.getD c.settings.pause) count.toNat c.reports.size c
    generalize playRounds clock (pause.getD c.settings.pause) count.toNat c.reports.size c = result
      at played
    obtain ⟨result, after⟩ := result
    cases result with
    | error fault => exact played
    | ok reports => exact played.tail (.noted _ _)

/-- Whatever an operation other than adding and reset does, also when it fails, is a chain of
plays. -/
theorem perform_plays (c : Colony κ) {operation : Operation} (plays : operation.plays = true) :
    Plays c (c.perform operation).2 := by
  cases operation with
  | add | reset => cases plays
  | face slot direction => exact face_plays c slot direction
  | turn slot => exact turn_plays c slot
  | step round => exact step_plays c round
  | run rounds pause => exact run_plays c rounds pause .system

theorem performAll_plays {c : Colony κ} {operations : List Operation}
    (plays : ∀ operation ∈ operations, operation.plays = true) :
    Plays c (c.performAll operations).2 := by
  induction operations generalizing c with
  | nil => exact .refl c
  | cons operation rest ih =>
    have first := perform_plays c (plays operation List.mem_cons_self)
    exact first.trans (ih fun other later => plays other (List.mem_cons_of_mem _ later))

/-! ## Every operation is a chain of changes -/

theorem enlist_changes (c : Colony κ) (recruit : Recruit) : Changes c (c.enlist recruit).2 := by
  cases recruit with
  | listed number => exact .refl c
  | new species => exact .single (.enlisted c species)

theorem Settles.changes {c d : Colony κ} (chain : Settles c d) : Changes c d := by
  refine Relation.ReflTransGen.mono (fun c d settling => ?_) c d chain
  cases settling with
  | noted entry => exact .noted c entry
  | drew => exact .drew c _
  | placed newcomer => exact .placed newcomer

theorem add_changes (c : Colony κ) (recruit : Recruit) (position : Option Position)
    (direction : Value) : Changes c (c.add recruit position direction).2 :=
  (enlist_changes c recruit).trans (add_settles c recruit position direction).changes

theorem settle_changes (c : Colony κ) (number : Nat) : Changes c (c.settle number).2 :=
  (settle_settles c number).changes

theorem inhabit_changes (c : Colony κ) : Changes c c.inhabit.2 := (inhabit_settles c).changes

theorem reset_changes (c : Colony κ) : Changes c c.reset.2 :=
  (Changes.single (.cleared c)).trans (inhabit_changes c.cleared)

/-- Whatever an operation does, also when it fails, is a chain of changes. -/
theorem perform_changes (c : Colony κ) (operation : Operation) :
    Changes c (c.perform operation).2 := by
  cases operation with
  | add recruit position direction => exact add_changes c recruit position direction
  | reset => exact reset_changes c
  | face | turn | step | run => exact (perform_plays c rfl).changes

/-! ## Reachable colonies -/

/-- A founded colony comes by a chain of changes from an empty one with checked settings. -/
theorem create_changes {folder : Folder} {settings : Settings} {founding : Founding κ}
    {c : Colony κ} (created : (create folder settings founding).1 = .ok c) :
    ∃ roster journal empty, settings.validate = .ok () ∧
      unpopulated settings founding roster journal = .ok empty ∧ Changes empty c := by
  obtain ⟨valid, roster, journal, empty, -, founded, done⟩ := create_eq_ok_iff.1 created
  have chain := inhabit_changes empty
  rw [done] at chain
  exact ⟨roster, journal, empty, valid, founded, chain⟩

/-- What an empty colony has and every change keeps, every reachable colony has. -/
theorem Reachable.invariant {P : Colony κ → Prop}
    (empty : ∀ {settings founding roster journal} {c : Colony κ},
      unpopulated settings founding roster journal = .ok c → P c)
    (change : ∀ {c d : Colony κ}, Change c d → P c → P d) {c : Colony κ}
    (reached : Reachable c) : P c := by
  induction reached with
  | founded created =>
    obtain ⟨roster, journal, start, -, founded, chain⟩ := create_changes created
    exact chain.keeps change (empty founded)
  | operated _ operation ih => exact (perform_changes _ operation).keeps change ih

theorem Reachable.performAll {c : Colony κ} (reached : Reachable c) (operations : List Operation) :
    Reachable (c.performAll operations).2 := by
  induction operations generalizing c with
  | nil => exact reached
  | cons operation rest ih => exact ih (reached.operated operation)

/-! ## A small colony (used by the concrete runs of the proofs) -/

def hopper : Species where
  name := "Hopper"
  color := "green"
  program := ⟨#[.act .hop, .jump .always 1 (by decide)], by decide⟩
  name_ne := by decide

/-- A species that turns until it sees an enemy and infects it. Its last jump goes past its end. -/
def trap : Species where
  name := "Trap"
  color := "red"
  program :=
    ⟨#[.jump .enemy 4 (by decide), .act .left, .jump .always 1 (by decide), .act .infect,
      .jump .always 9 (by decide)], by decide⟩
  name_ne := by decide

/-- A lane of three squares. -/
def lane : Settings where
  width := .int 3
  height := .int 1
  turnLimit := .int 5
  pause := .int 0
  count := .int 0

def emptyLane : Colony where
  settings := lane
  roster := #[hopper, trap]
  board := Board.ofGrid (Grid.ofSize 3 1 (by decide) (by decide)) ⟨.startAt (.int 42) (.number 42), none⟩
  nextId := 0
  populates := false
  reports := #[]
  sleeps := #[]

/-- A hopper and a trap that face each other, with a free square between them. -/
def facingLane : Colony :=
  (emptyLane.performAll
    [.add (.listed 0) (some ⟨0, 0⟩) (.int 1), .add (.listed 1) (some ⟨2, 0⟩) (.int 3)]).2

/-- The lane after a round: the hopper came up to the trap and was infected. -/
def huntedLane : Colony := (facingLane.performAll [.step 0]).2

theorem facingLane_reachable : Reachable facingLane := by
  have created : (create .empty lane
      { roster := some [hopper, trap], populates := false : Founding }).1 = .ok emptyLane := rfl
  exact (Reachable.founded created).performAll _

theorem huntedLane_reachable : Reachable huntedLane := facingLane_reachable.performAll _

/-- Two rounds on the lane for one creature, of the bundled species that hops. -/
def hopSettings : Settings :=
  { lane with rounds := .int 2, count := .int 1, speciesFiles := ["Hop"] }

def hopLane : Colony := (create .empty hopSettings {}).1.toOption.getD emptyLane

theorem hopLane_created :
    (create .empty hopSettings {}).1 = .ok hopLane ∧ hopLane.population = 1 := by
  have founded : (create .empty hopSettings {} : Except Fault Colony × _).1.toOption.map population =
      some 1 := by
    decide +kernel
  obtain ⟨c, created, single⟩ := Fault.exists_of_toOption_map founded
  rw [hopLane, created]
  exact ⟨rfl, single⟩

end Vivarium.Colony
