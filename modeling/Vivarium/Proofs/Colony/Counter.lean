import Vivarium.Proofs.Board.Guarded
import Vivarium.Proofs.Colony.Turn
import Vivarium.Proofs.Value

/-!
# Where the counters of a colony stand

A jump may lead to any address, also past the end of the program, and an infection gives its victim a
program of another size. Between operations every counter is still an address of the creature's own
program or one past its end.

1. `Turned.onCourse`: however a turn ends, it leaves all creatures with such counters.
2. `Change.onCourse`: so does every other change of a colony.
3. `Arrested`: a turn that runs into its limit leaves its creature at an address. `arrested_of_perform`
   says so of the operation that took the turn, whichever it is.
4. `reachable_counters`: both, for a reachable colony.
-/

namespace Vivarium

/-! ## Counters -/

namespace Creature

def AtAddress (d : Creature) : Prop := 1 ≤ d.counter ∧ d.counter ≤ d.program.size

/-- The counter is an address of the program, or one past its end. -/
def OnCourse (d : Creature) : Prop := 1 ≤ d.counter ∧ d.counter ≤ d.program.size + 1

theorem AtAddress.onCourse {d : Creature} (there : d.AtAddress) : d.OnCourse :=
  ⟨there.1, Int.le_trans there.2 (Int.le_add_one (Int.le_refl _))⟩

/-- A program may begin, whatever its size. -/
theorem onCourse_of_start {d : Creature} (start : d.counter = 1) : d.OnCourse := by
  rw [OnCourse, start]
  omega

end Creature

/-! ## Turns -/

namespace Board

variable {σ : Type} {b : Board σ} {slot : Nat} {c : Creature}

/-- Every creature's counter is an address of its program, or one past its end. -/
def OnCourse (b : Board σ) : Prop := ∀ d ∈ b.creatures, d.OnCourse

variable [CoinSource σ] {address : Int} {coin : σ} {result : Except Fault Action} {after : Board σ}

/-- A turn leaves behind the address that it came to by one at most, and its victim begins the program
that it got. -/
theorem Turned.onCourse (turned : Turned b slot c address coin result after)
    (here : b.creatures[slot]? = some c) (comes : b.Comes slot c address coin) (onCourse : b.OnCourse) :
    after.OnCourse := by
  have stopped : Creature.AtAddress { c with counter := address } := ⟨comes.pos, comes.le_size⟩
  have acted (d : Creature) (own : d.lineage = c.lineage) (next : d.counter = address + 1) :
      d.OnCourse := by
    have size : d.program.size = c.program.size := by rw [Creature.program, own, Creature.program]
    have low := comes.pos
    have high := comes.le_size
    rw [Creature.OnCourse, size, next]
    omega
  have paused (counter : Int) (there : Creature.OnCourse { c with counter := counter }) :
      (b.paused slot counter coin).OnCourse := by
    rw [Board.paused, setCounter, update_eq_put here]
    exact forall_mem_put slot onCourse there
  cases turned with
  | hopped | left | right => exact forall_mem_put slot onCourse (acted _ rfl rfl)
  | blocked | spared => exact paused _ (acted _ rfl rfl)
  | infected =>
    have attacked := forall_mem_put slot onCourse (acted (c.afterInfection (address + 1)) rfl rfl)
    exact forall_mem_put _ attacked (Creature.onCourse_of_start rfl)
  | capped | endless | coinless => exact paused _ stopped.onCourse

end Board

namespace Colony

variable {κ : Type} [CoinSource κ] {c d : Colony κ}

/-! ## Changes -/

/-- Every change of an orderly colony leaves all counters at addresses or one past the end. -/
theorem Change.onCourse (change : Change c d) (orderly : c.Orderly) (onCourse : c.board.OnCourse) :
    d.board.OnCourse := by
  cases change with
  | noted | drew | enlisted | reported | rested => exact onCourse
  | placed newcomer => exact Board.forall_mem_insert onCourse (Creature.onCourse_of_start newcomer.counter)
  | @faced slot e here direction =>
    have there := Board.getElem?_put_self here { e with direction := direction }
    rw [Board.update_eq_put here, Board.redraw_eq there]
    exact Board.forall_mem_put slot onCourse (onCourse e (Array.mem_of_getElem? here))
  | @turned slot e here =>
    obtain ⟨address, coin, comes, turned⟩ := Board.turn_turned orderly.agrees here
    exact turned.onCourse here comes onCourse
  | cleared => exact fun e present => absurd present (Array.not_mem_empty e)

theorem Reachable.onCourse (reached : Reachable c) : c.board.OnCourse := by
  have both : c.Orderly ∧ c.board.OnCourse := by
    refine reached.invariant (P := fun c => c.Orderly ∧ c.board.OnCourse) (fun founded => ?_)
      fun change known => ⟨change.orderly known.1, change.onCourse known.1 known.2⟩
    refine ⟨unpopulated_orderly founded, ?_⟩
    obtain ⟨generator, grid, seeded, made, rfl⟩ := made_of_unpopulated founded
    exact fun e present => absurd present (Array.not_mem_empty e)
  exact both.2

/-! ## Turns that run into their limit -/

/-- If a fault says that a creature's turn ran into its limit, that creature is at an address of its
program. -/
def Arrested (c : Colony κ) (fault : Fault) : Prop :=
  ∀ id name limit, fault = .turnLimit id name limit →
    ∃ (slot : Nat) (d : Creature), c.board.creatures[slot]? = some d ∧ d.id = id ∧ d.AtAddress

theorem arrested_of_turn (orderly : c.Orderly) {slot : Nat} {fault : Fault} {after : Board (Dice κ)}
    (failed : c.board.turn slot = (.error fault, after)) : (c.withBoard after).Arrested fault := by
  rintro id name limit rfl
  cases here : c.board.creatures[slot]? with
  | none =>
    rw [Board.turn, here] at failed
    cases failed
  | some d =>
    obtain ⟨address, coin, comes, turned⟩ := Board.turn_turned orderly.agrees here
    rw [failed] at turned
    cases turned with
    | capped limited =>
      exact ⟨slot, _, Board.getElem?_paused_self here address coin, rfl, comes.pos, comes.le_size⟩

/-- A round fails with a turn, and the board is the one that this turn left. -/
theorem arrested_of_step (orderly : c.Orderly) {round : Int} {fault : Fault} {after : Colony κ}
    (failed : c.step round = (.error fault, after)) : after.Arrested fault := by
  rw [step] at failed
  cases played : takeTurns (List.range c.population) Table.empty c.board with
  | mk result board =>
    rw [played] at failed
    cases result with
    | ok actions => cases failed
    | error cause =>
      cases failed
      obtain ⟨done, slot, rest, actions, mid, -, taken, stopped⟩ := takeTurns_eq_error played
      exact arrested_of_turn (orderly.takeTurns taken) stopped

omit [CoinSource κ] in
/-- A pause that fails is no turn. -/
theorem arrested_of_sleep {delay : Value} {fault : Fault} {after : Colony κ}
    (failed : c.sleep .system delay = (.error fault, after)) : after.Arrested fault := by
  rintro id name limit rfl
  rw [sleep] at failed
  split at failed
  · next stopped =>
    cases failed
    rcases Fault.cases_of_bind_eq_error stopped with uncompared | ⟨long, -, stopped⟩
    · rw [Value.gt, Value.compare] at uncompared
      split at uncompared <;> cases uncompared
    · cases long with
      | false => cases stopped
      | true =>
        rw [if_pos rfl] at stopped
        rcases Fault.cases_of_bind_eq_error stopped with unwaited | ⟨_, -, stopped⟩
        · simp only [Clock.system] at unwaited
          split at unwaited
          · cases unwaited
          · split at unwaited <;> cases unwaited
          · split at unwaited <;> cases unwaited
        · cases stopped
  · cases failed
  · cases failed

theorem arrested_of_playRounds (orderly : c.Orderly) {delay : Value} {count : Nat} {round : Int}
    {fault : Fault} {after : Colony κ}
    (failed : playRounds .system delay count round c = (.error fault, after)) : after.Arrested fault := by
  induction count generalizing round c with
  | zero => cases failed
  | succ count ih =>
    have ordered := (step_plays c round).orderly orderly
    rw [playRounds] at failed
    cases stepped : c.step round with
    | mk result left =>
      rw [stepped] at failed ordered
      cases result with
      | error cause =>
        cases failed
        exact arrested_of_step orderly stepped
      | ok r =>
        have ordered' := (sleep_plays left .system delay).orderly ordered
        dsimp only at failed
        cases slept : left.sleep .system delay with
        | mk result rested =>
          rw [slept] at failed ordered'
          cases result with
          | error cause =>
            cases failed
            exact arrested_of_sleep slept
          | ok _ =>
            dsimp only at failed
            cases played : playRounds .system delay count (round + 1) rested with
            | mk result last =>
              rw [played] at failed
              cases result with
              | ok reports => cases failed
              | error cause =>
                cases failed
                exact ih ordered' played

omit [CoinSource κ] in
theorem eq_of_answered_eq_error {α : Type} {answer : α → Answer} {result : Except Fault α × Colony κ}
    {fault : Fault} {after : Colony κ} (failed : answered answer result = (.error fault, after)) :
    result = (.error fault, after) := by
  obtain ⟨outcome, left⟩ := result
  cases outcome with
  | error cause =>
    cases failed
    rfl
  | ok value => cases failed

/-- Whichever operation the turn was part of, it leaves its creature at an address. -/
theorem arrested_of_perform (orderly : c.Orderly) {operation : Operation}
    (plays : operation.plays = true) {fault : Fault} {after : Colony κ}
    (failed : c.perform operation = (.error fault, after)) : after.Arrested fault := by
  cases operation with
  | add | reset => cases plays
  | face slot direction =>
    -- There is no such creature, or the direction is none.
    have turned := eq_of_answered_eq_error failed
    rw [face, Board.face, Board.creature] at turned
    rintro id name limit rfl
    cases here : c.board.creatures[slot]? with
    | none =>
      rw [here] at turned
      cases turned
    | some d =>
      rw [here, Value.toDirection] at turned
      generalize [Direction.north, .east, .south, .west].find? _ = found at turned
      cases found with
      | some direction => cases turned
      | none =>
        -- A fault that tells of a direction is itself or a flaw of the value.
        have same : Fault.telling (.badDirection direction) [direction] = .turnLimit id name limit :=
          Except.error.inj (congrArg Prod.fst turned)
        rcases Fault.telling_cases (.badDirection direction) [direction] with told | ⟨flaw, untold, told⟩
        · rw [told] at same
          cases same
        · obtain ⟨v, -, found⟩ := Fault.exists_flaw_of_untold untold
          rw [told] at same
          subst same
          rcases Value.flaw?_cases v _ _ found with ⟨same, -⟩ | ⟨same, -⟩ <;> cases same
  | turn slot =>
    have turned := eq_of_answered_eq_error failed
    obtain ⟨result, left⟩ := Prod.mk.inj turned
    subst left
    exact arrested_of_turn orderly (Prod.ext result rfl)
  | step round => exact arrested_of_step orderly (eq_of_answered_eq_error failed)
  | run rounds pause =>
    have ran := eq_of_answered_eq_error failed
    rw [run] at ran
    cases counted : (rounds.getD c.settings.rounds).toCount with
    | error cause =>
      rw [counted] at ran
      cases ran
      rw [Value.toCount] at counted
      rintro id name limit rfl
      split at counted <;> cases counted
    | ok count =>
      rw [counted] at ran
      dsimp only at ran
      cases played : playRounds .system (pause.getD c.settings.pause) count.toNat c.reports.size c with
      | mk result last =>
        rw [played] at ran
        cases result with
        | ok reports => cases ran
        | error cause =>
          cases ran
          exact arrested_of_playRounds orderly played

/-! ## The counters of a reachable colony -/

/-- In a reachable colony the counter of every creature is an address of its program, or one past its
end. And if an operation fails because a creature's turn ran into its limit, then it leaves that
creature's counter at an address of its program. -/
theorem reachable_counters (reached : Reachable c) :
    (∀ d ∈ c.board.creatures, 1 ≤ d.counter ∧ d.counter ≤ d.program.size + 1) ∧
    ∀ operation : Operation, operation.plays = true → ∀ id name limit after,
      c.perform operation = (.error (.turnLimit id name limit), after) →
      ∃ (slot : Nat) (d : Creature), after.board.creatures[slot]? = some d ∧ d.id = id ∧
        1 ≤ d.counter ∧ d.counter ≤ d.program.size :=
  ⟨reached.onCourse, fun _ plays id name limit _ failed =>
    arrested_of_perform reached.orderly plays failed id name limit rfl⟩

/-- A species that never comes to an action: its only jump goes past its end. -/
def drifter : Species where
  name := "Drifter"
  color := "gray"
  program := ⟨#[.jump .always 7 (by decide)], by decide⟩
  name_ne := by decide

def driftLane : Colony :=
  ({ emptyLane with roster := #[hopper, drifter] }.performAll
    [.add (.listed 0) (some ⟨0, 0⟩) (.int 1), .add (.listed 1) (some ⟨2, 0⟩) (.int 3)]).2

/-- A round of that lane fails with the drifter's turn and leaves it at its only address, and the
hopper past its hop. -/
theorem driftLane_counters :
    Reachable driftLane ∧
    (driftLane.perform (.step 0)).1 = .error (.turnLimit 1 "Drifter" "5") ∧
    (∀ d ∈ (driftLane.perform (.step 0)).2.board.creatures,
      1 ≤ d.counter ∧ d.counter ≤ d.program.size + 1) ∧
    ∃ (slot : Nat) (d : Creature),
      (driftLane.perform (.step 0)).2.board.creatures[slot]? = some d ∧ d.id = 1 ∧
        1 ≤ d.counter ∧ d.counter ≤ d.program.size := by
  have created : (create .empty lane
      { roster := some [hopper, drifter], populates := false : Founding }).1 =
      .ok { emptyLane with roster := #[hopper, drifter] } := rfl
  have reached : Reachable driftLane := (Reachable.founded created).performAll _
  have failed : (driftLane.perform (.step 0)).1 = .error (.turnLimit 1 "Drifter" "5") := rfl
  exact ⟨reached, failed, (reachable_counters (reached.operated (.step 0))).1,
    (reachable_counters reached).2 (.step 0) rfl 1 "Drifter" "5" _ (Prod.ext failed rfl)⟩

end Colony

end Vivarium
