import Vivarium.Proofs.Colony.Turn

/-!
# Playing on while no turn is stopped

A turn that runs into its limit, or that does not end, is stopped in the middle, and with it the round.
Much of what holds between turns does not hold there. But the fault tells: where an operation does not
fail so, all turns that it took ended with their actions and all rounds that it began were reported.

1. `Advance` lists the ways in which a colony then plays on.
2. `perform_advances`: an operation of a colony that plays on is a chain of these (`Advances`), unless a
   turn is stopped.
-/

namespace Vivarium

def Fault.stopsTurn : Fault → Bool
  | .turnLimit .. => true
  | .endlessTurn => true
  | _ => false

namespace Colony

variable {κ : Type} [CoinSource κ] {c d e : Colony κ}

/-! ## Turns that are stopped -/

/-- Where squares and creatures agree, the turn of a creature fails only if it is stopped. -/
theorem stopsTurn_of_turn {b after : Board (Dice κ)} (agrees : b.Agrees) {slot : Nat} {d : Creature}
    (here : b.creatures[slot]? = some d) {fault : Fault}
    (failed : b.turn slot = (.error fault, after)) : fault.stopsTurn = true := by
  obtain ⟨address, coin, -, turned⟩ := Board.turn_turned agrees here
  rw [failed] at turned
  cases turned with
  | capped | endless => rfl
  | coinless missing => cases missing

/-- A round of an orderly colony fails with a turn that is stopped. -/
theorem stopsTurn_of_step (orderly : c.Orderly) {round : Int} {fault : Fault} {after : Colony κ}
    (failed : c.step round = (.error fault, after)) : fault.stopsTurn = true := by
  rw [step] at failed
  cases played : takeTurns (List.range c.population) Table.empty c.board with
  | mk result board =>
    rw [played] at failed
    cases result with
    | ok actions => cases failed
    | error cause =>
      cases failed
      obtain ⟨done, slot, rest, actions, mid, split, taken, stopped⟩ := takeTurns_eq_error played
      have orderly' := orderly.takeTurns taken
      have inside : slot < c.population := by
        rw [← List.mem_range, split]
        exact List.mem_append_right done List.mem_cons_self
      obtain ⟨d, here⟩ := orderly.exists_creature orderly' inside
      exact stopsTurn_of_turn orderly'.agrees here stopped

/-! ## Advances -/

/-- Whether an operation is a turn outside of a round. -/
def Operation.interludes : Operation → Bool
  | .turn .. => true
  | .add .. | .face .. | .step .. | .run .. | .reset => false

/-- The ways in which a colony changes while it plays on with the creatures that are there and no turn
is stopped: with turns outside of rounds, or without. -/
inductive Advance (interludes : Bool) : Colony κ → Colony κ → Prop
  | noted (c : Colony κ) (entry : Journal.Entry) : Advance interludes c (c.note entry)
  | faced (c : Colony κ) (slot : Nat) (direction : Value) :
      Advance interludes c (c.face slot direction).2
  | turned {c after : Colony κ} {slot : Nat} {action : Action} (outside : interludes = true)
      (acted : c.turn slot = (.ok action, after)) : Advance interludes c after
  | played {c after : Colony κ} {round : Int} {r : Report}
      (stepped : c.step round = (.ok r, after)) : Advance interludes c after
  | rested (c : Colony κ) (clock : Clock) (delay : Value) :
      Advance interludes c (c.sleep clock delay).2

variable {interludes : Bool}

theorem Advance.plays (advance : Advance interludes c d) : Plays c d := by
  cases advance with
  | noted entry => exact .single (.noted c entry)
  | faced slot direction => exact face_plays c slot direction
  | @turned _ slot _ _ acted =>
    have chain := turn_plays c slot
    rwa [acted] at chain
  | @played _ round _ stepped =>
    have chain := step_plays c round
    rwa [stepped] at chain
  | rested clock delay => exact sleep_plays c clock delay

def Advances (interludes : Bool) : Colony κ → Colony κ → Prop :=
  Relation.ReflTransGen (Advance interludes)

/-- What every advance of an orderly colony keeps, a chain of advances keeps. -/
theorem Advances.keeps {P : Colony κ → Prop} (chain : Advances interludes c d) (orderly : c.Orderly)
    (advance : ∀ {c d : Colony κ}, c.Orderly → Advance interludes c d → P c → P d) (start : P c) :
    P d := by
  have both : d.Orderly ∧ P d := by
    induction chain with
    | refl => exact ⟨orderly, start⟩
    | tail _ last ih => exact ⟨last.plays.orderly ih.1, advance ih.1 last ih.2⟩
  exact both.2

/-! ## Operations that no turn stops -/

theorem playRounds_advances (orderly : c.Orderly) (clock : Clock) (delay : Value) (count : Nat)
    (round : Int)
    (unstopped : ∀ fault, (playRounds clock delay count round c).1 = .error fault →
      fault.stopsTurn = false) :
    Advances false c (playRounds clock delay count round c).2 := by
  induction count generalizing round c with
  | zero => exact .refl
  | succ count ih =>
    have ordered := (step_plays c round).orderly orderly
    rw [playRounds] at unstopped ⊢
    cases stepped : c.step round with
    | mk result after =>
      rw [stepped] at unstopped ordered
      cases result with
      | error fault =>
        have stops := stopsTurn_of_step orderly stepped
        rw [unstopped fault rfl] at stops
        cases stops
      | ok r =>
        have rested : Advances false c (after.sleep clock delay).2 :=
          .tail (.single (.played stepped)) (.rested after clock delay)
        have ordered' := (sleep_plays after clock delay).orderly ordered
        dsimp only at unstopped ⊢
        generalize after.sleep clock delay = slept at rested ordered' unstopped
        obtain ⟨result, rest⟩ := slept
        cases result with
        | error fault => exact rested
        | ok _ =>
          have more := ih ordered' (round + 1)
          dsimp only at unstopped ⊢
          generalize playRounds clock delay count (round + 1) rest = played at more unstopped
          obtain ⟨result, last⟩ := played
          cases result with
          | error fault => exact rested.trans (more unstopped)
          | ok reports => exact rested.trans (more fun fault failed => by cases failed)

/-- What an operation that plays on does, unless a turn is stopped. -/
theorem perform_advances (orderly : c.Orderly) {operation : Operation}
    (plays : operation.plays = true)
    (unstopped : ∀ fault, (c.perform operation).1 = .error fault → fault.stopsTurn = false) :
    Advances operation.interludes c (c.perform operation).2 := by
  cases operation with
  | add | reset => cases plays
  | face slot direction => exact .single (.faced c slot direction)
  | turn slot =>
    rw [perform, turn] at unstopped ⊢
    cases turned : c.board.turn slot with
    | mk result after =>
      cases result with
      | ok action =>
        have acted : c.turn slot = (.ok action, c.withBoard after) := by
          rw [turn, turned]
        exact .single (.turned rfl acted)
      | error fault =>
        rw [turned] at unstopped
        cases here : c.board.creatures[slot]? with
        | some d =>
          have stops := stopsTurn_of_turn orderly.agrees here turned
          rw [unstopped fault rfl] at stops
          cases stops
        | none =>
          -- There is no such creature, and nothing has changed.
          rw [Board.turn, here] at turned
          cases turned
          exact .refl
  | step round =>
    rw [perform] at unstopped ⊢
    cases stepped : c.step round with
    | mk result after =>
      cases result with
      | ok r => exact .single (.played stepped)
      | error fault =>
        have stops := stopsTurn_of_step orderly stepped
        rw [stepped] at unstopped
        rw [unstopped fault rfl] at stops
        cases stops
  | run rounds pause =>
    rw [perform, run] at unstopped ⊢
    cases counted : (rounds.getD c.settings.rounds).toCount with
    | error fault => exact .refl
    | ok count =>
      have played := playRounds_advances orderly .system
        (pause.getD c.settings.pause) count.toNat c.reports.size
      rw [counted] at unstopped
      dsimp only at unstopped ⊢
      generalize playRounds .system (pause.getD c.settings.pause) count.toNat c.reports.size c = result
        at played unstopped
      obtain ⟨result, after⟩ := result
      cases result with
      | error fault => exact played fun other same => unstopped other (by cases same; rfl)
      | ok reports => exact (played fun fault failed => by cases failed).tail (.noted _ _)

end Colony

end Vivarium
