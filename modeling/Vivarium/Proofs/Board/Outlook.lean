import Vivarium.Proofs.Board.Jumps

/-!
# What a turn depends on

Of its board a turn looks at what the creature sees, and at the coin. So creatures on two boards that
go by the same program, are at the same address, see the same and have the same coin take the same
turn, wherever they are.

1. `SameOutlook`: what two creatures on two boards have to have in common.
2. `SameOutlook.run`: they run the same instructions, any number of them.
3. `SameOutlook.turn`: their turns end at the same address, with the same coin and in the same way.

What a turn makes of its board is said by `Board.Turned`, which determines it (`Turned.unique`).
-/

namespace Vivarium.Board

variable {σ : Type} {b b' : Board σ} {slot slot' : Nat} {c c' : Creature}

/-- A creature on a board has the outlook of one on another board: it is as far in the same program,
has the same limit and the same coin, and the same conditions hold for what it sees. -/
structure SameOutlook (b : Board σ) (c : Creature) (b' : Board σ) (c' : Creature) : Prop where
  id : c'.id = c.id
  lineage : c'.lineage = c.lineage
  counter : c'.counter = c.counter
  limit : c'.limit = c.limit
  coin : b'.coin = b.coin
  conditions : ∃ seen seen', b.Sees c seen ∧ b'.Sees c' seen' ∧
    ∀ condition, holds c' seen' condition = holds c seen condition

namespace SameOutlook

theorem name (outlook : b.SameOutlook c b' c') : c'.species.name = c.species.name :=
  congrArg (fun lineage => lineage.species.name) outlook.lineage

theorem program (outlook : b.SameOutlook c b' c') : c'.program = c.program :=
  congrArg (fun lineage => lineage.species.program) outlook.lineage

variable [CoinSource σ]

theorem patience_eq (outlook : b.SameOutlook c b' c') : b'.patience c' = b.patience c := by
  rw [patience, patience, outlook.program, outlook.coin]

/-- How two runs end that run the same instructions. -/
inductive SameEnd (b : Board σ) (slot : Nat) (c : Creature) (b' : Board σ) (slot' : Nat)
    (c' : Creature) : Run σ → Run σ → Prop
  | acted {address : Int} {coin : σ} {action : Action} {after after' : Board σ}
      (turned : Turned b slot c address coin (.ok action) after)
      (turned' : Turned b' slot' c' address coin (.ok action) after') :
      SameEnd b slot c b' slot' c' (.acted action after) (.acted action after')
  | unfinished (address : Int) (coin : σ) :
      SameEnd b slot c b' slot' c' (.unfinished (b.paused slot address coin))
        (.unfinished (b'.paused slot' address coin))
  | coinless {address : Int} {coin : σ} (missing : CoinSource.flip coin = none) :
      SameEnd b slot c b' slot' c'
        (.failed (.noCoin c.id c.species.name) (b.paused slot address coin))
        (.failed (.noCoin c'.id c'.species.name) (b'.paused slot' address coin))

/-- A test in the middle of a turn takes the coin as its verdict does, and nothing else. -/
theorem test_eq_verdict (b : Board σ) (slot : Nat) (c : Creature) (seen : Sight)
    (condition : Condition) (counter : Int) (coin : σ) :
    (b.paused slot counter coin).test { c with counter := counter } seen condition =
      (verdict c seen CoinSource.flip coin condition).map fun flipped =>
        (flipped.1, b.paused slot counter flipped.2) := by
  cases condition <;> rfl

theorem verdict_eq {seen seen' : Sight}
    (same : ∀ condition, holds c' seen' condition = holds c seen condition) (coin : σ)
    (condition : Condition) :
    verdict c' seen' CoinSource.flip coin condition = verdict c seen CoinSource.flip coin condition := by
  cases condition with
  | random => rfl
  | empty | wall | same | enemy | always =>
    exact congrArg (fun holds => some (holds, coin)) (same _)

theorem missing_of_verdict {seen : Sight} {coin : σ} {condition : Condition}
    (undecided : verdict c seen CoinSource.flip coin condition = none) :
    CoinSource.flip coin = none := by
  cases condition with
  | random => exact undecided
  | empty | wall | same | enemy | always => cases undecided

/-- From the same counter and the same coin on the same instructions are run. -/
theorem run_paused (outlook : b.SameOutlook c b' c') (agrees : b.Agrees) (agrees' : b'.Agrees)
    (here : b.creatures[slot]? = some c) (here' : b'.creatures[slot']? = some c') (steps : Nat)
    (counter : Int) (coin : σ) :
    SameEnd b slot c b' slot' c' (run slot steps (b.paused slot counter coin))
      (run slot' steps (b'.paused slot' counter coin)) := by
  obtain ⟨seen, seen', sees, sees', same⟩ := outlook.conditions
  have program := outlook.program
  induction steps generalizing counter coin with
  | zero =>
    rw [run, run, wrapped_paused here, wrapped_paused here', program]
    exact .unfinished _ coin
  | succ steps ih =>
    rw [run_paused_succ agrees here sees, run_paused_succ agrees' here' sees', program]
    have fetched := c.program.fetch_wrap counter
    cases instruction : c.program.instructionAt counter with
    | act action =>
      rw [instruction] at fetched
      obtain ⟨after, performed, turned⟩ := perform_of_sees agrees here sees fetched coin
      have fetched' : c'.program.fetch (c.program.wrap counter) = .ok (.act action) :=
        program.symm ▸ fetched
      obtain ⟨after', performed', turned'⟩ := perform_of_sees agrees' here' sees' fetched' coin
      simp only [follow, performed, performed', Stride.resume]
      exact .acted turned turned'
    | jump condition target positive =>
      simp only [follow, test_eq_verdict, verdict_eq same]
      cases judged : verdict c seen CoinSource.flip coin condition with
      | none =>
        simp only [Option.map_none, Stride.resume]
        exact .coinless (missing_of_verdict judged)
      | some flipped =>
        obtain ⟨taken, coin'⟩ := flipped
        cases taken with
        | true =>
          simp only [Option.map_some, setCounter_paused, Stride.resume]
          exact ih target coin'
        | false =>
          simp only [Option.map_some, setCounter_paused, Stride.resume]
          exact ih _ coin'

/-- Turns of creatures with the same outlook end at the same address, with the same coin and with the
same result. -/
theorem turn (outlook : b.SameOutlook c b' c') (agrees : b.Agrees) (agrees' : b'.Agrees)
    (here : b.creatures[slot]? = some c) (here' : b'.creatures[slot']? = some c') :
    ∃ address coin, (b'.turn slot').1 = (b.turn slot).1 ∧
      Turned b slot c address coin (b.turn slot).1 (b.turn slot).2 ∧
      Turned b' slot' c' address coin (b.turn slot).1 (b'.turn slot').2 := by
  have ends := outlook.run_paused agrees agrees' here here'
    (c.limit.elim (b.patience c) TurnLimit.steps) c.counter b.coin
  have start' : b'.paused slot' c.counter b.coin = b' := by
    rw [← outlook.counter, ← outlook.coin, paused_self here']
  rw [paused_self here, start'] at ends
  simp only [Board.turn, here, here', outlook.limit, outlook.patience_eq]
  generalize Board.run slot (c.limit.elim (b.patience c) TurnLimit.steps) b = result at ends
  generalize Board.run slot' (c.limit.elim (b.patience c) TurnLimit.steps) b' = result' at ends
  cases ends with
  | acted turned turned' => exact ⟨_, _, rfl, turned, turned'⟩
  | unfinished address coin =>
    cases limited : c.limit with
    | some limit =>
      have capped' : Turned b' slot' c' address coin _ _ := .capped (outlook.limit.trans limited)
      rw [outlook.id, outlook.name] at capped'
      exact ⟨address, coin, by rw [outlook.id, outlook.name], .capped limited, capped'⟩
    | none =>
      exact ⟨address, coin, rfl, .endless limited, .endless (outlook.limit.trans limited)⟩
  | @coinless address coin missing =>
    have coinless' : Turned b' slot' c' address coin _ _ := .coinless missing
    rw [outlook.id, outlook.name] at coinless'
    exact ⟨address, coin, by rw [outlook.id, outlook.name], .coinless missing, coinless'⟩

end SameOutlook

/-! ## What a turn makes of a board -/

section Turned

variable [CoinSource σ] {address : Int} {coin : σ} {result : Except Fault Action}
  {after after' : Board σ}

/-- A turn that fails leaves all but its creature's counter and the coin as it was. -/
theorem Turned.eq_paused {fault : Fault} (turned : Turned b slot c address coin (.error fault) after) :
    after = b.paused slot address coin := by
  cases turned <;> rfl

/-- The address, the coin and the result say what a turn makes of the board. -/
theorem Turned.unique (first : Turned b slot c address coin result after)
    (second : Turned b slot c address coin result after') : after = after' := by
  cases result with
  | error fault => rw [first.eq_paused, second.eq_paused]
  | ok action =>
    cases first with
    | hopped fetched inside free =>
      cases second with
      | hopped => rfl
      | blocked _ taken => exact absurd free (taken inside)
    | blocked fetched taken =>
      cases second with
      | hopped _ inside free => exact absurd free (taken inside)
      | blocked => rfl
    | left | right =>
      cases second
      rfl
    | infected fetched held there apart enemy =>
      cases second with
      | infected _ held' there' =>
        cases held.symm.trans held'
        cases there.symm.trans there'
        rfl
      | spared _ harmless => exact absurd (harmless _ _ held there) (by rw [enemy]; decide)
    | spared fetched harmless =>
      cases second with
      | infected _ held there _ enemy => exact absurd (harmless _ _ held there) (by rw [enemy]; decide)
      | spared => rfl

end Turned

end Vivarium.Board
