import Vivarium.Proofs.Board.Limit
import Vivarium.Proofs.Colony.Census

/-!
# Limits only cut turns off

A limit decides when a turn is cut off and nothing else. So what a colony does without being cut off
it does in the same way under wider limits.

1. `Widening`: limits for the creatures of a colony, and wider ones.
2. `Widening.takeTurns`, `Widening.step`, `Widening.run`: rounds that end under the limits are the same
   under the wider ones, one layer after the other.
3. `limit_cuts_off`: what a limit makes of a single turn, and of a run of a whole colony.
-/

namespace Vivarium.Colony

variable {κ : Type}

/-! ## Colonies with other limits -/

/-- The colony with the limits of its creatures set, slot by slot, and the setting for new ones. -/
def withLimits (c : Colony κ) (value : Value) (limits : Nat → Option TurnLimit) : Colony κ :=
  { c with
    settings := { c.settings with turnLimit := value }
    board := c.board.withLimits limits }

theorem rounds_withLimits (c : Colony κ) (value : Value) (limits : Nat → Option TurnLimit) :
    (c.withLimits value limits).settings.rounds = c.settings.rounds := rfl

theorem pause_withLimits (c : Colony κ) (value : Value) (limits : Nat → Option TurnLimit) :
    (c.withLimits value limits).settings.pause = c.settings.pause := rfl

theorem reports_withLimits (c : Colony κ) (value : Value) (limits : Nat → Option TurnLimit) :
    (c.withLimits value limits).reports = c.reports := rfl

theorem sameTally_withLimits (c : Colony κ) (value : Value) (limits : Nat → Option TurnLimit) :
    SameTally c (c.withLimits value limits) where
  labels := rfl
  tallies := map_tally_revise (.limits limits) c.board

theorem withLimits_self {c : Colony κ} {limits : Nat → Option TurnLimit}
    (same : ∀ {slot : Nat} {d : Creature}, c.board.creatures[slot]? = some d → d.limit = limits slot) :
    c.withLimits c.settings.turnLimit limits = c :=
  congrArg (fun board => { c with board := board }) (Board.withLimits_self same)

theorem withLimits_withLimits (c : Colony κ) (value value' : Value)
    (limits limits' : Nat → Option TurnLimit) :
    (c.withLimits value limits).withLimits value' limits' = c.withLimits value' limits' :=
  congrArg
    (fun board => { c with settings := { c.settings with turnLimit := value' }, board := board })
    (c.board.withLimits_withLimits limits limits')

variable [CoinSource κ]

/-- A round whose turns were all taken ends in the same way whatever the limits were. -/
theorem exists_step (c : Colony κ) (actions : Table String Nat) (left : Board (Dice κ)) (round : Int) :
    ∃ (r : Report) (e : Colony κ), ∀ value limits,
      takeTurns (List.range c.population) Table.empty (c.board.withLimits limits) =
        (.ok actions, left.withLimits limits) →
      (c.withLimits value limits).step round = (.ok r, e.withLimits value limits) := by
  let r := report c (c.withBoard left) round actions
  refine ⟨r, { c.withBoard left with reports := c.reports.push r }.note (roundEntry r), ?_⟩
  intro value limits taken
  have same := sameTally_withLimits c value limits
  have reported : report (c.withLimits value limits) ((c.withBoard left).withLimits value limits)
      round actions = r :=
    same.report_eq (sameTally_withLimits (c.withBoard left) value limits) round actions
  have taken' : takeTurns (List.range c.population) Table.empty (c.withLimits value limits).board =
      (.ok actions, left.withLimits limits) := taken
  have after : (c.withLimits value limits).withBoard (left.withLimits limits) =
      (c.withBoard left).withLimits value limits := rfl
  rw [step, same.population_eq, taken']
  simp only [after, reported]
  rfl

/-! ## Wider limits -/

/-- Limits for the creatures of a colony, and wider ones. Where there is no limit any more, the coin
must be right about the number of its states. -/
structure Widening (κ : Type) [CoinSource κ] where
  value : Value
  limits : Nat → Option TurnLimit
  wideValue : Value
  wide : Nat → Option TurnLimit
  allows : ∀ slot, TurnLimit.Allows (wide slot) (limits slot)
  lawful : ∀ slot, wide slot = none → LawfulCoinSource κ

namespace Widening

variable (w : Widening κ)

def under (c : Colony κ) : Colony κ := c.withLimits w.value w.limits

def beyond (c : Colony κ) : Colony κ := c.withLimits w.wideValue w.wide

/-- What ends without a fault under the limits ends in the same way under the wider ones. -/
def Carries {α : Type} (x y : Except Fault α × Colony κ) : Prop :=
  ∀ a after, x = (.ok a, after) → ∃ e, after = w.under e ∧ y = (.ok a, w.beyond e)

/-- What never looks at a limit ends in the same way under any limits. -/
theorem carries_of_commutes {α : Type} {f : Colony κ → Except Fault α × Colony κ} {c : Colony κ}
    (commutes : ∀ value limits,
      f (c.withLimits value limits) = ((f c).1, (f c).2.withLimits value limits)) :
    w.Carries (f (w.under c)) (f (w.beyond c)) := by
  intro a after ended
  rw [under, commutes] at ended
  obtain ⟨result, left⟩ := Prod.mk.inj ended
  exact ⟨(f c).2, left.symm, by rw [beyond, commutes, result]; rfl⟩

/-! ## Turns and rounds -/

theorem boardTurn {b after : Board (Dice κ)} {slot : Nat} {action : Action}
    (turned : (b.withLimits w.limits).turn slot = (.ok action, after)) :
    ∃ left : Board (Dice κ), after = left.withLimits w.limits ∧
      (b.withLimits w.wide).turn slot = (.ok action, left.withLimits w.wide) := by
  have lawful (lifted : w.wide slot = none) : LawfulCoinSource (Dice κ) := by
    have := w.lawful slot lifted
    infer_instance
  exact Board.turn_of_allows turned (w.allows slot) lawful

theorem takeTurns {slots : List Nat} {actions counted : Table String Nat}
    {b after : Board (Dice κ)}
    (taken : Colony.takeTurns slots actions (b.withLimits w.limits) = (.ok counted, after)) :
    ∃ left : Board (Dice κ), after = left.withLimits w.limits ∧
      Colony.takeTurns slots actions (b.withLimits w.wide) = (.ok counted, left.withLimits w.wide) := by
  induction slots generalizing actions b with
  | nil =>
    cases taken
    exact ⟨b, rfl, rfl⟩
  | cons slot rest ih =>
    rw [Colony.takeTurns] at taken
    cases turned : (b.withLimits w.limits).turn slot with
    | mk result next =>
      rw [turned] at taken
      cases result with
      | error fault => cases taken
      | ok action =>
        obtain ⟨next, rfl, turned'⟩ := w.boardTurn turned
        rw [Colony.takeTurns, turned']
        exact ih taken

theorem turn (c : Colony κ) (slot : Nat) :
    w.Carries ((w.under c).turn slot) ((w.beyond c).turn slot) := by
  intro action after turned
  have whole (value : Value) (limits : Nat → Option TurnLimit) : (c.withLimits value limits).turn slot =
      (((c.board.withLimits limits).turn slot).1,
        (c.withLimits value limits).withBoard ((c.board.withLimits limits).turn slot).2) := rfl
  rw [under, whole] at turned
  cases board : (c.board.withLimits w.limits).turn slot with
  | mk result next =>
    rw [board] at turned
    cases turned
    obtain ⟨left, rfl, wide⟩ := w.boardTurn board
    refine ⟨c.withBoard left, rfl, ?_⟩
    rw [beyond, whole, wide]
    rfl

theorem step (c : Colony κ) (round : Int) :
    w.Carries ((w.under c).step round) ((w.beyond c).step round) := by
  intro r after stepped
  have taken : ∃ actions board, Colony.takeTurns (List.range c.population) Table.empty
      (c.board.withLimits w.limits) = (.ok actions, board) := by
    rw [Colony.step, under, (sameTally_withLimits c _ _).population_eq] at stepped
    split at stepped
    · cases stepped
    · next actions board taken => exact ⟨actions, board, taken⟩
  obtain ⟨actions, board, taken⟩ := taken
  obtain ⟨left, rfl, taken'⟩ := w.takeTurns taken
  -- One report and one colony serve both limits: a report counts no limits.
  obtain ⟨r', e, ends⟩ := exists_step c actions left round
  rw [under, ends w.value w.limits taken] at stepped
  cases stepped
  exact ⟨e, rfl, ends w.wideValue w.wide taken'⟩

theorem sleep (c : Colony κ) (clock : Clock) (delay : Value) :
    w.Carries ((w.under c).sleep clock delay) ((w.beyond c).sleep clock delay) := by
  refine w.carries_of_commutes (f := fun c => c.sleep clock delay) fun value limits => ?_
  rw [Colony.sleep, Colony.sleep]
  split <;> rfl

theorem playRounds (clock : Clock) (delay : Value) (count : Nat) (round : Int) (c : Colony κ) :
    w.Carries (Colony.playRounds clock delay count round (w.under c))
      (Colony.playRounds clock delay count round (w.beyond c)) := by
  induction count generalizing round c with
  | zero =>
    intro reports after played
    cases played
    exact ⟨c, rfl, rfl⟩
  | succ count ih =>
    intro reports after played
    rw [Colony.playRounds] at played
    cases stepped : (w.under c).step round with
    | mk result next =>
      rw [stepped] at played
      cases result with
      | error fault => cases played
      | ok r =>
        obtain ⟨next, rfl, stepped'⟩ := w.step c round r next stepped
        dsimp only at played
        cases slept : (w.under next).sleep clock delay with
        | mk result rested =>
          rw [slept] at played
          cases result with
          | error fault => cases played
          | ok _ =>
            obtain ⟨rested, rfl, slept'⟩ := w.sleep next clock delay _ rested slept
            dsimp only at played
            cases more : Colony.playRounds clock delay count (round + 1) (w.under rested) with
            | mk result last =>
              rw [more] at played
              cases result with
              | error fault => cases played
              | ok rest =>
                cases played
                obtain ⟨last, rfl, more'⟩ := ih (round + 1) rested rest _ more
                refine ⟨last, rfl, ?_⟩
                rw [Colony.playRounds]
                simp only [stepped', slept', more']

theorem run (c : Colony κ) (rounds pause : Option Value) :
    w.Carries ((w.under c).run rounds pause) ((w.beyond c).run rounds pause) := by
  intro reports after ran
  rw [under, Colony.run, rounds_withLimits, pause_withLimits, reports_withLimits] at ran
  rw [beyond, Colony.run, rounds_withLimits, pause_withLimits, reports_withLimits]
  cases counted : (rounds.getD c.settings.rounds).toCount with
  | error fault =>
    rw [counted] at ran
    cases ran
  | ok count =>
    rw [counted] at ran
    dsimp only at ran ⊢
    cases played : Colony.playRounds .system (pause.getD c.settings.pause) count.toNat c.reports.size
      (c.withLimits w.value w.limits) with
    | mk result last =>
      rw [played] at ran
      cases result with
      | error fault => cases ran
      | ok reports =>
        obtain ⟨last, rfl, played'⟩ := w.playRounds _ _ _ _ c reports last played
        cases ran
        rw [beyond] at played'
        have told (value : Value) (limits : Nat → Option TurnLimit) :=
          (sameTally_withLimits last value limits).finishedEntry_eq (rounds.getD c.settings.rounds)
        refine ⟨last.note (last.finishedEntry (rounds.getD c.settings.rounds)), ?_, ?_⟩
        · rw [under, told]
          rfl
        · simp only [played']
          rw [beyond, told]
          rfl

/-! ## Operations -/

theorem face (c : Colony κ) (slot : Nat) (direction : Value) :
    w.Carries ((w.under c).face slot direction) ((w.beyond c).face slot direction) := by
  refine w.carries_of_commutes (f := fun c => c.face slot direction) fun value limits => ?_
  have board : (c.withLimits value limits).board.face slot direction = _ :=
    Board.face_revise (.limits limits) c.board slot direction
  rw [Colony.face, Colony.face, board]
  cases c.board.face slot direction <;> rfl

theorem answered {α : Type} {x y : Except Fault α × Colony κ} (carries : w.Carries x y)
    (answer : α → Answer) : w.Carries (Colony.answered answer x) (Colony.answered answer y) := by
  obtain ⟨result, left⟩ := x
  intro given after same
  cases result with
  | error fault => cases same
  | ok a =>
    cases same
    obtain ⟨e, rfl, rfl⟩ := carries a left rfl
    exact ⟨e, rfl, rfl⟩

theorem perform (c : Colony κ) {operation : Operation} (plays : operation.plays = true) :
    w.Carries ((w.under c).perform operation) ((w.beyond c).perform operation) := by
  cases operation with
  | add | reset => cases plays
  | face slot direction => exact w.answered (w.face c slot direction) _
  | turn slot => exact w.answered (w.turn c slot) _
  | step round => exact w.answered (w.step c round) _
  | run rounds pause => exact w.answered (w.run c rounds pause) _

/-- Operations that all end under the limits, end in the same way under the wider ones. -/
theorem performAll {c : Colony κ} {operations : List Operation}
    (plays : ∀ operation ∈ operations, operation.plays = true)
    (ends : ∀ result ∈ ((w.under c).performAll operations).1, result.isOk = true) :
    ∃ e, ((w.under c).performAll operations).2 = w.under e ∧
      (w.beyond c).performAll operations = (((w.under c).performAll operations).1, w.beyond e) := by
  induction operations generalizing c with
  | nil => exact ⟨c, rfl, rfl⟩
  | cons operation rest ih =>
    cases performed : (w.under c).perform operation with
    | mk result next =>
      have whole : (w.under c).performAll (operation :: rest) =
          (result :: (next.performAll rest).1, (next.performAll rest).2) := by
        rw [Colony.performAll, performed]
      rw [whole] at ends ⊢
      obtain ⟨ended, more⟩ := List.forall_mem_cons.1 ends
      cases result with
      | error fault => cases ended
      | ok answer =>
        obtain ⟨next, rfl, performed'⟩ :=
          w.perform c (plays operation List.mem_cons_self) answer next performed
        obtain ⟨last, same, all⟩ :=
          ih (fun other later => plays other (List.mem_cons_of_mem _ later)) more
        refine ⟨last, same, ?_⟩
        rw [Colony.performAll, performed', all]

end Widening

/-! ## What a limit decides -/

/-- A limit only cuts turns off.

A turn that ends with an action comes to it as its instruction of some number, after jumps. Under a
limit of that many instructions or more, and also without one, the turn ends with the same action and
leaves the same board and coin. Under a smaller limit it is cut off: as many jumps as the limit allows
were run, and nothing has changed but the creature's counter and the coin.

So a run of a colony in which no operation fails is the same under any wider limits: the operations
have the same results and leave the same colony, up to the limits. -/
theorem limit_cuts_off {σ : Type} [CoinSource σ] :
    (∀ (b : Board σ) slot d, b.creatures[slot]? = some d →
      (∀ action after, b.turn slot = (.ok action, after) → ∃ m, Board.Acts slot m b action after) ∧
      ∀ m action after, Board.Acts slot m b action after → ∀ limits,
        (∀ limit, limits slot = some limit →
          (m ≤ limit.steps →
            (b.withLimits limits).turn slot = (.ok action, after.withLimits limits)) ∧
          (limit.steps < m → ∃ counter coin,
            Board.Jumps slot limit.steps b (b.paused slot counter coin) ∧
            (b.withLimits limits).turn slot =
              (.error (.turnLimit d.id d.species.name limit.text),
                (b.paused slot (d.program.wrap counter) coin).withLimits limits))) ∧
        (limits slot = none → LawfulCoinSource σ →
          (b.withLimits limits).turn slot = (.ok action, after.withLimits limits))) ∧
    ∀ (c : Colony κ) value limits operations,
      (∀ operation ∈ operations, operation.plays = true) →
      (∀ (slot : Nat) d, c.board.creatures[slot]? = some d →
        TurnLimit.Allows (limits slot) d.limit) →
      (∀ slot, limits slot = none → LawfulCoinSource κ) →
      (∀ result ∈ (c.performAll operations).1, result.isOk = true) →
      (c.withLimits value limits).performAll operations =
        ((c.performAll operations).1, (c.performAll operations).2.withLimits value limits) := by
  constructor
  · intro b slot d here
    refine ⟨fun action after turned => ?_, fun m action after acts limits => ⟨?_, ?_⟩⟩
    · obtain ⟨m, acts, -⟩ := Board.acts_of_turn here turned
      exact ⟨m, acts⟩
    · intro limit limited
      refine ⟨fun within => ?_, Board.turn_of_late here acts limited⟩
      refine Board.turn_of_acts (Board.getElem?_withLimits here)
        (Board.acts_withLimits.2 ⟨after, acts, rfl⟩) ?_
      rw [limited]
      exact within
    · intro unlimited lawful
      refine Board.turn_of_acts (Board.getElem?_withLimits here)
        (Board.acts_withLimits.2 ⟨after, acts, rfl⟩) ?_
      have patient : m ≤ b.patience d := acts.le_patience here
      rw [unlimited]
      exact patient
  · intro c value limits operations plays allows lawful ends
    -- A slot without creature has the wider limit both times.
    let w : Widening κ :=
      { value := c.settings.turnLimit
        limits := fun slot => (c.board.creatures[slot]?).elim (limits slot) Creature.limit
        wideValue := value
        wide := limits
        allows := fun slot => by
          cases here : c.board.creatures[slot]? with
          | none => exact .refl _
          | some d => exact allows slot d here
        lawful := lawful }
    have self : w.under c = c := withLimits_self fun here => by
      show _ = (c.board.creatures[_]?).elim _ _
      rw [here]
      rfl
    rw [← self] at ends
    obtain ⟨e, same, all⟩ := w.performAll plays ends
    rw [self] at same all
    have widened : (w.under e).withLimits value limits = w.beyond e :=
      withLimits_withLimits e _ _ _ _
    rw [same, widened]
    exact all

/-- The trap turns left with its second instruction, so a limit of one cuts it off; two rounds with
the hopper are the same without a limit. -/
theorem facingLane_limits :
    (∃ after, Board.Acts 1 2 facingLane.board .left after) ∧
      (∃ left, (facingLane.board.withLimits fun _ => some ⟨1, "1"⟩).turn 1 =
        (.error (.turnLimit 1 "Trap" "1"), left)) ∧
      ((facingLane.withLimits .null fun _ => none).performAll [.step 0, .step 1]).1 =
        (facingLane.performAll [.step 0, .step 1]).1 := by
  have acts : ∃ after, Board.Acts 1 2 facingLane.board .left after := ⟨_, .jump rfl (.act rfl)⟩
  have here : facingLane.board.creatures[1]? = some
      ⟨1, ⟨1, trap⟩, ⟨2, 0⟩, .west, 1, 0, 0, some ⟨5, "5"⟩, true⟩ := by decide +kernel
  have ends : ∀ result ∈ (facingLane.performAll [.step 0, .step 1]).1, result.isOk = true := by
    decide +kernel
  obtain ⟨turns, runs⟩ := limit_cuts_off (σ := Dice) (κ := Script)
  refine ⟨acts, ?_, ?_⟩
  · obtain ⟨after, acts⟩ := acts
    obtain ⟨-, late⟩ :=
      ((turns facingLane.board 1 _ here).2 2 .left after acts fun _ => some ⟨1, "1"⟩).1 ⟨1, "1"⟩ rfl
    obtain ⟨counter, coin, -, cut⟩ := late (by decide)
    exact ⟨_, cut⟩
  · rw [runs facingLane .null (fun _ => none) [.step 0, .step 1] (by decide)
      (fun _ _ _ _ unlimited => nomatch unlimited) (fun _ _ => inferInstance) ends]

end Vivarium.Colony
