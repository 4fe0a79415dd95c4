import Vivarium.Proofs.Colony.Reset

/-!
# The game that is played in a colony

A game goes on from the creatures on the grid, the coin and the reports so far. The settings and
what is written down are no part of it, and a round plays the same in colonies with the same game.

1. `SameGame` and `SameGame.step`: what is the same in two colonies, and stays so in a round.
2. `playOn`: rounds one after the other, numbered by the reports, up to one that fails.
   `playOn_add` takes a game apart, and `Serial.playOn` and `counts_of_report` say what it reports.
3. `runAll_samePlay`: runs, one after the other, are that game, however its rounds are split among
   them. `runAll_of_restless`: if the clock cannot wait, the first round is played and no other.
-/

namespace Vivarium

namespace Colony

variable {κ : Type}

/-! ## The same game -/

/-- Two colonies in which the same game is played. Their settings may differ, and what is written
down in them: the drawings, the journal and the pauses. -/
structure SameGame (c d : Colony κ) : Prop where
  roster : d.roster = c.roster
  grid : d.board.grid = c.board.grid
  creatures : d.board.creatures = c.board.creatures
  coin : d.board.coin = c.board.coin
  nextId : d.nextId = c.nextId
  populates : d.populates = c.populates
  reports : d.reports = c.reports

def withSettings (c : Colony κ) (settings : Settings) : Colony κ := { c with settings := settings }

namespace SameGame

variable {c d e : Colony κ}

theorem refl (c : Colony κ) : c.SameGame c := ⟨rfl, rfl, rfl, rfl, rfl, rfl, rfl⟩

theorem symm (same : c.SameGame d) : d.SameGame c :=
  ⟨same.roster.symm, same.grid.symm, same.creatures.symm, same.coin.symm, same.nextId.symm,
    same.populates.symm, same.reports.symm⟩

theorem trans (first : c.SameGame d) (second : d.SameGame e) : c.SameGame e :=
  ⟨second.roster.trans first.roster, second.grid.trans first.grid,
    second.creatures.trans first.creatures, second.coin.trans first.coin,
    second.nextId.trans first.nextId, second.populates.trans first.populates,
    second.reports.trans first.reports⟩

theorem sameState (same : c.SameGame d) : c.SameState (d.withSettings c.settings) :=
  ⟨rfl, same.roster, same.grid, same.creatures, same.coin, same.nextId, same.populates,
    same.reports⟩

theorem counts_eq (same : c.SameGame d) : d.counts = c.counts := by
  have number : d.countOf = c.countOf := by
    funext n
    rw [countOf, countOf, same.creatures]
  rw [counts, counts, labels_of_roster same.roster, same.roster, number]

end SameGame

theorem sameGame_withSettings (c : Colony κ) (settings : Settings) :
    c.SameGame (c.withSettings settings) :=
  ⟨rfl, rfl, rfl, rfl, rfl, rfl, rfl⟩

theorem SameState.sameGame {c d : Colony κ} (same : c.SameState d) : c.SameGame d :=
  ⟨same.roster, same.grid, same.creatures, same.coin, same.nextId, same.populates, same.reports⟩

/-- A pause is no part of the game. -/
theorem exists_rested {c : Colony κ} {clock : Clock} {delay : Value} {long : Bool}
    (waits : clock.pause delay = .ok long) :
    ∃ rested, c.sleep clock delay = (.ok (), rested) ∧ c.SameGame rested ∧
      rested.settings = c.settings := by
  rw [sleep, waits]
  cases long with
  | true => exact ⟨_, rfl, ⟨rfl, rfl, rfl, rfl, rfl, rfl, rfl⟩, rfl⟩
  | false => exact ⟨c, rfl, .refl c, rfl⟩

/-- What came of playing, besides the game that was played. -/
def outcome {α : Type} (result : Except Fault α) : Except Fault Unit := result.map fun _ => ()

/-- Two ways to play come out the same: the same fault stops both, or none does, and they leave the
same game. -/
structure SamePlay {α β : Type} (first : Except Fault α × Colony κ)
    (second : Except Fault β × Colony κ) : Prop where
  outcome : outcome second.1 = outcome first.1
  game : first.2.SameGame second.2

theorem SamePlay.trans {α β γ : Type} {first : Except Fault α × Colony κ}
    {second : Except Fault β × Colony κ} {third : Except Fault γ × Colony κ}
    (before : SamePlay first second) (after : SamePlay second third) : SamePlay first third :=
  ⟨after.outcome.trans before.outcome, before.game.trans after.game⟩

/-- A play without a result of its own comes out with the fault that the same play comes out with. -/
theorem SamePlay.eq_error {first second : Except Fault Unit × Colony κ} (same : SamePlay first second)
    {fault : Fault} (failed : first.1 = .error fault) : second.1 = .error fault := by
  obtain ⟨result, left⟩ := second
  have outcome := same.outcome
  rw [failed] at outcome
  cases result with
  | error other => exact outcome
  | ok _ => cases outcome

theorem SamePlay.eq_ok {first second : Except Fault Unit × Colony κ} (same : SamePlay first second)
    (done : first.1 = .ok ()) : second.1 = .ok () := by
  obtain ⟨result, left⟩ := second
  have outcome := same.outcome
  rw [done] at outcome
  cases result with
  | error other => cases outcome
  | ok _ => rfl

theorem SamePlay.of_eq_ok {first second : Except Fault Unit × Colony κ} (same : SamePlay first second)
    (done : second.1 = .ok ()) : first.1 = .ok () := by
  obtain ⟨result, left⟩ := first
  have outcome := same.outcome
  rw [done] at outcome
  cases result with
  | error fault => cases outcome
  | ok _ => rfl

section Rounds

variable [CoinSource κ] {c d : Colony κ}

/-! ## One round -/

theorem step_withSettings (c : Colony κ) (settings : Settings) (round : Int) :
    (c.withSettings settings).step round =
      ((c.step round).1, (c.step round).2.withSettings settings) := by
  have population : (c.withSettings settings).population = c.population := rfl
  have board : (c.withSettings settings).board = c.board := rfl
  rw [step, step, population, board]
  cases takeTurns (List.range c.population) Table.empty c.board with
  | mk result board => cases result <;> rfl

theorem SameState.step (same : c.SameState d) (round : Int) :
    (d.step round).1 = (c.step round).1 ∧ (c.step round).2.SameState (d.step round).2 := by
  obtain ⟨e, past, past', rfl, rfl⟩ := same.exists_recalling
  have first : (e.recalling past).step round = _ := (givenPast past).step e round
  have second : (e.recalling past').step round = _ := (givenPast past').step e round
  rw [first, second]
  exact ⟨rfl, (sameState_recalling _ past).symm.trans (sameState_recalling _ past')⟩

/-- A round plays the same. -/
theorem SameGame.step (same : c.SameGame d) (round : Int) :
    (d.step round).1 = (c.step round).1 ∧ (c.step round).2.SameGame (d.step round).2 := by
  obtain ⟨result, state⟩ := same.sameState.step round
  rw [step_withSettings] at result state
  exact ⟨result, state.sameGame.trans (sameGame_withSettings _ _).symm⟩

theorem size_reports_step {round : Int} {r : Report} {after : Colony κ}
    (stepped : c.step round = (.ok r, after)) : after.reports.size = c.reports.size + 1 := by
  obtain ⟨actions, board, -, -, rfl⟩ := step_eq_ok stepped
  exact Array.size_push r

/-! ## The game -/

/-- Plays a number of rounds, up to one that fails. Each has the number of the reports before it. -/
def playOn : Nat → Colony κ → Except Fault Unit × Colony κ
  | 0, c => (.ok (), c)
  | count + 1, c =>
    match c.step c.reports.size with
    | (.error fault, after) => (.error fault, after)
    | (.ok _, after) => playOn count after

theorem playOn_add (first second : Nat) (c : Colony κ) :
    playOn (first + second) c =
      match playOn first c with
      | (.ok _, mid) => playOn second mid
      | (.error fault, mid) => (.error fault, mid) := by
  induction first generalizing c with
  | zero => rw [Nat.zero_add]; rfl
  | succ first ih =>
    rw [Nat.succ_add, playOn, playOn]
    cases c.step c.reports.size with
    | mk result after =>
      cases result with
      | error fault => rfl
      | ok r => exact ih after

/-- The same game goes on the same. -/
theorem SameGame.playOn (same : c.SameGame d) (count : Nat) :
    SamePlay (playOn count c) (playOn count d) := by
  induction count generalizing c d with
  | zero => exact ⟨rfl, same⟩
  | succ count ih =>
    obtain ⟨result, left⟩ := same.step d.reports.size
    rw [Colony.playOn, Colony.playOn, ← same.reports]
    generalize d.step d.reports.size = played at result left
    generalize c.step d.reports.size = played' at result left
    obtain ⟨found, after⟩ := played
    obtain ⟨found', after'⟩ := played'
    dsimp only at result
    subst result
    cases found with
    | error fault => exact ⟨rfl, left⟩
    | ok r => exact ih left

/-- The reports are numbered from zero on. -/
def Serial (c : Colony κ) : Prop :=
  c.reports.toList.map Report.round = (List.range c.reports.size).map Int.ofNat

omit [CoinSource κ] in
theorem Serial.round_eq (serial : c.Serial) {i : Nat} {r : Report} (listed : c.reports[i]? = some r) :
    r.round = i := by
  have numbered := congrArg (·[i]?) serial
  obtain ⟨inside, rfl⟩ := Array.getElem?_eq_some_iff.1 listed
  simpa [inside] using numbered

theorem Serial.step (serial : c.Serial) {r : Report} {after : Colony κ}
    (stepped : c.step c.reports.size = (.ok r, after)) : after.Serial := by
  obtain ⟨actions, board, -, made, rfl⟩ := step_eq_ok stepped
  have number : r.round = c.reports.size := by rw [made]; rfl
  show (c.reports.push r).toList.map Report.round =
    (List.range (c.reports.push r).size).map Int.ofNat
  rw [Array.toList_push, List.map_append, Array.size_push, List.range_succ, List.map_append, serial,
    List.map_singleton, number]
  rfl

/-- A game numbers its rounds from zero on, and reports as many as were to be played unless one fails. -/
theorem Serial.playOn (serial : c.Serial) (count : Nat) :
    (playOn count c).2.Serial ∧
      (playOn count c).2.reports.size ≤ c.reports.size + count ∧
      ((playOn count c).1 = .ok () ↔ (playOn count c).2.reports.size = c.reports.size + count) := by
  induction count generalizing c with
  | zero => exact ⟨serial, Nat.le_refl _, iff_of_true rfl rfl⟩
  | succ count ih =>
    rw [Colony.playOn]
    rcases reports_step c c.reports.size with ⟨fault, after, failed, same⟩ | ⟨r, after, stepped, pushed⟩
    · have kept : after.Serial := by rw [Serial, same]; exact serial
      rw [failed]
      dsimp only
      rw [same]
      exact ⟨kept, Nat.le_add_right _ _, iff_of_false (fun done => by cases done) (by omega)⟩
    · have size := size_reports_step stepped
      obtain ⟨numbered, most, done⟩ := ih (serial.step stepped)
      rw [stepped]
      dsimp only
      rw [size] at most done
      refine ⟨numbered, by omega, done.trans ?_⟩
      rw [Nat.add_right_comm, Nat.add_assoc]

theorem roster_playOn (count : Nat) (c : Colony κ) : (playOn count c).2.roster = c.roster := by
  induction count generalizing c with
  | zero => rfl
  | succ count ih =>
    have kept := (step_plays c c.reports.size).roster_eq
    rw [playOn]
    cases stepped : c.step c.reports.size with
    | mk result after =>
      rw [stepped] at kept
      cases result with
      | error fault => exact kept
      | ok r => exact (ih after).trans kept

omit [CoinSource κ] in
theorem serial_of_unreported (unreported : c.reports = #[]) : c.Serial := by
  rw [Serial, unreported]
  rfl

/-- The report of a round counts the creatures that are there after it. -/
theorem counts_step {round : Int} {r : Report} {after : Colony κ} (stepped : c.step round = (.ok r, after)) :
    r.counts = after.counts := by
  obtain ⟨actions, board, -, rfl, rfl⟩ := step_eq_ok stepped
  rfl

/-- The reports of a game are those of its rounds, each with the counts that there are after it. -/
theorem counts_of_report (unreported : c.reports = #[]) {count i : Nat} {r : Report}
    (listed : (playOn count c).2.reports[i]? = some r) : r.counts = (playOn (i + 1) c).2.counts := by
  induction count with
  | zero => simp [playOn, unreported] at listed
  | succ count ih =>
    obtain ⟨-, -, ends⟩ := (serial_of_unreported unreported).playOn count
    rw [playOn_add] at listed
    have whole := playOn_add count 1 c
    cases played : playOn count c with
    | mk result mid =>
      rw [played] at listed ih ends whole
      cases result with
      | error fault => exact ih listed
      | ok _ =>
        dsimp only at listed whole ends
        rcases reports_step mid mid.reports.size with
          ⟨fault, after, failed, same⟩ | ⟨last, after, stepped, pushed⟩
        · have stops : playOn 1 mid = (.error fault, after) := by rw [playOn, failed]
          rw [stops] at listed
          exact ih (same ▸ listed)
        · have goes : playOn 1 mid = (.ok (), after) := by
            rw [playOn, stepped]
            rfl
          rw [goes] at listed whole
          dsimp only at listed
          rw [pushed, Array.getElem?_push] at listed
          split at listed
          · next here =>
            -- It is the last report, and so the number of rounds before it is that of the reports.
            have number : i = count := by rw [here, ends.1 rfl, unreported]; simp
            cases listed
            rw [number, whole, counts_step stepped]
          · exact ih listed

/-! ### One round more

Whoever plays the rounds comes out like the game if each round is played under its number and
nothing else is done to the game before the next one. -/

section Loops

variable {α : Type} {count : Nat} {after rested : Colony κ}

theorem SamePlay.of_step_error {fault : Fault}
    (failed : c.step c.reports.size = (.error fault, after)) :
    SamePlay (playOn (count + 1) c) ((.error fault, after) : Except Fault α × Colony κ) := by
  rw [Colony.playOn, failed]
  exact ⟨rfl, .refl after⟩

theorem SamePlay.of_step_ok {r : Report} {other : Except Fault α × Colony κ}
    (stepped : c.step c.reports.size = (.ok r, after)) (same : after.SameGame rested)
    (more : SamePlay (playOn count rested) other) : SamePlay (playOn (count + 1) c) other := by
  rw [Colony.playOn, stepped]
  exact (same.playOn count).trans more

/-- The number of the round that comes next. -/
theorem next_round {r : Report} (stepped : c.step c.reports.size = (.ok r, after))
    (same : after.SameGame rested) : rested.reports.size = c.reports.size + 1 := by
  rw [same.reports, size_reports_step stepped]

theorem next_number {r : Report} (stepped : c.step c.reports.size = (.ok r, after))
    (same : after.SameGame rested) : (c.reports.size : Int) + 1 = rested.reports.size := by
  rw [next_round stepped same]
  rfl

end Loops

/-! ## Runs -/

section Clocks

variable {clock : Clock} {long : Bool} {fault : Fault}

theorem playRounds_samePlay {delay : Value} (waits : clock.pause delay = .ok long) (count : Nat)
    (c : Colony κ) : SamePlay (playOn count c) (playRounds clock delay count c.reports.size c) := by
  induction count generalizing c with
  | zero => exact ⟨rfl, .refl c⟩
  | succ count ih =>
    rw [playRounds]
    cases stepped : c.step c.reports.size with
    | mk result after =>
      cases result with
      | error fault => exact .of_step_error stepped
      | ok r =>
        obtain ⟨rested, slept, same, -⟩ := exists_rested (c := after) waits
        have more := SamePlay.of_step_ok stepped same (ih rested)
        dsimp only
        rw [slept, next_number stepped same]
        dsimp only
        generalize playRounds clock delay count rested.reports.size rested = played at more
        obtain ⟨result, last⟩ := played
        cases result with
        | error fault => exact more
        | ok reports => exact ⟨more.outcome, more.game⟩

/-- The first round of a game, and a fault after it if that round had none. -/
def playOnce (fault : Fault) (c : Colony κ) : Except Fault Unit × Colony κ :=
  ((playOn 1 c).1.bind fun _ => .error fault, (playOn 1 c).2)

/-- If the clock cannot wait no round is played after the first one. -/
theorem playRounds_of_restless {delay : Value} (restless : clock.pause delay = .error fault)
    (count : Nat) (c : Colony κ) :
    SamePlay (playOnce fault c) (playRounds clock delay (count + 1) c.reports.size c) := by
  rw [playRounds, playOnce, playOn]
  cases c.step c.reports.size with
  | mk result after =>
    cases result with
    | error cause => exact ⟨rfl, .refl after⟩
    | ok r =>
      have stuck : after.sleep clock delay = (.error fault, after) := by rw [sleep, restless]
      dsimp only
      rw [stuck]
      exact ⟨rfl, .refl after⟩

/-- A run of so many rounds comes out as its rounds do. -/
theorem samePlay_run (clock : Clock) (pause : Option Value) (count : Nat) (c : Colony κ) :
    SamePlay (playRounds clock (pause.getD c.settings.pause) count c.reports.size c)
      (c.run (some (.int count)) pause clock) := by
  have counted : (Value.int count).toCount = .ok (count : Int) := rfl
  simp only [run, Option.getD_some, counted, Int.toNat_natCast]
  generalize playRounds clock (pause.getD c.settings.pause) count c.reports.size c = result
  obtain ⟨result, after⟩ := result
  cases result with
  | error fault => exact ⟨rfl, .refl after⟩
  | ok reports => exact ⟨rfl, ⟨rfl, rfl, rfl, rfl, rfl, rfl, rfl⟩⟩

theorem Play.settings_eq (play : Play c d) : d.settings = c.settings := by
  cases play <;> rfl

theorem Plays.settings_eq (chain : Plays c d) : d.settings = c.settings :=
  chain.keeps (P := fun e => e.settings = c.settings)
    (fun play same => play.settings_eq.trans same) rfl

theorem step_settings (c : Colony κ) (round : Int) : (c.step round).2.settings = c.settings :=
  (step_plays c round).settings_eq

/-- Runs of so many rounds each by a clock, one after the other, up to one that fails. -/
def runAll (clock : Clock) : List Nat → Colony κ → Except Fault Unit × Colony κ
  | [], c => (.ok (), c)
  | count :: rest, c =>
    match c.run (some (.int count)) none clock with
    | (.error fault, after) => (.error fault, after)
    | (.ok _, after) => runAll clock rest after

/-- However the rounds are split among runs, they are the rounds of the game. -/
theorem runAll_samePlay (waits : clock.pause c.settings.pause = .ok long) (counts : List Nat) :
    SamePlay (playOn counts.sum c) (runAll clock counts c) := by
  induction counts generalizing c with
  | nil => exact ⟨rfl, .refl c⟩
  | cons count rest ih =>
    have first : SamePlay (playOn count c) (c.run (some (.int count)) none clock) :=
      (playRounds_samePlay waits count c).trans (samePlay_run clock none count c)
    have settings := (run_plays c (some (.int count)) none clock).settings_eq
    rw [List.sum_cons, playOn_add, runAll]
    generalize playOn count c = played at first
    generalize c.run (some (.int count)) none clock = ran at first settings
    obtain ⟨result, mid⟩ := played
    obtain ⟨result', mid'⟩ := ran
    obtain ⟨outcome, same⟩ := first
    cases result with
    | error fault =>
      cases result' with
      | error fault' => exact ⟨outcome, same⟩
      | ok reports => cases outcome
    | ok _ =>
      cases result' with
      | error fault' => cases outcome
      | ok reports =>
        have more : SamePlay (playOn rest.sum mid') (runAll clock rest mid') :=
          ih (by rw [settings, waits])
        exact (same.playOn rest.sum).trans more

/-- A game that begins the same has the same first round. -/
theorem SameGame.playOnce (same : c.SameGame d) (fault : Fault) :
    SamePlay (playOnce fault c) (playOnce fault d) := by
  have first := same.playOn 1
  rw [Colony.playOnce, Colony.playOnce]
  generalize Colony.playOn 1 c = played at first
  generalize Colony.playOn 1 d = played' at first
  obtain ⟨result, left⟩ := played
  obtain ⟨result', left'⟩ := played'
  obtain ⟨outcome, game⟩ := first
  refine ⟨?_, game⟩
  cases result with
  | error cause =>
    cases result' with
    | error cause' => exact outcome
    | ok _ => cases outcome
  | ok _ =>
    cases result' with
    | error cause' => cases outcome
    | ok _ => rfl

/-- If the clock cannot wait, the first of the runs that has a round plays that one, and then fails. -/
theorem runAll_of_restless (restless : clock.pause c.settings.pause = .error fault) {counts : List Nat}
    (positive : 1 ≤ counts.sum) : SamePlay (playOnce fault c) (runAll clock counts c) := by
  induction counts generalizing c with
  | nil => cases positive
  | cons count rest ih =>
    have first := samePlay_run clock none count c
    have settings := (run_plays c (some (.int count)) none clock).settings_eq
    rw [runAll]
    cases count with
    | zero =>
      generalize c.run (some (.int (0 : Nat))) none clock = ran at first settings
      obtain ⟨result, mid⟩ := ran
      obtain ⟨outcome, same⟩ := first
      cases result with
      | error cause => cases outcome
      | ok reports =>
        have later : 1 ≤ rest.sum := by simpa using positive
        exact (same.playOnce fault).trans (ih (by rw [settings, restless]) later)
    | succ count =>
      have stopped := (playRounds_of_restless restless count c).trans first
      generalize c.run (some (.int (count + 1 : Nat))) none clock = ran at stopped
      obtain ⟨result, mid⟩ := ran
      cases result with
      | error cause => exact ⟨stopped.outcome, stopped.game⟩
      | ok reports =>
        -- A first round that fails and one that does not both end in a fault.
        have outcome := stopped.outcome
        rw [playOnce] at outcome
        generalize (playOn 1 c).1 = played at outcome
        cases played <;> cases outcome

end Clocks

end Rounds

end Colony

end Vivarium
