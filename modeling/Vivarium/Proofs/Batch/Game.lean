import Vivarium.Batch.Run
import Vivarium.Proofs.Colony.Schedule

/-!
# Batch runs play the game

Between two rounds a batch run writes down what was reported, and pauses. Neither is part of the game.

1. `play_samePlay`: the rounds of a batch run are those of the game. `play_of_restless`: if the clock
   cannot wait, the first round is played and no other.
2. `Ends`: what becomes of a batch run is what came of its rounds, unless a file cannot be written.
3. `follows_of_played`: so a batch run from settings follows the game that its rounds are (`Follows`).
-/

namespace Vivarium.Batch

open Colony

variable {c : Colony} {folder : Folder} {request : Request} {settings : Settings} {clock : Clock}
  {entropy : Entropy} {count : Nat}

theorem play_samePlay {long : Bool} (waits : clock.pause c.settings.pause = .ok long)
    (labels : List String) (deterministic : Bool) (count : Nat) (ledger : Ledger) :
    SamePlay (playOn count c)
      ((play clock labels deterministic count c.reports.size c ledger).1,
        (play clock labels deterministic count c.reports.size c ledger).2.1) := by
  induction count generalizing c ledger with
  | zero => exact ⟨rfl, .refl c⟩
  | succ count ih =>
    have settings := step_settings c c.reports.size
    rw [play]
    cases stepped : c.step c.reports.size with
    | mk result after =>
      rw [stepped] at settings
      cases result with
      | error fault => exact .of_step_error stepped
      | ok r =>
        have waits' : clock.pause after.settings.pause = .ok long := by rw [settings, waits]
        obtain ⟨rested, slept, same, kept⟩ := exists_rested (c := after) waits'
        have more := SamePlay.of_step_ok stepped same
          (ih (by rw [kept, waits']) (ledger.record labels deterministic r))
        dsimp only
        rw [slept, next_number stepped same]
        exact more

theorem play_of_restless {fault : Fault} (restless : clock.pause c.settings.pause = .error fault)
    (labels : List String) (deterministic : Bool) (count : Nat) (ledger : Ledger) :
    SamePlay (playOnce fault c)
      ((play clock labels deterministic (count + 1) c.reports.size c ledger).1,
        (play clock labels deterministic (count + 1) c.reports.size c ledger).2.1) := by
  have settings := step_settings c c.reports.size
  rw [play, playOnce, playOn]
  cases stepped : c.step c.reports.size with
  | mk result after =>
    rw [stepped] at settings
    cases result with
    | error cause => exact ⟨rfl, .refl after⟩
    | ok r =>
      have stuck : after.sleep clock after.settings.pause = (.error fault, after) := by
        rw [sleep, settings, restless]
      dsimp only
      rw [stuck]
      exact ⟨rfl, .refl after⟩

/-! ## What becomes of a batch run -/

/-- The rounds of a batch run: what comes of them, and the colony after them. -/
def played (clock : Clock) (request : Request) (count : Nat) (c : Colony) : Except Fault Unit × Colony :=
  ((play clock c.labels request.deterministic count 0 c (Ledger.start c)).1,
    (play clock c.labels request.deterministic count 0 c (Ledger.start c)).2.1)

/-- Whether the log can be opened, if one was asked for. -/
def Opens (folder : Folder) (request : Request) (c : Colony) : Prop :=
  ∃ opened, writeLog folder request.log (Ledger.start c).log = .ok opened

inductive Ends (folder : Folder) (clock : Clock) (request : Request) (c : Colony) (count : Nat) :
    Except Fault Colony → Prop
  | unopened {fault : Fault} (closed : ¬ Opens folder request c) :
      Ends folder clock request c count (.error fault)
  | stopped {fault : Fault} (failed : (played clock request count c).1 = .error fault) :
      Ends folder clock request c count (.error fault)
  | unsummarised {fault : Fault} (done : (played clock request count c).1 = .ok ())
      (asked : request.summary ≠ none) : Ends folder clock request c count (.error fault)
  | finished (done : (played clock request count c).1 = .ok ()) :
      Ends folder clock request c count (.ok (played clock request count c).2)

theorem perform_ends (counted : c.settings.rounds.toCount = .ok count) :
    Ends folder clock request c count (perform folder request c clock).1 := by
  have came : (played clock request count c).1 =
      (play clock c.labels request.deterministic count 0 c (Ledger.start c)).1 := rfl
  have left : (played clock request count c).2 =
      (play clock c.labels request.deterministic count 0 c (Ledger.start c)).2.1 := rfl
  rw [perform]
  dsimp only
  cases log : writeLog folder request.log (Ledger.start c).log with
  | error fault =>
    refine .unopened fun opens => ?_
    obtain ⟨opened, found⟩ := opens
    cases log.symm.trans found
  | ok opened =>
    rw [counted]
    dsimp only [Int.toNat_natCast]
    generalize play clock c.labels request.deterministic count 0 c (Ledger.start c) = result at came left
    obtain ⟨result, last, ledger⟩ := result
    dsimp only at came left
    subst left
    cases result with
    | error fault => exact .stopped came
    | ok _ =>
      cases asked : request.summary with
      | none => exact .finished came
      | some path =>
        dsimp only
        split
        · exact .unsummarised came (by rw [asked]; exact Option.some_ne_none path)
        · exact .finished came

/-- A batch run of a colony that was founded from settings follows a game. -/
structure Follows (folder : Folder) (request : Request) (settings : Settings) (clock : Clock)
    (entropy : Entropy) (c : Colony) (count : Nat) (game : Except Fault Unit × Colony) : Prop where
  rounds : SamePlay game (played clock request count c)
  /-- The colony that the run gives is the one after the game, and no round failed. -/
  returned : ∀ d, (runSettings folder request settings clock entropy).1 = .ok d →
    SamePlay game ((.ok () : Except Fault Unit), d)
  /-- A fault in a round of the game is the fault of the run. -/
  raised : ∀ fault, Opens folder request c → game.1 = .error fault →
    (runSettings folder request settings clock entropy).1 = .error fault
  /-- If no round fails then nothing but a file can stop the run. -/
  finished : Opens folder request c → request.summary = none → game.1 = .ok () →
    ∃ d, (runSettings folder request settings clock entropy).1 = .ok d

/-- A batch run that follows a game follows every one that comes out the same. -/
theorem Follows.of_samePlay {game other : Except Fault Unit × Colony}
    (follows : Follows folder request settings clock entropy c count game)
    (same : SamePlay other game) : Follows folder request settings clock entropy c count other where
  rounds := same.trans follows.rounds
  returned d done := same.trans (follows.returned d done)
  raised fault opens failed := follows.raised fault opens (same.eq_error failed)
  finished opens unsummarised done := follows.finished opens unsummarised (same.eq_ok done)

theorem runSettings_of_created
    (created : (Colony.create folder settings { entropy := entropy }).1 = .ok c) (request : Request)
    (clock : Clock) :
    runSettings folder request settings clock entropy = perform folder request c clock := by
  rw [runSettings]
  generalize Colony.create folder settings { entropy := entropy } = result at created
  obtain ⟨result, journal⟩ := result
  dsimp only at created
  subst created
  rfl

theorem played_samePlay {long : Bool} (unreported : c.reports = #[])
    (waits : clock.pause c.settings.pause = .ok long) (request : Request) (count : Nat) :
    SamePlay (playOn count c) (played clock request count c) := by
  have numbered := play_samePlay waits c.labels request.deterministic count (Ledger.start c)
  rw [unreported] at numbered
  exact numbered

theorem played_of_restless {fault : Fault} (unreported : c.reports = #[])
    (restless : clock.pause c.settings.pause = .error fault) (request : Request) (count : Nat) :
    SamePlay (playOnce fault c) (played clock request (count + 1) c) := by
  have numbered := play_of_restless restless c.labels request.deterministic count (Ledger.start c)
  rw [unreported] at numbered
  exact numbered

theorem follows_of_played (created : (Colony.create folder settings { entropy := entropy }).1 = .ok c)
    (counted : settings.rounds.toCount = .ok count) {game : Except Fault Unit × Colony}
    (rounds : SamePlay game (played clock request count c)) :
    Follows folder request settings clock entropy c count game := by
  obtain ⟨valid, same, -⟩ := settled_of_created created
  have counted' : c.settings.rounds.toCount = .ok count := by rw [same, counted]
  have ends : Ends folder clock request c count (runSettings folder request settings clock entropy).1 :=
    runSettings_of_created created request clock ▸ perform_ends counted'
  generalize ended : (runSettings folder request settings clock entropy).1 = result at ends
  refine ⟨rounds, ?_, ?_, ?_⟩ <;> rw [ended]
  · rintro d rfl
    cases ends with
    | finished done =>
      exact rounds.trans ⟨congrArg outcome done.symm, .refl _⟩
  · intro fault opens failed
    have failed' := rounds.eq_error failed
    cases ends with
    | unopened closed => exact absurd opens closed
    | stopped stopped =>
      cases failed'.symm.trans stopped
      rfl
    | unsummarised done | finished done => cases failed'.symm.trans done
  · intro opens unsummarised done
    have done' := rounds.eq_ok done
    cases ends with
    | unopened closed => exact absurd opens closed
    | stopped stopped => cases done'.symm.trans stopped
    | unsummarised _ asked => exact absurd unsummarised asked
    | finished => exact ⟨_, rfl⟩

end Vivarium.Batch
