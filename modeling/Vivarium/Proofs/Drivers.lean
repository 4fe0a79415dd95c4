import Vivarium.Proofs.Batch.Game
import Vivarium.Proofs.Station.Game
import Vivarium.Proofs.Window.Game

/-!
# Whoever plays the rounds plays the same game

The rounds of a colony are played in runs, by a batch run, before a window, or by a station. These number
the rounds each in its own way, and do other things between them. The game is the same. But a station does
not pause after a round: where the clock or the window cannot wait, the others stop after the first round,
and the station plays on.

* `Driven`: what it means that all of them play the game of a founded colony.
* `driven_of_created`: they do, for any number of rounds up to that of the settings.
-/

namespace Vivarium.Colony

/-- Whoever plays so many rounds of a colony that was founded from settings plays the same game: the one
that `playOn` plays round by round. If a round fails, it fails for all of them, and they leave the same
game. If a pause fails, the rounds up to it are those of the game. -/
structure Driven (folder : Folder) (settings : Settings) (entropy : Entropy) (c : Colony) (count : Nat) :
    Prop where
  /-- The rounds are numbered from zero on. All of them are reported, unless one fails. -/
  reported : (playOn count c).2.Serial ∧ (playOn count c).2.reports.size ≤ count ∧
    ((playOn count c).1 = .ok () ↔ (playOn count c).2.reports.size = count)
  /-- Runs, one after the other, however the rounds are split among them. -/
  runs : ∀ (clock : Clock) (counts : List Nat), counts.sum = count →
    (∀ long, clock.pause settings.pause = .ok long →
      SamePlay (playOn count c) (runAll clock counts c)) ∧
    ∀ fault, clock.pause settings.pause = .error fault →
      SamePlay (playOnce fault c) (runAll clock counts c)
  /-- A batch run from the settings with this number of rounds, whatever it writes, and whatever comes from
  outside unless there is no seed. -/
  batch : ∀ (clock : Clock) (request : Batch.Request) (other : Entropy),
    entropy.Alike other settings.seed → ∃ d,
      (create folder (settings.withRounds (.int count)) { entropy := other }).1 = .ok d ∧
      c.SameGame d ∧
      (∀ long, clock.pause settings.pause = .ok long →
        Batch.Follows folder request (settings.withRounds (.int count)) clock other d count
          (playOn count c)) ∧
      ∀ fault, clock.pause settings.pause = .error fault →
        Batch.Follows folder request (settings.withRounds (.int count)) clock other d count
          (playOnce fault c)
  /-- A run before a window that is not closed, whatever it shows and hears. -/
  watched : ∀ (window : Window) (pause : Value),
    (Window.waiting pause = .ok () →
      ((Watch.start c window).run (.int count) pause).2.window.closed = false →
      SamePlay (playOn count c) (Watch.seen ((Watch.start c window).run (.int count) pause))) ∧
    ∀ fault, Window.waiting pause = .error fault →
      SamePlay (playOnce fault c) (Watch.seen ((Watch.start c window).run (.int count) pause))
  /-- The advances of a station that sends pictures after any number of rounds, whatever goes on before
  each of them, and whatever comes from outside unless there is no seed. -/
  station : ∀ (interval : Int) (other : Entropy), entropy.Alike other settings.seed →
    ∃ s, Station.create folder settings interval other = .ok s ∧
      ∀ traffic : List (List Station.Traffic), traffic.length = count →
        SamePlay (playOn count c)
          ((Station.advanceAll traffic s).1, (Station.advanceAll traffic s).2.colony)

variable {folder : Folder} {settings : Settings} {entropy : Entropy} {c : Colony}

/-- All play the same game, if the settings have a whole number of rounds and no more are played. -/
theorem driven_of_created (created : (create folder settings { entropy := entropy }).1 = .ok c)
    {rounds : Int} (whole : settings.rounds.whole? = some rounds) {count : Nat} (positive : 1 ≤ count)
    (within : count ≤ rounds) : Driven folder settings entropy c count := by
  obtain ⟨-, same, -⟩ := settled_of_created created
  have fresh := reports_of_created created
  obtain ⟨rest, more⟩ := Nat.exists_eq_add_of_le' positive
  -- Whatever comes from outside, the same colony is founded.
  have founded (other : Entropy) (alike : entropy.Alike other settings.seed) :
      (create folder settings { entropy := other }).1 = .ok c := by
    have again : create folder settings ({ entropy := other } : Founding) =
        create folder settings { entropy := entropy } := create_of_alike { entropy := entropy } alike
    rw [again, created]
  constructor
  case reported =>
    have serial : c.Serial := serial_of_unreported fresh
    have reported := serial.playOn count
    rw [fresh, Array.size_empty, Nat.zero_add] at reported
    exact reported
  case runs =>
    rintro clock counts rfl
    exact ⟨fun long waits => runAll_samePlay (same.symm ▸ waits) counts,
      fun fault restless => runAll_of_restless (same.symm ▸ restless) positive⟩
  case batch =>
    intro clock request other alike
    have again := create_withRounds (founded other alike) positive
    have sameGame : c.SameGame (c.withRounds (.int count)) := sameGame_withSettings c _
    have unreported : (c.withRounds (.int count)).reports = #[] := fresh
    have pause : (c.withRounds (.int count)).settings.pause = settings.pause := by
      rw [← same]
      rfl
    refine ⟨_, again, sameGame, fun long waits => ?_, fun fault restless => ?_⟩
    · have rounds := Batch.played_samePlay unreported (pause ▸ waits) request count
      exact (Batch.follows_of_played again rfl rounds).of_samePlay (sameGame.playOn count)
    · have rounds := Batch.played_of_restless unreported (pause ▸ restless) request rest
      rw [← more] at rounds
      exact (Batch.follows_of_played again rfl rounds).of_samePlay (sameGame.playOnce fault)
  case watched =>
    intro window pause
    refine ⟨fun patient stays => ?_, fun fault restless => ?_⟩
    · exact Watch.run_samePlay (w := Watch.start c window) patient fresh stays
    · subst more
      exact Watch.run_of_restless (w := Watch.start c window) restless fresh
  case station =>
    intro interval other alike
    obtain ⟨s, opened, rfl, start⟩ := Station.exists_created (founded other alike) interval
    refine ⟨s, opened, ?_⟩
    rintro traffic rfl
    refine Station.advanceAll_samePlay (by rw [same, whole]) ?_ traffic ?_
    · rw [start, fresh]
      rfl
    · rw [start]
      omega

/-- A window that hears keys and is never closed. -/
def quietWindow : Window := ⟨.whole 40, true, false, #[], [[.key], [], [.key]]⟩

/-- Two runs of a round each play the two rounds of the lane with its hopper, and so does a run before that
window. -/
theorem hopLane_driven :
    (create .empty hopSettings {}).1 = .ok hopLane ∧ hopLane.population = 1 ∧
    SamePlay (playOn 2 hopLane) (runAll .system [1, 1] hopLane) ∧
    SamePlay (playOn 2 hopLane)
      (Watch.seen ((Watch.start hopLane quietWindow).run (.int (2 : Nat)) (.int 0))) := by
  obtain ⟨created, single⟩ := hopLane_created
  have stays : ((Watch.start hopLane quietWindow).run (.int (2 : Nat)) (.int 0)).2.window.closed =
      false := by
    decide +kernel
  have driven : Driven .empty hopSettings .still hopLane 2 :=
    driven_of_created created rfl (by decide) (by decide)
  obtain ⟨runs, -⟩ := driven.runs .system [1, 1] rfl
  obtain ⟨watched, -⟩ := driven.watched quietWindow (.int 0)
  exact ⟨created, single, runs false rfl, watched rfl stays⟩

/-- The lane with a hopper and a pause of more than three hundred years after each round. -/
def restlessSettings : Settings := { hopSettings with pause := .int (Nat.pow 10 10) }

/-- The lane without a seed. -/
def unseededSettings : Settings := { hopSettings with count := .int 0, seed := .null }

def outside (word : UInt32) : Entropy := ⟨fun _ => ⟨Vector.replicate 624 word, ⟨0, by decide⟩⟩, 0⟩

/-- With that pause, a run that is asked for two rounds plays one, and two advances of a station play both.
And without a seed, two colonies are not founded with the same game. -/
theorem restlessLane_undriven :
    (∃ (c : Colony) (s : Station), (create .empty restlessSettings {}).1 = .ok c ∧
      Station.create .empty restlessSettings 1 = .ok s ∧
      (runAll .system [2] c).1 = .error (.longPause restlessSettings.pause) ∧
      (runAll .system [2] c).2.reports.size = 1 ∧
      (Station.advanceAll [[], []] s).1 = .ok () ∧
      (Station.advanceAll [[], []] s).2.colony.reports.size = 2) ∧
    ∃ c d : Colony, (create .empty unseededSettings { entropy := outside 1 }).1 = .ok c ∧
      (create .empty unseededSettings { entropy := outside 2 }).1 = .ok d ∧ ¬ c.SameGame d := by
  constructor
  · have sizes : (create .empty restlessSettings {} : Except Fault Colony × _).1.toOption.map
        (fun c => ((playOn 1 c).2.reports.size, (playOn 2 c).2.reports.size)) = some (1, 2) := by
      decide +kernel
    obtain ⟨c, created, played⟩ := Fault.exists_of_toOption_map sizes
    obtain ⟨one, two⟩ := Prod.mk.inj played
    obtain ⟨-, same, -⟩ := settled_of_created created
    have fresh := reports_of_created created
    have serial := serial_of_unreported fresh
    have first : (playOn 1 c).1 = .ok () := (serial.playOn 1).2.2.2 (by rw [one, fresh]; rfl)
    have both : (playOn 2 c).1 = .ok () := (serial.playOn 2).2.2.2 (by rw [two, fresh]; rfl)
    have restless : Clock.system.pause c.settings.pause =
        .error (.longPause restlessSettings.pause) := by
      rw [same]
      rfl
    have runs : SamePlay (playOnce (.longPause restlessSettings.pause) c) (runAll .system [2] c) :=
      runAll_of_restless restless (by decide)
    obtain ⟨s, opened, rfl, start⟩ := Station.exists_created created 1
    have two_rounds : s.colony.settings.rounds.whole? = some 2 := by rw [same]; rfl
    have advances := Station.advanceAll_samePlay two_rounds (by rw [start, fresh]; rfl) [[], []]
      (by rw [start]; decide)
    refine ⟨s.colony, s, created, opened, runs.eq_error ?_, ?_, advances.eq_ok both, ?_⟩
    · rw [playOnce, first]
      rfl
    · rw [runs.game.reports]
      exact one
    · rw [advances.game.reports]
      exact two
  · have first : (create .empty unseededSettings { entropy := outside 1 } :
        Except Fault Colony × _).1.toOption.map (·.board.coin.generator.state.words[0]) = some 1 := by
      decide +kernel
    have second : (create .empty unseededSettings { entropy := outside 2 } :
        Except Fault Colony × _).1.toOption.map (·.board.coin.generator.state.words[0]) = some 2 := by
      decide +kernel
    obtain ⟨c, created, one⟩ := Fault.exists_of_toOption_map first
    obtain ⟨d, created', two⟩ := Fault.exists_of_toOption_map second
    refine ⟨c, d, created, created', fun same => ?_⟩
    rw [same.coin, one] at two
    cases two

end Vivarium.Colony
