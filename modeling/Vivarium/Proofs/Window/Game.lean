import Vivarium.Proofs.Colony.Schedule
import Vivarium.Window.Watch

/-!
# Watched runs play the game

After a round the window paints what was drawn, hears events and waits. None of this is part of the game,
but a window that is closed ends it, and so does a wait that is impossible.

1. `run_samePlay`: as long as the window is open, the rounds of a watched run are those of the game.
2. `run_of_restless`: if the window cannot wait, the first round is played and no other.
-/

namespace Vivarium

/-- What comes of waiting before a window, whatever it shows and hears. -/
def Window.waiting (seconds : Value) : Except Fault Unit :=
  match seconds.gt (.int 0) with
  | .error fault => .error fault
  | .ok false => .ok ()
  | .ok true => (milliseconds seconds).map fun _ => ()

theorem Window.pause_fst (w : Window) (seconds : Value) : (w.pause seconds).1 = waiting seconds := by
  rw [pause, waiting]
  cases seconds.gt (.int 0) with
  | error fault => rfl
  | ok long =>
    cases long with
    | false => rfl
    | true =>
      dsimp only
      cases milliseconds seconds <;> rfl

namespace Watch

open Colony

variable {w : Watch} {seconds : Value} {number count : Nat} {r : Report} {fault : Fault} {c : Colony}

/-- A watched run as a play: what comes of it, and the colony after it. -/
def seen (ending : Except Fault Nat × Watch) : Except Fault Nat × Colony :=
  (ending.1, ending.2.colony)

/-! ## One round -/

theorem step_of_error (failed : w.colony.step number = (.error fault, c)) :
    (w.step number).1 = .error fault ∧ (w.step number).2.colony = c := by
  rw [step, failed]
  exact ⟨rfl, rfl⟩

theorem step_of_ok (stepped : w.colony.step number = (.ok r, c)) :
    (w.step number).1 = .ok () ∧ (w.step number).2.colony = c := by
  rw [step, stepped]
  exact ⟨rfl, rfl⟩

theorem play_of_error (failed : w.colony.step number = (.error fault, c)) :
    seen (play seconds (count + 1) number w) = (.error fault, c) := by
  obtain ⟨result, left⟩ := step_of_error failed
  rw [play]
  generalize w.step number = shown at result left
  obtain ⟨_, after⟩ := shown
  dsimp only at result left
  subst result left
  rfl

/-- If the window cannot wait no round is played after the first one. -/
theorem play_of_restless (stepped : w.colony.step number = (.ok r, c))
    (restless : Window.waiting seconds = .error fault) :
    seen (play seconds (count + 1) number w) = (.error fault, c) := by
  obtain ⟨result, left⟩ := step_of_ok stepped
  rw [play]
  generalize w.step number = shown at result left
  obtain ⟨_, after⟩ := shown
  dsimp only at result left
  subst result left
  have waited : (after.pause seconds).1 = .error fault :=
    (after.window.pause_fst seconds).trans restless
  have kept : (after.pause seconds).2.colony = after.colony := rfl
  dsimp only
  generalize after.pause seconds = paused at waited kept
  obtain ⟨_, rested⟩ := paused
  dsimp only at waited kept
  subst waited
  exact congrArg (Prod.mk _) kept

def rested (w : Watch) (number : Nat) (seconds : Value) : Watch := ((w.step number).2.pause seconds).2

theorem rested_colony (stepped : w.colony.step number = (.ok r, c)) (seconds : Value) :
    (w.rested number seconds).colony = c :=
  (step_of_ok stepped).2

/-- If it can wait, then whether it was closed decides on the next round. -/
theorem play_of_patient (stepped : w.colony.step number = (.ok r, c))
    (patient : Window.waiting seconds = .ok ()) (count : Nat) :
    play seconds (count + 1) number w =
      if (w.rested number seconds).window.closed then
        (.ok (number + 1), { w.rested number seconds with
          colony := (w.rested number seconds).colony.note (closedEntry (number + 1)) })
      else play seconds count (number + 1) (w.rested number seconds) := by
  obtain ⟨result, left⟩ := step_of_ok stepped
  rw [play, rested]
  generalize w.step number = shown at result left
  obtain ⟨_, after⟩ := shown
  dsimp only at result left
  subst result left
  have waited : (after.pause seconds).1 = .ok () :=
    (after.window.pause_fst seconds).trans patient
  dsimp only
  generalize after.pause seconds = paused at waited
  obtain ⟨_, rested⟩ := paused
  dsimp only at waited
  subst waited
  rfl

/-! ## All rounds -/

/-- While the window stays open the rounds of the game are played. -/
theorem play_samePlay (patient : Window.waiting seconds = .ok ())
    (numbered : w.colony.reports.size = number)
    (stays : (play seconds count number w).2.window.closed = false) :
    SamePlay (playOn count w.colony) (seen (play seconds count number w)) := by
  induction count generalizing w number with
  | zero => exact ⟨rfl, .refl w.colony⟩
  | succ count ih =>
    subst numbered
    cases stepped : w.colony.step w.colony.reports.size with
    | mk result colony =>
      cases result with
      | error fault =>
        rw [play_of_error stepped]
        exact .of_step_error stepped
      | ok r =>
        have kept := rested_colony stepped seconds
        rw [play_of_patient stepped patient] at stays ⊢
        generalize w.rested w.colony.reports.size seconds = rested at kept stays ⊢
        subst kept
        cases closed : rested.window.closed with
        | true =>
          rw [closed, if_pos rfl] at stays
          cases closed.symm.trans stays
        | false =>
          rw [closed, if_neg Bool.false_ne_true] at stays
          have next := next_round stepped (.refl rested.colony)
          rw [if_neg Bool.false_ne_true]
          exact .of_step_ok stepped (.refl rested.colony) (ih next stays)

/-- A watched run shows the board as it is before the first round. -/
theorem exists_shown (w : Watch) (rounds : Int) (seconds : Value) :
    ∃ shown : Watch, shown.colony = w.colony ∧ shown.window = (w.window.pause (.int 0)).2 ∧
      w.run (.int rounds) seconds = play seconds rounds.toNat 0 shown :=
  ⟨(w.pause (.int 0)).2, rfl, rfl, rfl⟩

/-- As long as the window is open, the rounds of a watched run are those of the game. -/
theorem run_samePlay (patient : Window.waiting seconds = .ok ()) (fresh : w.colony.reports = #[])
    (stays : (w.run (.int count) seconds).2.window.closed = false) :
    SamePlay (playOn count w.colony) (seen (w.run (.int count) seconds)) := by
  obtain ⟨shown, kept, -, runs⟩ := w.exists_shown count seconds
  rw [runs, Int.toNat_natCast] at stays ⊢
  rw [← kept] at fresh ⊢
  exact play_samePlay patient (by rw [fresh]; rfl) stays

/-- If the window cannot wait, the first round is played and no other. -/
theorem run_of_restless (restless : Window.waiting seconds = .error fault)
    (fresh : w.colony.reports = #[]) :
    SamePlay (playOnce fault w.colony) (seen (w.run (.int (count + 1)) seconds)) := by
  obtain ⟨shown, kept, -, runs⟩ := w.exists_shown (count + 1) seconds
  have numbered : (shown.colony.reports.size : Int) = 0 := by rw [kept, fresh]; rfl
  have runs' : w.run (.int (count + 1)) seconds = play seconds (count + 1) 0 shown := runs
  rw [runs', ← kept, playOnce, playOn, numbered]
  cases stepped : shown.colony.step 0 with
  | mk result colony =>
    cases result with
    | error other =>
      rw [play_of_error stepped]
      exact ⟨rfl, .refl colony⟩
    | ok r =>
      rw [play_of_restless stepped restless]
      exact ⟨rfl, .refl colony⟩

end Watch

end Vivarium
