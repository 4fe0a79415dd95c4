import Vivarium.Proofs.Colony.Capacity
import Vivarium.Proofs.Colony.Schedule
import Vivarium.Station.Control

/-!
# Stations play the game

Between two rounds clients come and go, acknowledge pictures and are sent new ones, and the station is
started and stopped. None of this is part of the game.

1. `Traffic`: what goes on between two rounds. `attend_steady`: it leaves the colony alone, and the number of
   the round.
2. `advance_of_error`, `exists_advanced`: one advance is one round.
3. `advanceAll_samePlay`: advances with any traffic before each play the game.
-/

namespace Vivarium.Station

open Colony

variable {s t : Station}

/-! ## Traffic -/

/-- What goes on between two rounds. A delivery may be under way while other things happen, and is then
taken a step further. -/
inductive Traffic where
  | linked (capacity : Option Nat)
  | enrolled (client : Nat)
  | connected (client : Nat)
  | disconnected (client : Nat)
  | delivered (d : Delivery)
  | acknowledged (round : Int)
  | broadcast
  | started
  | stopped

def pass (s : Station) : Traffic → Station
  | .linked capacity => (s.addLink capacity).2
  | .enrolled client => s.enrol client
  | .connected client => (s.connect client).2
  | .disconnected client => s.disconnect client
  | .delivered d => (d.step s).2
  | .acknowledged round => s.acknowledge round
  | .broadcast => s.broadcast
  | .started => s.start
  | .stopped => s.stop

def attend (s : Station) (traffic : List Traffic) : Station := traffic.foldl pass s

/-- A station in which no round was played meanwhile. -/
structure Steady (s t : Station) : Prop where
  colony : t.colony = s.colony
  round : t.round = s.round

theorem Steady.trans {u : Station} (first : Steady s t) (second : Steady t u) : Steady s u :=
  ⟨second.colony.trans first.colony, second.round.trans first.round⟩

theorem send_steady {client : Nat} {p : Picture} (sent : s.send client p = some t) : Steady s t := by
  rw [send] at sent
  split at sent
  · split at sent
    · cases sent
    · cases sent
      exact ⟨rfl, rfl⟩
  · cases sent

theorem step_steady (d : Delivery) (s : Station) : Steady s (d.step s).2 := by
  rw [Delivery.step]
  split
  · exact ⟨rfl, rfl⟩
  · split
    · next sent => exact send_steady sent
    · exact ⟨rfl, rfl⟩

theorem finish_steady (client : Nat) (s : Station) (mark : Int) (pictures : List Picture) :
    Steady s (Delivery.finish client s mark pictures).2 := by
  induction pictures generalizing s mark with
  | nil => exact ⟨rfl, rfl⟩
  | cons p rest ih =>
    rw [Delivery.finish]
    split
    · next sent => exact (send_steady sent).trans (ih _ _)
    · exact ⟨rfl, rfl⟩

theorem run_steady (d : Delivery) (s : Station) : Steady s (d.run s).2 :=
  finish_steady d.client s d.mark d.pending

theorem connect_steady (s : Station) (client : Nat) : Steady s (s.connect client).2 := by
  have enrolled : Steady s (s.enrol client) := ⟨rfl, rfl⟩
  have delivered := enrolled.trans
    (run_steady (Delivery.start (s.enrol client) client) (s.enrol client))
  rw [connect]
  generalize (Delivery.start (s.enrol client) client).run (s.enrol client) = ran at delivered ⊢
  obtain ⟨present, after⟩ := ran
  cases present <;> exact delivered

theorem deliver_steady (s : Station) (client : Nat) : Steady s (s.deliver client) := by
  have delivered := run_steady (Delivery.start s client) s
  rw [deliver]
  generalize (Delivery.start s client).run s = ran at delivered ⊢
  obtain ⟨present, after⟩ := ran
  cases present with
  | true => exact delivered
  | false => exact delivered.trans ⟨rfl, rfl⟩

theorem broadcast_steady (s : Station) : Steady s s.broadcast := by
  have queued : Steady s { s with queue := s.queue ++ [s.picture] } := ⟨rfl, rfl⟩
  rw [broadcast]
  generalize { s with queue := s.queue ++ [s.picture] } = after at queued ⊢
  induction s.clients generalizing after with
  | nil => exact queued
  | cons client rest ih => exact ih _ (queued.trans (deliver_steady after client))

theorem start_steady (s : Station) : Steady s s.start := by
  rw [start]
  cases s.loop <;> exact ⟨rfl, rfl⟩

theorem pass_steady (s : Station) (traffic : Traffic) : Steady s (s.pass traffic) := by
  cases traffic with
  | linked | enrolled | disconnected | acknowledged | stopped => exact ⟨rfl, rfl⟩
  | connected client => exact connect_steady s client
  | delivered d => exact step_steady d s
  | broadcast => exact broadcast_steady s
  | started => exact start_steady s

/-- Traffic leaves the colony alone, and the number of the round. -/
theorem attend_steady (s : Station) (traffic : List Traffic) : Steady s (s.attend traffic) := by
  induction traffic generalizing s with
  | nil => exact ⟨rfl, rfl⟩
  | cons first rest ih => exact (pass_steady s first).trans (ih (s.pass first))

/-! ## One advance -/

/-- Whether so many rounds are all that settings ask for. -/
def completes (settings : Settings) (round : Nat) : Bool :=
  match (Value.int round).ge settings.rounds with
  | .ok finished => finished
  | .error _ => false

theorem completes_eq {settings : Settings} {rounds : Int}
    (whole : settings.rounds.whole? = some rounds) (round : Nat) :
    completes settings round = decide (rounds ≤ round) := by
  have compared : (Value.int round).ge settings.rounds = .ok (decide (rounds ≤ (round : Int))) :=
    Value.ge_of_whole rfl whole
  rw [completes, compared]

theorem isFinished_eq {rounds : Int} (whole : s.colony.settings.rounds.whole? = some rounds) :
    s.isFinished = decide (rounds ≤ s.round) :=
  completes_eq whole s.round

theorem advance_of_error (unfinished : s.isFinished = false) {fault : Fault} {after : Colony}
    (failed : s.colony.step s.round = (.error fault, after)) :
    s.advance = (.error fault, { s with colony := after }) := by
  rw [advance, if_neg (by rw [unfinished]; exact Bool.false_ne_true), failed]

/-- An advance plays a round, and may then send its picture. -/
theorem exists_advanced (unfinished : s.isFinished = false) {r : Report} {after : Colony}
    (stepped : s.colony.step s.round = (.ok r, after)) :
    ∃ t, s.advance = (.ok true, t) ∧ t.colony = after ∧ t.round = s.round + 1 := by
  rw [advance, if_neg (by rw [unfinished]; exact Bool.false_ne_true), stepped]
  dsimp only
  split
  · have sent := broadcast_steady { s with colony := after, round := s.round + 1 }
    exact ⟨_, rfl, sent.colony, sent.round⟩
  · exact ⟨_, rfl, rfl, rfl⟩

/-! ## All rounds -/

/-- A station is created where its colony is founded, with no round played. -/
theorem exists_created {folder : Folder} {settings : Settings} {entropy : Entropy} {c : Colony}
    (created : (Colony.create folder settings { entropy := entropy }).1 = .ok c) (interval : Int) :
    ∃ s, create folder settings interval entropy = .ok s ∧ s.colony = c ∧ s.round = 0 := by
  rw [create, created]
  exact ⟨_, rfl, rfl, rfl⟩

/-- Advances, one for each list of what goes on before it, up to one that fails. -/
def advanceAll : List (List Traffic) → Station → Except Fault Unit × Station
  | [], s => (.ok (), s)
  | traffic :: rest, s =>
    match (s.attend traffic).advance with
    | (.error fault, after) => (.error fault, after)
    | (.ok _, after) => advanceAll rest after

/-- As many advances as there are rounds left at most play the game, whatever goes on between them. -/
theorem advanceAll_samePlay {rounds : Int} (whole : s.colony.settings.rounds.whole? = some rounds)
    (numbered : s.round = s.colony.reports.size) (traffic : List (List Traffic))
    (left : (s.round : Int) + traffic.length ≤ rounds) :
    SamePlay (playOn traffic.length s.colony)
      ((advanceAll traffic s).1, (advanceAll traffic s).2.colony) := by
  induction traffic generalizing s with
  | nil => exact ⟨rfl, .refl s.colony⟩
  | cons first rest ih =>
    obtain ⟨colony, round⟩ := attend_steady s first
    rw [advanceAll]
    generalize s.attend first = t at colony round
    rw [← colony] at whole numbered ⊢
    rw [← round] at numbered left
    have unfinished : t.isFinished = false := by
      rw [isFinished_eq whole]
      refine decide_eq_false fun finished => ?_
      rw [List.length_cons] at left
      omega
    have settings := step_settings t.colony t.round
    cases stepped : t.colony.step t.round with
    | mk result after =>
      rw [stepped] at settings
      rw [numbered] at stepped
      cases result with
      | error fault =>
        rw [advance_of_error unfinished (numbered ▸ stepped)]
        exact .of_step_error stepped
      | ok r =>
        obtain ⟨u, advanced, played, counted⟩ := exists_advanced unfinished (numbered ▸ stepped)
        subst played
        rw [advanced]
        have next := next_round stepped (.refl u.colony)
        refine .of_step_ok stepped (.refl u.colony) (ih ?_ ?_ ?_)
        · rw [← whole, settings]
        · rw [counted, next, numbered]
        · rw [List.length_cons] at left
          rw [counted]
          omega

end Vivarium.Station
