import Vivarium.Proofs.Window.Game

/-!
# A window that is closed stops the run

A window hears a batch of events whenever it pauses: before the first round, and after each round.
Whether it was closed is looked at after a round only, so a window that is closed before the first round
does not keep this round from being played.

1. `SameEars`: drawing has no part in what a window hears, and `rested_hears`: what it hears in a round.
2. `Window.closing?`: the pause after which a window is closed. `play_allows`: once it is closed no other
   round is played.
3. `run_until_closed`: the rounds that a watched run plays, for every number of rounds, every pause and
   every sequence of batches.
4. `shutLane_plays_on`: the round that starts although the window was closed.
-/

namespace Vivarium

/-! ## Hearing -/

namespace Window

def quits (batch : List Event) : Bool := batch.contains .quit

/-- Two windows that hear the same, whatever they show. -/
structure SameEars (w v : Window) : Prop where
  owned : v.owned = w.owned
  closed : v.closed = w.closed
  events : v.events = w.events

namespace SameEars

variable {w v u : Window}

theorem refl (w : Window) : w.SameEars w := ⟨rfl, rfl, rfl⟩

theorem trans (first : w.SameEars v) (second : v.SameEars u) : w.SameEars u :=
  ⟨second.owned.trans first.owned, second.closed.trans first.closed,
    second.events.trans first.events⟩

end SameEars

variable {w v : Window}

theorem call_sameEars (w : Window) (c : Call) : w.SameEars (w.call c) := ⟨rfl, rfl, rfl⟩

theorem blankArea_sameEars (w : Window) (area : Rect) : w.SameEars (w.blankArea area) :=
  (call_sameEars w _).trans (call_sameEars _ _)

theorem blank_sameEars {p : Position} (drawn : w.blank p = .ok v) : w.SameEars v := by
  rw [blank] at drawn
  cases square : w.area p with
  | error fault =>
    rw [square] at drawn
    cases drawn
  | ok area =>
    rw [square] at drawn
    cases drawn
    exact blankArea_sameEars w area

theorem mark_sameEars {area : Rect} {d : Direction} {color : String}
    (drawn : w.mark area d color = .ok v) : w.SameEars v := by
  obtain ⟨start, -, drawn⟩ := Fault.exists_of_bind_eq_ok drawn
  obtain ⟨finish, -, drawn⟩ := Fault.exists_of_bind_eq_ok drawn
  cases drawn
  exact call_sameEars w _

theorem square_sameEars (w : Window) (p : Position) (glyph : String) (direction : Value)
    (color : String) : w.SameEars (w.square p glyph direction color).2 := by
  rw [square]
  cases w.area p with
  | error fault => exact .refl w
  | ok area =>
    have lettered : w.SameEars (w.glyph area glyph color) :=
      (blankArea_sameEars w area).trans (call_sameEars _ _)
    dsimp only
    cases marked : direction.toDirection.bind fun d => (w.glyph area glyph color).mark area d color with
    | error fault => exact lettered
    | ok v =>
      obtain ⟨d, -, drawn⟩ := Fault.exists_of_bind_eq_ok marked
      exact lettered.trans (mark_sameEars drawn)

/-- No drawing of a board changes what a window hears. -/
theorem paint_sameEars (w : Window) (d : Drawing) : w.SameEars (w.paint d) := by
  cases d with
  | square p glyph direction color => exact square_sameEars w p _ _ color
  | blank p =>
    rw [paint]
    cases drawn : w.blank p with
    | error fault => exact .refl w
    | ok v => exact blank_sameEars drawn

theorem foldl_paint_sameEars (drawings : List Drawing) (w : Window) :
    w.SameEars (drawings.foldl paint w) := by
  induction drawings generalizing w with
  | nil => exact .refl w
  | cons d rest ih => exact (paint_sameEars w d).trans (ih _)

/-- A window of one's own that heard the next batch of events after another one. -/
structure Hears (w v : Window) : Prop where
  owned : v.owned = true
  closed : v.closed = (w.closed || quits (w.events.headD []))
  events : v.events = w.events.tail

/-- Pausing is hearing, however long it takes. -/
theorem pause_hears (owned : w.owned = true) (seconds : Value) : w.Hears (w.pause seconds).2 := by
  have heard : w.Hears w.present.listen := by
    have shown : w.present = w.call .flip := if_pos owned
    rw [shown, listen, if_pos (show (w.call .flip).owned = true from owned)]
    exact ⟨owned, rfl, rfl⟩
  rw [pause]
  split
  · exact heard
  · exact heard
  · split
    · exact heard
    · exact ⟨heard.owned, heard.closed, heard.events⟩

end Window

/-! ## When a window is closed -/

namespace Window

/-- The pause, counted from zero, after which the window is closed. -/
def closing? (w : Window) : Option Nat := if w.closed then some 0 else w.events.findIdx? quits

theorem closing?_of_closed {w : Window} (closed : w.closed = true) : w.closing? = some 0 :=
  if_pos closed

theorem Hears.closing? {w v : Window} (hears : w.Hears v) :
    w.closing? = if v.closed then some 0 else v.closing?.map (· + 1) := by
  have closed := hears.closed
  cases shut : w.closed with
  | true =>
    rw [shut, Bool.true_or] at closed
    rw [closed, closing?_of_closed shut]
    rfl
  | false =>
    rw [shut, Bool.false_or] at closed
    have next := hears.events
    rw [Window.closing?, shut, if_neg Bool.false_ne_true]
    cases events : w.events with
    | nil =>
      rw [events] at closed next
      have stays : v.closed = false := closed
      rw [stays, if_neg Bool.false_ne_true, Window.closing?, stays, next]
      rfl
    | cons batch rest =>
      rw [events] at closed next
      have heard : v.closed = quits batch := closed
      rw [List.findIdx?_cons]
      cases quit : quits batch with
      | true =>
        rw [heard, quit]
        rfl
      | false =>
        rw [heard, quit, Window.closing?, heard, quit, next]
        rfl

/-- The number of rounds, of so many, that are played before a window from now on. -/
def allows (w : Window) (count : Nat) : Nat := w.closing?.elim count fun k => min count (k + 1)

theorem allows_zero (w : Window) : w.allows 0 = 0 := by
  rw [allows]
  cases w.closing? with
  | none => rfl
  | some k => exact Nat.zero_min (k + 1)

/-- The next round is played, and those that the window allows after it. -/
theorem Hears.allows_succ {w v : Window} (hears : w.Hears v) (count : Nat) :
    w.allows (count + 1) = (if v.closed then 0 else v.allows count) + 1 := by
  rw [allows, hears.closing?]
  cases v.closed with
  | true => exact Nat.min_eq_right (Nat.le_add_left 1 count)
  | false =>
    simp only [Bool.false_eq_true, if_false, allows]
    cases v.closing? with
    | none => rfl
    | some k => exact Nat.succ_min_succ count (k + 1)

/-- The number of rounds, of so many, that a run before a window plays: those up to the pause which closes
it, but the first one even if the pause before it does. -/
def permits (w : Window) (count : Nat) : Nat := w.closing?.elim count fun k => min count (max 1 k)

/-- After the pause before the first round, the window allows as many rounds as it permits. -/
theorem Hears.allows {w v : Window} (hears : w.Hears v) (count : Nat) :
    v.allows count = w.permits count := by
  rw [permits, hears.closing?, Window.allows]
  cases closed : v.closed with
  | true =>
    rw [closing?_of_closed closed]
    rfl
  | false =>
    rw [if_neg Bool.false_ne_true]
    cases v.closing? with
    | none => rfl
    | some k =>
      have late : max 1 (k + 1) = k + 1 := Nat.max_eq_right (Nat.le_add_left 1 k)
      exact (congrArg (min count) late).symm

end Window

namespace Colony

/-! ## Rounds without pauses -/

variable {c after : Colony} {round : Int} {r : Report} {count : Nat} {α : Type}

theorem SamePlay.of_round_error {fault : Fault} (failed : c.step round = (.error fault, after)) :
    SamePlay (playRounds .system (.int 0) (count + 1) round c)
      ((.error fault, after) : Except Fault α × Colony) := by
  rw [playRounds, failed]
  exact ⟨rfl, .refl after⟩

theorem SamePlay.of_round_ok {other : Except Fault α × Colony}
    (stepped : c.step round = (.ok r, after))
    (more : SamePlay (playRounds .system (.int 0) count (round + 1) after) other) :
    SamePlay (playRounds .system (.int 0) (count + 1) round c) other := by
  have slept : after.sleep .system (.int 0) = (.ok (), after) := rfl
  rw [playRounds, stepped]
  dsimp only
  rw [slept]
  dsimp only
  generalize playRounds .system (.int 0) count (round + 1) after = played at more
  obtain ⟨result, last⟩ := played
  cases result with
  | error fault => exact more
  | ok reports => exact ⟨more.outcome, more.game⟩

/-- The play of so many rounds gives their number, if no round fails. -/
theorem SamePlay.eq_map {first : Except Fault α × Colony} {second : Except Fault Nat × Colony} {n : Nat}
    (same : SamePlay first second) (counted : ∀ played, second.1 = .ok played → played = n) :
    second.1 = first.1.map fun _ => n := by
  have outcome := same.outcome
  cases ended : second.1 with
  | error fault =>
    rw [ended] at outcome
    cases done : first.1 with
    | error other =>
      rw [done] at outcome
      cases outcome
      rfl
    | ok result =>
      rw [done] at outcome
      cases outcome
  | ok played =>
    rw [ended] at outcome
    cases done : first.1 with
    | error other =>
      rw [done] at outcome
      cases outcome
    | ok result => exact congrArg Except.ok (counted played ended)

theorem size_reports_playRounds {reports : List Report}
    (played : playRounds .system (.int 0) count round c = (.ok reports, after)) :
    after.reports.size = c.reports.size + count := by
  induction count generalizing c round reports with
  | zero =>
    cases played
    rfl
  | succ count ih =>
    rw [playRounds] at played
    cases stepped : c.step round with
    | mk result mid =>
      rw [stepped] at played
      cases result with
      | error fault => cases played
      | ok r =>
        have slept : mid.sleep .system (.int 0) = (.ok (), mid) := rfl
        dsimp only at played
        rw [slept] at played
        dsimp only at played
        cases more : playRounds .system (.int 0) count (round + 1) mid with
        | mk result last =>
          rw [more] at played
          cases result with
          | error fault => cases played
          | ok later =>
            cases played
            rw [ih more, size_reports_step stepped, Nat.add_assoc, Nat.add_comm 1]

/-- Whoever plays so many rounds has a report of each of them, if no round fails. -/
theorem SamePlay.size_reports {second : Except Fault α × Colony} {result : α}
    (same : SamePlay (playRounds .system (.int 0) count round c) second) (done : second.1 = .ok result) :
    second.2.reports.size = c.reports.size + count := by
  cases played : playRounds .system (.int 0) count round c with
  | mk reported after =>
    rw [played] at same
    have outcome := same.outcome
    rw [done] at outcome
    cases reported with
    | error fault => cases outcome
    | ok reports => rw [same.game.reports, size_reports_playRounds played]

end Colony

/-! ## A watched run -/

namespace Watch

open Colony

variable {w : Watch} {seconds : Value} {fault : Fault}

theorem step_sameEars (w : Watch) (round : Int) : w.window.SameEars (w.step round).2.window :=
  Window.foldl_paint_sameEars _ w.window

/-- In a round, and in the pause after it, a window hears one batch of events. -/
theorem rested_hears (owned : w.window.owned = true) (number : Nat) (seconds : Value) :
    w.window.Hears (w.rested number seconds).window := by
  have drawn := w.step_sameEars number
  have heard := Window.pause_hears (drawn.owned.trans owned) seconds
  exact ⟨heard.owned, by rw [rested, pause, heard.closed, drawn.closed, drawn.events],
    heard.events.trans (congrArg List.tail drawn.events)⟩

/-- The rounds that the window allows are played, and no others. -/
theorem play_allows {count : Nat} (able : count = 0 ∨ Window.waiting seconds = .ok ())
    (owned : w.window.owned = true) (number : Nat) :
    SamePlay (playRounds .system (.int 0) (w.window.allows count) number w.colony)
        (seen (play seconds count number w)) ∧
      ∀ played, (play seconds count number w).1 = .ok played →
        played = number + w.window.allows count := by
  induction count generalizing w number with
  | zero =>
    rw [Window.allows_zero]
    refine ⟨⟨rfl, .refl _⟩, fun played done => ?_⟩
    cases done
    rfl
  | succ count ih =>
    have hears := rested_hears owned number seconds
    rw [hears.allows_succ]
    cases stepped : w.colony.step number with
    | mk result after =>
      cases result with
      | error fault =>
        have failed : seen (play seconds (count + 1) number w) = (.error fault, after) :=
          play_of_error stepped
        rw [failed]
        refine ⟨.of_round_error stepped, fun played done => ?_⟩
        have result : (play seconds (count + 1) number w).1 = .error fault := congrArg Prod.fst failed
        rw [result] at done
        cases done
      | ok r =>
        have kept := rested_colony stepped seconds
        have patient := able.resolve_left (Nat.succ_ne_zero count)
        rw [play_of_patient stepped patient]
        generalize w.rested number seconds = rested at hears kept
        subst kept
        cases closed : rested.window.closed with
        | true =>
          refine ⟨.of_round_ok stepped ⟨rfl, ?_⟩, fun played done => ?_⟩
          · exact ⟨rfl, rfl, rfl, rfl, rfl, rfl, rfl⟩
          · cases done
            rfl
        | false =>
          obtain ⟨same, number_eq⟩ := ih (.inr patient) hears.owned (number + 1)
          refine ⟨.of_round_ok stepped same, fun played done => ?_⟩
          rw [number_eq played done, if_neg Bool.false_ne_true]
          omega

/-- If the window cannot wait, no round is played after the first one. -/
theorem play_once (restless : Window.waiting seconds = .error fault) (count number : Nat) :
    seen (play seconds (count + 1) number w) =
      ((playRounds .system (.int 0) 1 number w.colony).1.bind fun _ => .error fault,
        (playRounds .system (.int 0) 1 number w.colony).2) := by
  rw [playRounds]
  cases stepped : w.colony.step number with
  | mk result after =>
    cases result with
    | error other => exact play_of_error stepped
    | ok r => exact play_of_restless stepped restless

/-- A run plays the rounds that its window permits, and returns their number. If it cannot wait before the
window, it plays the first round and no other. -/
theorem run_until_closed (owned : w.window.owned = true) (rounds : Int) (seconds : Value) :
    (rounds ≤ 0 ∨ Window.waiting seconds = .ok () →
      (w.run (.int rounds) seconds).1 =
          (playRounds .system (.int 0) (w.window.permits rounds.toNat) 0 w.colony).1.map
            (fun _ => w.window.permits rounds.toNat) ∧
        (playRounds .system (.int 0) (w.window.permits rounds.toNat) 0 w.colony).2.SameGame
          (w.run (.int rounds) seconds).2.colony ∧
        ∀ played, (w.run (.int rounds) seconds).1 = .ok played →
          (w.run (.int rounds) seconds).2.colony.reports.size = w.colony.reports.size + played) ∧
    ∀ fault, 0 < rounds → Window.waiting seconds = .error fault →
      seen (w.run (.int rounds) seconds) =
        ((playRounds .system (.int 0) 1 0 w.colony).1.bind fun _ => .error fault,
          (playRounds .system (.int 0) 1 0 w.colony).2) := by
  obtain ⟨shown, kept, opened, runs⟩ := w.exists_shown rounds seconds
  have hears : w.window.Hears shown.window := opened ▸ Window.pause_hears owned (.int 0)
  rw [runs, ← kept, ← hears.allows]
  refine ⟨fun able => ?_, fun fault positive restless => ?_⟩
  · obtain ⟨same, counted⟩ := play_allows (able.imp_left Int.toNat_of_nonpos) hears.owned 0
    have result := same.eq_map counted
    rw [Nat.zero_add] at result
    refine ⟨result, same.game, fun played done => ?_⟩
    rw [counted played done, Nat.zero_add]
    exact same.size_reports done
  · obtain ⟨count, succ⟩ := Nat.exists_eq_add_of_le' (Int.pos_iff_toNat_pos.mp positive)
    rw [succ]
    exact play_once restless count 0

/-! ## A lane before a window -/

/-- A window that is closed after the second round: it hears a key at once and nothing after the first
round. -/
def patientWindow : Window := ⟨.whole 40, true, false, #[], [[.key], [], [.quit], [.key]]⟩

/-- Two of five rounds of the lane are played before that window. -/
theorem facingLane_until_closed :
    (Watch.start facingLane patientWindow).window.closing? = some 2 ∧
    ((Watch.start facingLane patientWindow).run (.int 5) (.int 0)).1 = .ok 2 ∧
    ((Watch.start facingLane patientWindow).run (.int 5) (.int 0)).2.colony.reports.size = 2 := by
  have owned : (Watch.start facingLane patientWindow).window.owned = true := by decide +kernel
  have patient : Window.waiting (.int 0) = .ok () := by
    have compared : (Value.int 0).gt (.int 0) = .ok false := rfl
    rw [Window.waiting, compared]
  obtain ⟨result, -, reported⟩ := (run_until_closed owned 5 (.int 0)).1 (.inr patient)
  have permitted : (Watch.start facingLane patientWindow).window.permits (5 : Int).toNat = 2 := by
    decide +kernel
  have fine : (playRounds .system (.int 0) 2 0 (Watch.start facingLane patientWindow).colony).1.isOk = true := by
    decide +kernel
  have returned : ((Watch.start facingLane patientWindow).run (.int 5) (.int 0)).1 = .ok 2 := by
    rw [result, permitted]
    generalize (playRounds .system (.int 0) 2 0 (Watch.start facingLane patientWindow).colony).1 = played at fine
    cases played with
    | error fault => cases fine
    | ok reports => rfl
  exact ⟨by decide +kernel, returned, reported 2 returned⟩

def shutWindow : Window := ⟨.whole 40, true, false, #[], [[.quit]]⟩

/-- The first pause hears that this window is closed, and yet a round is played after it. -/
theorem shutLane_plays_on :
    (Watch.start facingLane shutWindow).window.closing? = some 0 ∧
    ((Watch.start facingLane shutWindow).pause (.int 0)).2.window.closed = true ∧
    ((Watch.start facingLane shutWindow).run (.int 1) (.int 0)).1.toOption ≠ some (min 1 0) ∧
    ((Watch.start facingLane shutWindow).run (.int 1) (.int 0)).1.toOption = some 1 ∧
    ((Watch.start facingLane shutWindow).run (.int 1) (.int 0)).2.colony.reports.size = 1 := by
  decide +kernel

end Watch

end Vivarium
