import Vivarium.Colony.Population
import Vivarium.Colony.Round
import Vivarium.Window.Basic

/-!
# Watching a colony

A colony is watched through a window that paints each change of its board. After every round the
window pauses; once it was closed no further round is played.
-/

namespace Vivarium

/-- A colony and the window it is watched through, with the number of drawings painted so far. -/
structure Watch where
  colony : Colony
  window : Window
  painted : Nat

namespace Watch

def catchUp (w : Watch) : Watch :=
  let drawings := w.colony.board.drawings
  { w with
    window := (drawings.toList.drop w.painted).foldl Window.paint w.window
    painted := drawings.size }

/-- The watch of a colony that was founded while a window was open. -/
def start (colony : Colony) (window : Window) : Watch := catchUp ⟨colony, window, 0⟩

def step (w : Watch) (round : Int) : Except Fault Unit × Watch :=
  let (result, colony) := w.colony.step round
  (result.map fun _ => (), { w with colony := colony }.catchUp)

def pause (w : Watch) (seconds : Value) : Except Fault Unit × Watch :=
  let (result, window) := w.window.pause seconds
  (result, { w with window := window })

def closedEntry (played : Nat) : Journal.Entry where
  level := .info
  topic := .window
  text := s!"Window closed after {played} rounds"

/-- Plays up to a number of rounds, the first under the given number, until the window is closed.
The result is the number of rounds played. -/
def play (seconds : Value) : Nat → Nat → Watch → Except Fault Nat × Watch
  | 0, played, w => (.ok played, w)
  | count + 1, played, w =>
    match w.step played with
    | (.error fault, after) => (.error fault, after)
    | (.ok _, after) =>
      match after.pause seconds with
      | (.error fault, rested) => (.error fault, rested)
      | (.ok _, rested) =>
        if rested.window.closed then
          (.ok (played + 1),
            { rested with colony := rested.colony.note (closedEntry (played + 1)) })
        else play seconds count (played + 1) rested

def run (w : Watch) (rounds pause : Value) : Except Fault Nat × Watch :=
  match w.pause (.int 0) with
  | (.error fault, shown) => (.error fault, shown)
  | (.ok _, shown) =>
    match rounds.toCount with
    | .error fault => (.error fault, shown)
    | .ok count => play pause count.toNat 0 shown

end Watch

end Vivarium
