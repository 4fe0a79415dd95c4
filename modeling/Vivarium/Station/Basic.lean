import Vivarium.Colony.Picture
import Vivarium.Colony.Population
import Vivarium.Colony.Round

/-!
# Stations

A station plays the rounds of a colony and sends pictures of it to clients. Pictures wait in a queue
until they are acknowledged; for each client the station keeps a mark, the round of the last picture
that it was sent. A loop plays rounds on its own while the station is running.

A client is known by the number of its link. The links hold what happened outside: which pictures
each client was sent, and when it was gone.
-/

namespace Vivarium

namespace Station

/-- A way to a client: how many pictures it takes before the client is gone, if it ever is, and the
pictures that it was sent. -/
structure Link where
  capacity : Option Nat
  sent : Array Picture

def Link.isGone (l : Link) : Bool := l.capacity.any fun capacity => capacity ≤ l.sent.size

inductive Loop where
  /-- It was never started. -/
  | absent
  /-- It waits for the end of a pause. -/
  | sleeping
  /-- It has ended with a fault and is never started again. -/
  | ended (fault : Fault)

end Station

structure Station where
  colony : Colony
  /-- A picture is sent after every so many rounds. -/
  interval : Nat
  interval_pos : 0 < interval
  /-- Whether the loop is to play rounds. -/
  running : Bool
  /-- The number of rounds that were played. -/
  round : Nat
  /-- The clients that are connected. -/
  clients : List Nat
  /-- The round of the last picture that a client was sent. -/
  marks : Table Nat Int
  /-- The pictures that are kept, the oldest first. -/
  queue : List Picture
  links : Array Station.Link
  loop : Station.Loop
  /-- The pauses that the loop made, in seconds. -/
  delays : Array Value

namespace Station

def nothingSent : Int := -1

/-- Founds a station for settings. Less than one round between two pictures counts as one. -/
def create (folder : Folder) (settings : Settings) (interval : Int)
    (entropy : Entropy := .still) : Except Fault Station :=
  (Colony.create folder settings { entropy := entropy }).1.map fun colony =>
    { colony := colony
      interval := max 1 interval.toNat
      interval_pos := by omega
      running := false
      round := 0
      clients := []
      marks := Table.empty
      queue := []
      links := #[]
      loop := .absent
      delays := #[] }

/-- The number of rounds between two pictures when none is given. -/
def usualInterval : Int := 1

/-- Whether all rounds of the settings were played. The settings of a founded colony have a number
of rounds, so the comparison has no fault. -/
def isFinished (s : Station) : Bool :=
  match (Value.int s.round).ge s.colony.settings.rounds with
  | .ok finished => finished
  | .error _ => false

/-- Whether a picture is sent now: after every interval, and at the end. -/
def isDue (s : Station) : Bool := s.round % s.interval == 0 || s.isFinished

def picture (s : Station) : Picture := s.colony.picture s.round

def addLink (s : Station) (capacity : Option Nat) : Nat × Station :=
  (s.links.size, { s with links := s.links.push ⟨capacity, #[]⟩ })

end Station

end Vivarium
