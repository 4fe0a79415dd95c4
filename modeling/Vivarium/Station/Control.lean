import Vivarium.Station.Delivery

/-!
# Controlling a station

A station is started and stopped, plays rounds when it is told to or by its loop, and is reset. A
round that fails leaves the number of rounds as it was; in the loop it ends the loop.
-/

namespace Vivarium.Station

/-! ## Rounds -/

/-- Plays a round, unless all were played; the result is whether there was one to play. -/
def advance (s : Station) : Except Fault Bool × Station :=
  if s.isFinished then (.ok false, s)
  else
    match s.colony.step s.round with
    | (.error fault, colony) => (.error fault, { s with colony := colony })
    | (.ok _, colony) =>
      let played := { s with colony := colony, round := s.round + 1 }
      (.ok true, if played.isDue then played.broadcast else played)

/-- The station with its rounds and all that was sent forgotten. -/
def rewind (s : Station) : Station :=
  { s with round := 0, queue := [], marks := s.marks.mapValues fun _ => nothingSent }

/-- Resets the colony and sends its picture. -/
def reset (s : Station) : Except Fault Unit × Station :=
  match s.colony.reset with
  | (.error fault, colony) => (.error fault, { s with colony := colony })
  | (.ok _, colony) => (.ok (), ({ s with colony := colony }.rewind).broadcast)

/-! ## The loop -/

def shortestPause : Value := .float (Decimal.nearest false ⟨1, 100⟩)

/-- The pause of the loop: that of the settings, unless it is shorter than the shortest. -/
def delay (s : Station) : Value :=
  match shortestPause.gt s.colony.settings.pause with
  | .ok true => shortestPause
  | _ => s.colony.settings.pause

def sleep (s : Station) : Station := { s with loop := .sleeping, delays := s.delays.push s.delay }

/-- Starts the loop, unless it was started before, and runs if there are rounds left. -/
def start (s : Station) : Station :=
  let looping := match s.loop with
    | .absent => s.sleep
    | _ => s
  { looping with running := !s.isFinished }

/-- Stops running; the loop stays. -/
def stop (s : Station) : Station := { s with running := false }

/-- The journal entry of a loop that has no round left. -/
def finishedEntry (s : Station) : Journal.Entry where
  level := .info
  topic := .station
  text :=
    let leader := s.colony.leader.getD "None"
    s!"Reached {s.colony.settings.rounds.truncated} rounds, leader {leader}"

/-- What the loop does after a pause, until the next one. -/
def work (s : Station) : Except Fault Unit × Station :=
  if s.running then
    match s.advance with
    | (.error fault, after) => (.error fault, after)
    | (.ok true, after) => (.ok (), after)
    | (.ok false, after) =>
      (.ok (), { after with colony := after.colony.note after.finishedEntry, running := false })
  else (.ok (), s)

/-- The station after the loop's pause has ended and the loop has come to the next one, or has
ended. A loop that is not in a pause does nothing. -/
def tick (s : Station) : Station :=
  match s.loop with
  | .sleeping =>
    match s.work with
    | (.ok _, after) => after.sleep
    | (.error fault, after) => { after with loop := .ended fault }
  | _ => s

/-! ## Status -/

/-- What a station tells about itself. -/
structure Status where
  running : Bool
  round : Nat
  rounds : Value
  population : Nat
  counts : Table String Nat
  leader : Option String
  report : Option Report

def status (s : Station) : Status where
  running := s.running
  round := s.round
  rounds := s.colony.settings.rounds
  population := s.colony.population
  counts := s.colony.counts
  leader := s.colony.leader
  report := s.colony.reports.back?

def Status.toValue (t : Status) : Value :=
  .fields
    [("running", .bool t.running), ("round", .int t.round), ("rounds", t.rounds),
      ("population", .int t.population), ("species_counts", t.counts.toValue),
      ("leader", (t.leader.map .text).getD .null),
      ("metrics", (t.report.map Report.toValue).getD .null)]

end Vivarium.Station
