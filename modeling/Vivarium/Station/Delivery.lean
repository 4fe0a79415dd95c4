import Vivarium.Station.Basic

/-!
# Deliveries

A delivery sends a client the pictures of the queue that are after its mark. It looks at queue and
mark once, when it starts, sends one picture at each step, and writes the new mark when nothing is
left to send; whatever happens to the station between two steps, the delivery goes on with what it
has seen. `Delivery.run` takes all steps at once.
-/

namespace Vivarium.Station

/-! ## One delivery -/

/-- Sends a picture over a link, unless the client is gone. -/
def send (s : Station) (client : Nat) (p : Picture) : Option Station :=
  match s.links[client]? with
  | some link =>
    if link.isGone then none
    else
      let links := s.links.setIfInBounds client { link with sent := link.sent.push p }
      some { s with links := links }
  | none => none

/-- A delivery that is under way: its client, the pictures that are left, and the mark that it will
write. -/
structure Delivery where
  client : Nat
  pending : List Picture
  mark : Int

namespace Delivery

def start (s : Station) (client : Nat) : Delivery :=
  let mark := (s.marks.get? client).getD nothingSent
  ⟨client, s.queue.filter fun p => mark < p.round, mark⟩

/-- What a step of a delivery leads to. -/
inductive Progress where
  /-- A picture was sent; the delivery goes on. -/
  | going (d : Delivery)
  /-- Everything was sent and the mark is written. -/
  | done
  /-- The client is gone. -/
  | failed

def step (d : Delivery) (s : Station) : Progress × Station :=
  match d.pending with
  | [] => (.done, { s with marks := s.marks.insert d.client d.mark })
  | p :: rest =>
    match s.send d.client p with
    | some after => (.going ⟨d.client, rest, p.round⟩, after)
    | none => (.failed, s)

/-- The steps of a delivery, one after the other. The result is whether the client is still
there. -/
def finish (client : Nat) (s : Station) (mark : Int) : List Picture → Bool × Station
  | [] => (true, { s with marks := s.marks.insert client mark })
  | p :: rest =>
    match s.send client p with
    | some after => finish client after p.round rest
    | none => (false, s)

/-- All steps of a delivery. The result is whether the client is still there. -/
def run (d : Delivery) (s : Station) : Bool × Station := finish d.client s d.mark d.pending

end Delivery

/-! ## Clients -/

def disconnect (s : Station) (client : Nat) : Station :=
  { s with clients := s.clients.filter (· ≠ client), marks := s.marks.erase client }

/-- Takes a client in, before anything is sent to it. -/
def enrol (s : Station) (client : Nat) : Station :=
  { s with
    clients := if client ∈ s.clients then s.clients else s.clients ++ [client]
    marks := s.marks.insert client nothingSent }

/-- Connects a client and sends it what is in the queue. A client that is gone by then stays
connected. -/
def connect (s : Station) (client : Nat) : Except Fault Unit × Station :=
  let enrolled := s.enrol client
  match (Delivery.start enrolled client).run enrolled with
  | (true, after) => (.ok (), after)
  | (false, after) => (.error .disconnected, after)

def acknowledge (s : Station) (round : Int) : Station :=
  { s with queue := s.queue.dropWhile fun p => p.round ≤ round }

/-! ## Sending to everybody -/

/-- Sends a client what it has not been sent; a client that is gone is disconnected. -/
def deliver (s : Station) (client : Nat) : Station :=
  match (Delivery.start s client).run s with
  | (true, after) => after
  | (false, after) => after.disconnect client

/-- Puts a picture of the colony into the queue and sends every client what it has not been sent. The
message of the picture is taken to have a text: nothing in it is `Json.fault?`. -/
def broadcast (s : Station) : Station :=
  s.clients.foldl deliver { s with queue := s.queue ++ [s.picture] }

end Vivarium.Station
