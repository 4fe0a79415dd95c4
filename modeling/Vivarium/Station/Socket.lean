import Vivarium.Json.Reader
import Vivarium.Station.Delivery

/-!
# Sockets

A client on a socket is connected, sends texts, and is disconnected when it is gone. A text that
acknowledges a round is a map with the type `ack` and a whole number as its round. Other maps and
texts that are no JSON are passed over. A text that is JSON but no map is a fault: nothing after it
is read, and the client stays connected.
-/

namespace Vivarium.Station

/-- The round that a text acknowledges, if it acknowledges one. -/
def acknowledgedRound (text : String) : Except Fault (Option Int) :=
  match Json.read text with
  | .error .malformed => .ok none
  | .error (.longInt digits) => .error (.longInt digits)
  | .error (.tooDeep collection) =>
    .error (.tooDeep s!" while decoding a JSON {collection} from a unicode string")
  | .ok (.map entries) =>
    match Value.lookup "type" entries, (Value.lookup "round" entries).bind Value.whole? with
    | some (.text "ack"), some round => .ok (some round)
    | _, _ => .ok none
  | .ok v => .error (.noMember v.kind "get")

/-- Takes a text from a client. -/
def receive (s : Station) (text : String) : Except Fault Station :=
  (acknowledgedRound text).map fun
    | some round => s.acknowledge round
    | none => s

/-- Takes texts from a client, up to the first faulty one. -/
def receiveAll : List String → Station → Except Fault Unit × Station
  | [], s => (.ok (), s)
  | text :: rest, s =>
    match s.receive text with
    | .ok after => receiveAll rest after
    | .error fault => (.error fault, s)

/-- Serves a client that sends the given texts and is gone after them. -/
def serve (s : Station) (client : Nat) (texts : List String) : Except Fault Unit × Station :=
  match s.connect client with
  | (.error fault, after) => (.error fault, after)
  | (.ok _, connected) =>
    match receiveAll texts connected with
    | (.ok _, after) => (.ok (), after.disconnect client)
    | (.error fault, after) => (.error fault, after)

end Vivarium.Station
