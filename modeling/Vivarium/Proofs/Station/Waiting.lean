import Vivarium.Proofs.Station.Broadcast

/-!
# Operations that wait for their sends

A picture takes time to be sent. Meanwhile the operation that sends it waits, and others may start, go on or
come to their end. What an operation does between two sends is not interrupted.

1. `Waiting`: an operation that waits for a send. `connection`, `advancement` and `resetting` start one,
   `Waiting.resume` goes on with it.
2. `outcome_resume`, `outcome_connection`, `outcome_advancement`, `outcome_resetting`: not interrupted, they do
   what `connect`, `advance` and `reset` do.
3. `Floor`: a station and the operations that wait. `Move`: what may happen.
4. `exists_stir`: a move is a change of a few kinds, and then clients are served up to the next send.
-/

namespace Vivarium.Station

open Colony

variable {s t : Station} {c : Colony} {client : Nat}

/-! ## Between two sends -/

/-- An operation that waits for a picture to be sent to a client. -/
structure Waiting where
  client : Nat
  next : Picture
  /-- The pictures that it sends to the client after that. -/
  later : List Picture
  /-- The clients that it serves after this one. -/
  following : List Nat
  /-- A connection does not disconnect its client if that is gone. -/
  connecting : Bool

def Waiting.pending (k : Waiting) : List Picture := k.next :: k.later

def touch (s : Station) (client : Nat) : Station :=
  { s with marks := s.marks.insert client ((s.marks.get? client).getD nothingSent) }

/-- Serves clients one after the other, up to the first send. -/
def visit : Station → List Nat → Station × Option Waiting
  | s, [] => (s, none)
  | s, client :: rest =>
    match s.backlog client with
    | [] => visit (s.touch client) rest
    | p :: later => (s, some ⟨client, p, later, rest, false⟩)

/-- The send is over, or has failed, and the operation goes on up to the next one. -/
def Waiting.resume (k : Waiting) (s : Station) : Station × Option Waiting :=
  match s.send k.client k.next with
  | some after =>
    match k.later with
    | [] => visit { after with marks := after.marks.insert k.client k.next.round } k.following
    | p :: later => (after, some { k with next := p, later := later })
  | none =>
    if k.connecting then (s, none) else visit (s.disconnect k.client) k.following

def connection (s : Station) (client : Nat) : Station × Option Waiting :=
  match (s.enrol client).backlog client with
  | [] => ((s.enrol client).touch client, none)
  | p :: later => (s.enrol client, some ⟨client, p, later, [], true⟩)

def advancement (s : Station) : Station × Option Waiting :=
  if s.isFinished then (s, none)
  else
    match s.colony.step s.round with
    | (.error _, after) => ({ s with colony := after }, none)
    | (.ok _, after) =>
      if (s.played after).isDue then visit (s.played after).queuing s.clients else (s.played after, none)

def resetting (s : Station) : Station × Option Waiting :=
  match s.colony.reset with
  | (.error _, after) => ({ s with colony := after }, none)
  | (.ok _, _) => visit s.restarted.queuing s.clients

/-! ## Without interruption -/

/-- The station when the operation is over, if nothing else happens. -/
def Waiting.complete (k : Waiting) (s : Station) : Station :=
  match Delivery.finish k.client s nothingSent k.pending with
  | (true, after) => k.following.foldl deliver after
  | (false, after) => if k.connecting then after else k.following.foldl deliver (after.disconnect k.client)

def outcome : Station × Option Waiting → Station
  | (s, none) => s
  | (s, some k) => k.complete s

theorem deliver_of_backlog_nil (idle : s.backlog client = []) : s.deliver client = s.touch client := by
  have pending : (Delivery.start s client).pending = [] := idle
  rw [deliver, Delivery.run, pending]
  rfl

theorem finish_of_backlog {p : Picture} {later : List Picture} (pending : s.backlog client = p :: later) :
    Delivery.finish client s nothingSent (p :: later) = (Delivery.start s client).run s := by
  have pending : (Delivery.start s client).pending = p :: later := pending
  rw [Delivery.run, pending]
  rfl

theorem outcome_visit (s : Station) (clients : List Nat) :
    outcome (visit s clients) = clients.foldl deliver s := by
  induction clients generalizing s with
  | nil => rfl
  | cons client rest ih =>
    rw [visit]
    split
    · next idle => rw [ih, List.foldl_cons, deliver_of_backlog_nil idle]
    · next p later pending =>
      rw [outcome, Waiting.complete, Waiting.pending, finish_of_backlog pending, List.foldl_cons, deliver]
      rcases (Delivery.start s client).run s with ⟨_ | _, after⟩ <;> rfl

/-- To go on with an operation does not change what it comes to. -/
theorem outcome_resume (k : Waiting) (s : Station) :
    outcome (k.resume s) = k.complete s := by
  rw [Waiting.resume, Waiting.complete, Waiting.pending, Delivery.finish]
  rcases sent : s.send k.client k.next with _ | after
  · cases connecting : k.connecting with
    | true => simp [outcome]
    | false => simp [outcome_visit]
  · rcases pending : k.later with _ | ⟨p, later⟩
    · simp only [outcome_visit, Delivery.finish]
    · simp only [outcome, Waiting.complete, Waiting.pending]
      rfl

theorem outcome_connection (s : Station) (client : Nat) :
    outcome (s.connection client) = (s.connect client).2 := by
  rw [connection, connect]
  split
  · next idle =>
    have idle : (Delivery.start (s.enrol client) client).pending = [] := idle
    rw [Delivery.run, idle]
    rfl
  · next p later pending =>
    rw [outcome, Waiting.complete, Waiting.pending, finish_of_backlog pending]
    rcases (Delivery.start (s.enrol client) client).run (s.enrol client) with ⟨_ | _, after⟩ <;> rfl

theorem outcome_advancement (s : Station) : outcome s.advancement = s.advance.2 := by
  rw [advancement, advance]
  split
  · rfl
  · rcases s.colony.step s.round with ⟨_ | _, after⟩
    · rfl
    · show outcome (if (s.played after).isDue = true then _ else _) =
        if (s.played after).isDue = true then (s.played after).broadcast else s.played after
      split
      · exact outcome_visit (s.played after).queuing s.clients
      · rfl

theorem outcome_resetting (s : Station) : outcome s.resetting = s.reset.2 := by
  rw [resetting, reset]
  rcases done : s.colony.reset with ⟨_ | _, after⟩
  · rfl
  · have same : s.restarted = ({ s with colony := after }).rewind := by
      rw [restarted, done]
    show outcome (visit s.restarted.queuing s.clients) = ({ s with colony := after }).rewind.broadcast
    rw [← same]
    exact outcome_visit s.restarted.queuing s.clients

/-! ## What may happen -/

structure Floor where
  station : Station
  waiting : List Waiting

/-- What happens between two sends. -/
inductive Move where
  | linked (capacity : Option Nat)
  | disconnected (client : Nat)
  | acknowledged (round : Int)
  | connecting (client : Nat)
  | advancing
  | resetting
  /-- One of the operations that wait goes on. -/
  | resumed (index : Nat)
deriving DecidableEq

namespace Floor

/-- The operations that wait, and one more if it waits. -/
def joined (waiting : List Waiting) (result : Station × Option Waiting) : Floor :=
  ⟨result.1, waiting ++ result.2.toList⟩

def move (f : Floor) : Move → Floor
  | .linked capacity => { f with station := (f.station.addLink capacity).2 }
  | .disconnected client => { f with station := f.station.disconnect client }
  | .acknowledged round => { f with station := f.station.acknowledge round }
  | .connecting client => joined f.waiting (f.station.connection client)
  | .advancing => joined f.waiting f.station.advancement
  | .resetting => joined f.waiting f.station.resetting
  | .resumed index =>
    match f.waiting[index]? with
    | some k => joined (f.waiting.eraseIdx index) (k.resume f.station)
    | none => f

def moveAll (f : Floor) (moves : List Move) : Floor := moves.foldl move f

end Floor

/-- What a move does first, and whom it then serves up to the next send. -/
inductive Stir (f : Floor) : Move → Station → List Waiting → List Nat → Prop
  /-- All rounds were played. -/
  | finished : Stir f .advancing f.station f.waiting []
  /-- No such operation waits. -/
  | nothing (index : Nat) : Stir f (.resumed index) f.station f.waiting []
  | linked (capacity : Option Nat) :
      Stir f (.linked capacity) (f.station.addLink capacity).2 f.waiting []
  | disconnected (client : Nat) :
      Stir f (.disconnected client) (f.station.disconnect client) f.waiting []
  | acknowledged (round : Int) :
      Stir f (.acknowledged round) (f.station.acknowledge round) f.waiting []
  /-- A client comes in, and there is something to send to it. -/
  | connecting {client : Nat} {k : Waiting} (whose : k.client = client) (alone : k.following = [])
      (pending : k.pending = (f.station.enrol client).backlog client) :
      Stir f (.connecting client) (f.station.enrol client) (f.waiting ++ [k]) []
  /-- A client comes in, and there is nothing to send to it. -/
  | connected (client : Nat) :
      Stir f (.connecting client) ((f.station.enrol client).touch client) f.waiting []
  | failed {fault : Fault} {after : Colony}
      (stepped : f.station.colony.step f.station.round = (.error fault, after)) :
      Stir f .advancing { f.station with colony := after } f.waiting []
  | played {r : Report} {after : Colony} (unfinished : f.station.isFinished = false)
      (stepped : f.station.colony.step f.station.round = (.ok r, after)) :
      Stir f .advancing (f.station.played after) f.waiting []
  /-- A round is played, and its picture is to be sent to all. -/
  | shown {r : Report} {after : Colony} (unfinished : f.station.isFinished = false)
      (stepped : f.station.colony.step f.station.round = (.ok r, after)) :
      Stir f .advancing (f.station.played after).queuing f.waiting f.station.clients
  | restarted : Stir f .resetting f.station.restarted.queuing f.waiting f.station.clients
  /-- A picture was sent, and there are more of them for the client. -/
  | sent {index : Nat} {k : Waiting} {p : Picture} {later : List Picture} {t : Station}
      (listed : f.waiting[index]? = some k) (passed : f.station.send k.client k.next = some t)
      (more : k.later = p :: later) :
      Stir f (.resumed index) t (f.waiting.eraseIdx index ++ [{ k with next := p, later := later }]) []
  /-- The last picture was sent, and it is marked. -/
  | served {index : Nat} {k : Waiting} {t : Station} (listed : f.waiting[index]? = some k)
      (passed : f.station.send k.client k.next = some t) (last : k.later = []) :
      Stir f (.resumed index) { t with marks := t.marks.insert k.client k.next.round }
        (f.waiting.eraseIdx index) k.following
  /-- A connection fails, and the client stays. -/
  | dropped {index : Nat} {k : Waiting} (listed : f.waiting[index]? = some k) (connecting : k.connecting = true) :
      Stir f (.resumed index) f.station (f.waiting.eraseIdx index) []
  /-- A client of a broadcast is gone and disconnected. -/
  | forgotten {index : Nat} {k : Waiting} (listed : f.waiting[index]? = some k) :
      Stir f (.resumed index) (f.station.disconnect k.client) (f.waiting.eraseIdx index) k.following

/-- A move is one of these. -/
theorem exists_stir (f : Floor) (move : Move) (resets : f.station.colony.reset.1 = .ok ()) :
    ∃ s waiting clients, Stir f move s waiting clients ∧ f.move move = Floor.joined waiting (visit s clients) := by
  have nobody (s : Station) (waiting : List Waiting) : Floor.joined waiting (visit s []) = ⟨s, waiting⟩ := by
    simp [Floor.joined, visit]
  cases move with
  | linked capacity => exact ⟨_, _, _, .linked capacity, (nobody _ _).symm⟩
  | disconnected client => exact ⟨_, _, _, .disconnected client, (nobody _ _).symm⟩
  | acknowledged round => exact ⟨_, _, _, .acknowledged round, (nobody _ _).symm⟩
  | connecting client =>
    rw [Floor.move, connection]
    split
    · exact ⟨_, _, _, .connected client, rfl⟩
    · next p later pending =>
      have stirred : Stir f (.connecting client) _ _ [] :=
        .connecting (k := ⟨client, p, later, [], true⟩) rfl rfl pending.symm
      exact ⟨_, _, _, stirred, (nobody _ _).symm⟩
  | advancing =>
    rw [Floor.move, advancement]
    split
    · exact ⟨_, _, _, .finished, rfl⟩
    · next unfinished =>
      have unfinished : f.station.isFinished = false := by simpa using unfinished
      rcases stepped : f.station.colony.step f.station.round with ⟨fault | r, after⟩
      · exact ⟨_, _, _, .failed stepped, rfl⟩
      · show ∃ s waiting clients, Stir f .advancing s waiting clients ∧ Floor.joined f.waiting
          (if (f.station.played after).isDue = true then _ else _) = _
        split
        · exact ⟨_, _, _, .shown unfinished stepped, rfl⟩
        · exact ⟨_, _, _, .played unfinished stepped, rfl⟩
  | resetting =>
    refine ⟨_, _, _, .restarted, ?_⟩
    rw [Floor.move, resetting]
    rcases done : f.station.colony.reset with ⟨_ | _, after⟩
    · rw [done] at resets
      cases resets
    · rfl
  | resumed index =>
    rw [Floor.move]
    split
    · next k listed =>
      rw [Waiting.resume]
      split
      · next t passed =>
        split
        · next last => exact ⟨_, _, _, .served listed passed last, rfl⟩
        · next p later more => exact ⟨_, _, _, .sent listed passed more, (nobody _ _).symm⟩
      · split
        · next connecting => exact ⟨_, _, _, .dropped listed connecting, rfl⟩
        · exact ⟨_, _, _, .forgotten listed, rfl⟩
    · exact ⟨_, _, _, .nothing index, (nobody _ _).symm⟩

/-- What it does to serve clients up to the next send. The marks stay, but for clients that had none. -/
structure Visited (clients : List Nat) (s : Station) (result : Station × Option Waiting) : Prop where
  rest : result.1 = { s with marks := result.1.marks }
  marks : ∀ client, result.1.marks.get? client = s.marks.get? client ∨
    client ∈ clients ∧ s.marks.get? client = none ∧ result.1.marks.get? client = some nothingSent
  waits : ∀ k ∈ result.2, k.pending = result.1.backlog k.client ∧ (k.client :: k.following) <:+ clients

theorem touch_marks (s : Station) (first client : Nat) :
    (s.touch first).marks.get? client = s.marks.get? client ∨
      client = first ∧ s.marks.get? client = none ∧
        (s.touch first).marks.get? client = some nothingSent := by
  by_cases same : client = first
  · subst same
    rw [touch, Table.get?_insert_self]
    rcases marked : s.marks.get? client with _ | mark
    · exact .inr ⟨rfl, rfl, rfl⟩
    · exact .inl rfl
  · exact .inl (Table.get?_insert_of_ne _ _ same)

theorem visit_visited (clients : List Nat) (s : Station) : Visited clients s (visit s clients) := by
  induction clients generalizing s with
  | nil => exact ⟨rfl, fun _ => .inl rfl, by simp [visit]⟩
  | cons first rest ih =>
    rw [visit]
    split
    · obtain ⟨same, marks, waits⟩ := ih (s.touch first)
      refine ⟨same, fun client => ?_, fun k waiting => ?_⟩
      · rcases marks client, touch_marks s first client with
          ⟨kept | ⟨listed, unmarked, marked⟩, before | ⟨rfl, before, now⟩⟩
        · exact .inl (kept.trans before)
        · exact .inr ⟨List.mem_cons_self, before, kept.trans now⟩
        · exact .inr ⟨List.mem_cons_of_mem first listed, before ▸ unmarked, marked⟩
        · rw [now] at unmarked
          cases unmarked
      · obtain ⟨pending, order⟩ := waits k waiting
        exact ⟨pending, order.trans (List.suffix_cons first rest)⟩
    · next p later pending =>
      refine ⟨rfl, fun _ => .inl rfl, fun k waiting => ?_⟩
      cases waiting
      exact ⟨pending.symm, List.suffix_refl _⟩

end Vivarium.Station
