import Vivarium.Proofs.Station.Broadcast

/-!
# Whose acknowledgement drops a picture

The queue is shared, and it does not matter to it which client acknowledges. So a picture is dropped that
other clients have not acknowledged. None of them misses it for that: it was sent to all of them before.

1. `acknowledge_queue`: an acknowledgement drops the pictures up to its round, and no others.
2. `acknowledgement_drops`: when all that is dropped was acknowledged by all connected clients, and to whom it
   had been sent.
3. `square_dropped`: a picture is dropped for a client that never acknowledged anything.
-/

namespace Vivarium.Station

open Colony

variable {s : Station} {c : Colony} {client other : Nat}

/-! ## Acknowledgements of clients -/

/-- What comes to a station: a client acknowledges, or something else is asked of it. -/
inductive Event where
  | acknowledged (client : Nat) (round : Int)
  | commanded (command : Command)
deriving DecidableEq

/-- What an event asks of the station, which is not told the client. -/
def Event.command : Event → Command
  | .acknowledged _ round => .acknowledge round
  | .commanded command => command

def attendTo (s : Station) (events : List Event) : Station := s.obeyAll (events.map Event.command)

/-- Since the last reset the client has acknowledged a round that is not before this one. -/
def HasAcknowledged (events : List Event) (client : Nat) (round : Int) : Prop :=
  ∃ earlier later latest, events = earlier ++ .acknowledged client latest :: later ∧ round ≤ latest ∧
    .commanded .reset ∉ later

theorem hasAcknowledged_append {events : List Event} {round latest : Int} :
    HasAcknowledged (events ++ [.acknowledged other latest]) client round ↔
      (client = other ∧ round ≤ latest) ∨ HasAcknowledged events client round := by
  constructor
  · rintro ⟨earlier, later, given, split, reached, unreset⟩
    rcases List.eq_nil_or_concat later with rfl | ⟨before, last, rfl⟩
    · obtain ⟨-, same⟩ := List.append_inj' split rfl
      simp only [List.cons.injEq, Event.acknowledged.injEq, and_true] at same
      exact .inl ⟨same.1.symm, same.2 ▸ reached⟩
    · rw [List.concat_eq_append, ← List.cons_append, ← List.append_assoc] at split
      obtain ⟨front, -⟩ := List.append_inj' split rfl
      exact .inr ⟨earlier, before, given, front, reached,
        fun reset => unreset (by simp [List.concat_eq_append, reset])⟩
  · rintro (⟨rfl, reached⟩ | ⟨earlier, later, given, rfl, reached, unreset⟩)
    · exact ⟨events, [], latest, rfl, reached, List.not_mem_nil⟩
    · refine ⟨earlier, later ++ [.acknowledged other latest], given, by simp, reached, ?_⟩
      simpa using unreset

theorem HasAcknowledged.exists_mem {events : List Event} {round : Int}
    (has : HasAcknowledged events client round) : ∃ latest, .acknowledged client latest ∈ events := by
  obtain ⟨earlier, later, latest, rfl, -, -⟩ := has
  exact ⟨latest, by simp⟩

/-! ## What is dropped -/

/-- Pictures are in order, so those at the head of the queue up to a round are all of them. -/
theorem dropWhile_eq_filter {pictures : List Picture} (ascending : Ascending pictures) (round : Int) :
    pictures.dropWhile (fun p => p.round ≤ round) = pictures.filter fun p => round < p.round := by
  induction pictures with
  | nil => rfl
  | cons p rest ih =>
    obtain ⟨first, ascending⟩ := List.pairwise_cons.1 ascending
    by_cases reached : p.round ≤ round
    · rw [List.dropWhile_cons_of_pos (by simpa using reached), ih ascending,
        List.filter_cons_of_neg (by simpa using reached)]
    · rw [List.dropWhile_cons_of_neg (by simpa using reached)]
      refine (List.filter_eq_self.2 fun q present => decide_eq_true ?_).symm
      rcases List.mem_cons.1 present with rfl | later
      · omega
      · have := first q later
        omega

theorem acknowledge_queue (queued : Queued s) (round : Int) :
    (s.acknowledge round).queue = s.queue.filter fun p => round < p.round :=
  dropWhile_eq_filter queued.ascending round

/-- The pictures of the queue that are missing after an acknowledgement. -/
def Drops (s : Station) (round : Int) (p : Picture) : Prop :=
  p ∈ s.queue ∧ p ∉ (s.acknowledge round).queue

theorem drops_iff (queued : Queued s) {round : Int} {p : Picture} :
    s.Drops round p ↔ p ∈ s.queue ∧ p.round ≤ round := by
  rw [Drops, acknowledge_queue queued, List.mem_filter, decide_eq_true_iff]
  refine and_congr_right fun present => ?_
  simp [present]

/-- A client that came in with success and stayed was sent all that is in the queue. -/
theorem Regular.queue_subset_sentTo (regular : Regular c s) {earlier later : List Command}
    (joined : ((s.obeyAll earlier).connect client).1 = .ok ()) (once : .connect client ∉ later)
    (stays : client ∈ (s.obeyAll (earlier ++ .connect client :: later)).clients) :
    (s.obeyAll (earlier ++ .connect client :: later)).queue ⊆
      (s.obeyAll (earlier ++ .connect client :: later)).sentTo client := by
  rw [obeyAll_append] at stays ⊢
  have before := regular.obeyAll earlier
  obtain ⟨abreast, -⟩ := connect_abreast before.toQueued joined
  exact ((before.obey (.connect client)).obeyAll_abreast abreast once stays).1.shown

/-- An acknowledgement drops a picture for all clients. It drops only what all connected ones have acknowledged
exactly if the others have acknowledged it already. Whatever it drops was sent to all of them. -/
theorem acknowledgement_drops {folder : Folder} {settings : Settings} {interval : Int} {entropy : Entropy}
    (created : create folder settings interval entropy = .ok s)
    (lasting : Lasting folder settings ({ entropy := entropy } : Founding))
    (events : List Event) (client : Nat) (round : Int) :
    (∀ p, (s.attendTo events).Drops round p ↔ p ∈ (s.attendTo events).queue ∧ p.round ≤ round) ∧
    ((∀ p, (s.attendTo events).Drops round p → ∀ other ∈ (s.attendTo events).clients,
        HasAcknowledged (events ++ [.acknowledged client round]) other p.round) ↔
      ∀ p ∈ (s.attendTo events).queue, p.round ≤ round → ∀ other ∈ (s.attendTo events).clients,
        other ≠ client → HasAcknowledged events other p.round) ∧
    ∀ earlier later other, events.map Event.command = earlier ++ .connect other :: later →
      .connect other ∉ later → ((s.obeyAll earlier).connect other).1 = .ok () →
      other ∈ (s.attendTo events).clients →
      ∀ p, (s.attendTo events).Drops round p → p ∈ (s.attendTo events).sentTo other := by
  have regular : Regular s.colony (s.attendTo events) := (regular_of_created created lasting).obeyAll _
  refine ⟨fun p => drops_iff regular.toQueued, ⟨?_, ?_⟩, ?_⟩
  · intro law p queued reached other connected apart
    have both := law p ((drops_iff regular.toQueued).2 ⟨queued, reached⟩) other connected
    exact (hasAcknowledged_append.1 both).resolve_left fun same => apart same.1
  · intro others p dropped other connected
    obtain ⟨queued, reached⟩ := (drops_iff regular.toQueued).1 dropped
    by_cases same : other = client
    · exact hasAcknowledged_append.2 (.inl ⟨same, reached⟩)
    · exact hasAcknowledged_append.2 (.inr (others p queued reached other connected same))
  · intro earlier later other split once joined stays p dropped
    rw [attendTo, split] at stays dropped ⊢
    exact (regular_of_created created lasting).queue_subset_sentTo joined once stays dropped.1

/-- Two clients that have seen the picture of the second round. -/
def squareEvents : List Event :=
  [.commanded (.link none), .commanded (.link none), .commanded (.connect 0), .commanded (.connect 1),
    .commanded .advance, .commanded .advance]

theorem squareEvents_drop :
    create .empty squareSettings 2 = .ok square ∧
    (∀ p, (square.attendTo squareEvents).Drops 2 p ↔
      p ∈ (square.attendTo squareEvents).queue ∧ p.round ≤ 2) ∧
    ∀ p, (square.attendTo squareEvents).Drops 2 p → p ∈ (square.attendTo squareEvents).sentTo 1 := by
  obtain ⟨dropped, -, sent⟩ := acknowledgement_drops square_created square_lasting squareEvents 0 2
  exact ⟨square_created, dropped,
    sent [.link none, .link none, .connect 0] [.advance, .advance] 1 rfl (by decide) rfl (by decide)⟩

/-- The first client acknowledges it, and it is dropped although the second one has acknowledged nothing. -/
theorem square_dropped :
    create .empty squareSettings 2 = .ok square ∧
    (square.attendTo squareEvents).Drops 2 (square.attendTo squareEvents).picture ∧
    1 ∈ (square.attendTo squareEvents).clients ∧
    ¬ HasAcknowledged (squareEvents ++ [.acknowledged 0 2]) 1
      (square.attendTo squareEvents).picture.round := by
  refine ⟨square_created, ⟨List.mem_singleton_self _, List.not_mem_nil⟩, by decide, fun has => ?_⟩
  obtain ⟨latest, listed⟩ := has.exists_mem
  simp [squareEvents] at listed

end Vivarium.Station
