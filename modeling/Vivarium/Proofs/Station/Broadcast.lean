import Vivarium.Proofs.Station.Command

/-!
# Every client is sent every picture

Acknowledgements of any client shorten the queue that all share, and a reset empties it and rewinds the
marks. Still no picture is missed by a client that stays, and none comes twice.

1. `Regular.rounds_broadcastsAll`: the pictures of every interval are broadcast, and of the last round.
2. `Regular.obey_abreast`: a client that was sent everything in the queue is sent what a command broadcasts.
3. `broadcasts_reach_clients`: so a client that connects is sent the queue and then all that is broadcast,
   in order and once.
-/

namespace Vivarium.Station

open Colony

variable {s t : Station} {c : Colony} {command : Command} {client : Nat}

/-! ## What is broadcast -/

/-- The pictures that a command puts into the queue. A reset empties it first. -/
def broadcasts (s : Station) : Command → List Picture
  | .reset => (s.obey .reset).queue
  | command => (s.obey command).queue.drop s.queue.length

def broadcastsAll (s : Station) : List Command → List Picture
  | [] => []
  | command :: rest => s.broadcasts command ++ (s.obey command).broadcastsAll rest

theorem broadcasts_of_ne_reset (s : Station) (other : command ≠ .reset) :
    s.broadcasts command = (s.obey command).queue.drop s.queue.length := by
  cases command with
  | reset => exact absurd rfl other
  | _ => rfl

theorem broadcastsAll_append (s : Station) (first second : List Command) :
    s.broadcastsAll (first ++ second) =
      s.broadcastsAll first ++ (s.obeyAll first).broadcastsAll second := by
  induction first generalizing s with
  | nil => rfl
  | cons command rest ih => simp [broadcastsAll, ih, obeyAll]

def due (settings : Settings) (interval round : Nat) : Bool :=
  round % interval == 0 || completes settings round

def dueRounds (settings : Settings) (interval before after : Nat) : List Int :=
  ((List.range' (before + 1) (after - before)).filter (due settings interval)).map Nat.cast

section

variable {settings : Settings} {interval : Nat}

theorem dueRounds_self (before : Nat) : dueRounds settings interval before before = [] := by
  simp [dueRounds]

theorem dueRounds_succ (before : Nat) :
    dueRounds settings interval before (before + 1) =
      if due settings interval (before + 1) then [((before + 1 : Nat) : Int)] else [] := by
  cases expected : due settings interval (before + 1) <;> simp [dueRounds, expected]

theorem dueRounds_append {first middle last : Nat} (early : first ≤ middle) (late : middle ≤ last) :
    dueRounds settings interval first middle ++ dueRounds settings interval middle last =
      dueRounds settings interval first last := by
  have joined : List.range' (first + 1) (middle - first) ++ List.range' (middle + 1) (last - middle) =
      List.range' (first + 1) (last - first) := by
    rw [show middle + 1 = first + 1 + (middle - first) by omega, List.range'_append_1,
      show middle - first + (last - middle) = last - first by omega]
  rw [dueRounds, dueRounds, dueRounds, ← joined, List.filter_append, List.map_append]

theorem mem_dueRounds {before after : Nat} {k : Int} (listed : k ∈ dueRounds settings interval before after) :
    (before : Int) < k ∧ k ≤ after := by
  simp only [dueRounds, List.mem_map, List.mem_filter, List.mem_range'_1] at listed
  obtain ⟨round, ⟨bounds, -⟩, rfl⟩ := listed
  omega

theorem dueRounds_ascending (before after : Nat) :
    (dueRounds settings interval before after).Pairwise (· < ·) := by
  refine List.pairwise_map.2 (List.Pairwise.filter _ ?_)
  exact List.Pairwise.imp Int.ofNat_lt.2 List.pairwise_lt_range'

end

/-- With a whole number of rounds, the pictures of the rounds at every interval are due, and of the last. -/
theorem dueRounds_eq {settings : Settings} {interval before after : Nat} {rounds : Int}
    (whole : settings.rounds.whole? = some rounds) (within : ∀ k < after, completes settings k = false) :
    dueRounds settings interval before after =
      ((List.range' (before + 1) (after - before)).filter
        fun k => interval ∣ k ∨ (k : Int) = rounds).map Nat.cast := by
  refine congrArg (List.map Nat.cast) (List.filter_congr fun k listed => ?_)
  rw [List.mem_range'_1] at listed
  have earlier := within (k - 1) (by omega)
  rw [completes_eq whole] at earlier
  rw [due, completes_eq whole]
  simp only [decide_eq_false_iff_not] at earlier
  have last : (rounds ≤ (k : Int)) ↔ (k : Int) = rounds := by omega
  simp [Bool.beq_eq_decide_eq, last, Nat.dvd_iff_mod_eq_zero]

/-! ## What is broadcast on commands -/

theorem Change.interval_eq (change : Change s command t) : t.interval = s.interval := by
  cases change with
  | connected client => exact (connect_serves s client).interval
  | shown => exact (broadcast_frame _).2.1
  | _ => rfl

/-- A change that is no reset broadcasts the picture of a round that it plays, if that is due. -/
theorem Change.announces (change : Change s command t) :
    (s.round ≤ t.round ∧ t.queue.drop s.queue.length = [] ∧
      dueRounds s.colony.settings s.interval s.round t.round = []) ∨
    (∃ r, s.colony.step s.round = (.ok r, t.colony) ∧ t.round = s.round + 1 ∧
      t.queue.drop s.queue.length = [t.picture] ∧
      due s.colony.settings s.interval t.round = true) := by
  -- If no round is played, the count stays and nothing comes into the queue.
  have unplayed {u : Station} (round : u.round = s.round) (queue : u.queue.length ≤ s.queue.length) :
      s.round ≤ u.round ∧ u.queue.drop s.queue.length = [] ∧
        dueRounds s.colony.settings s.interval s.round u.round = [] := by
    rw [round]
    exact ⟨Nat.le_refl _, List.drop_of_length_le queue, dueRounds_self s.round⟩
  cases change with
  | still | linked | disconnected | failed => exact .inl (unplayed rfl (Nat.le_refl _))
  | connected client =>
    have serves := connect_serves s client
    exact .inl (unplayed serves.round (serves.queue ▸ Nat.le_refl _))
  | acknowledged round => exact .inl (unplayed rfl (List.dropWhile_sublist _).length_le)
  | @played _ _ after unfinished stepped quiet =>
    have settings := step_settings s.colony s.round
    rw [stepped] at settings
    change due after.settings s.interval (s.round + 1) = false at quiet
    rw [settings] at quiet
    refine .inl ⟨Nat.le_succ _, List.drop_of_length_le (Nat.le_refl _), ?_⟩
    exact (dueRounds_succ s.round).trans (by simp [quiet])
  | @shown _ _ after unfinished stepped expected =>
    have settings := step_settings s.colony s.round
    rw [stepped] at settings
    change due after.settings s.interval (s.round + 1) = true at expected
    rw [settings] at expected
    obtain ⟨steady, -, queue, -⟩ := broadcast_frame (s.played after)
    have picture : (s.played after).broadcast.picture = (s.played after).picture := by
      rw [Station.picture, steady.colony, steady.round]
      rfl
    have round : (s.played after).broadcast.round = s.round + 1 := steady.round
    refine .inr ⟨_, by rw [steady.colony]; exact stepped, round, ?_, round ▸ expected⟩
    rw [queue, picture]
    exact List.drop_left

theorem Regular.interval_obey (regular : Regular c s) (command : Command) :
    (s.obey command).interval = s.interval :=
  regular.keeps (P := fun t => t.interval = s.interval) command
    (fun alike same => alike.interval.trans same) (fun changed same => changed.interval_eq.trans same)
    (fun _ _ => (broadcast_frame s.restarted).2.1) rfl

theorem Regular.announces (regular : Regular c s) (other : command ≠ .reset) :
    (s.round ≤ (s.obey command).round ∧ s.broadcasts command = [] ∧
      dueRounds c.settings s.interval s.round (s.obey command).round = []) ∨
    (∃ r after, s.colony.step s.round = (.ok r, after) ∧ after.SameState (s.obey command).colony ∧
      (s.obey command).round = s.round + 1 ∧ s.broadcasts command = [(s.obey command).picture] ∧
      due c.settings s.interval (s.obey command).round = true) := by
  obtain ⟨t, u, before, changed, after⟩ := exists_change s other
  rw [broadcasts_of_ne_reset s other, after.queue, after.round, after.picture_eq, ← before.queue,
    ← before.round, ← before.interval, ← regular.settings_eq, ← before.colony.settings]
  refine changed.announces.imp_right ?_
  rintro ⟨r, stepped, next, shown, expected⟩
  obtain ⟨result, state⟩ := before.colony.step t.round
  rw [stepped] at result state
  exact ⟨r, (s.colony.step t.round).2, Prod.ext result.symm rfl, state.trans after.colony, next, shown,
    expected⟩

/-- A reset broadcasts the picture of a colony of which no round was played. -/
theorem Regular.announces_reset (regular : Regular c s) :
    (s.obey .reset).round = 0 ∧ s.broadcasts .reset = [(s.obey .reset).picture] := by
  obtain ⟨steady, -, queue, -⟩ := broadcast_frame s.restarted
  rw [broadcasts, Station.obey, regular.reset.1, queue, picture, picture, steady.colony, steady.round]
  exact ⟨rfl, rfl⟩

/-- A command other than a reset broadcasts the picture of the round that it plays, if that is due. -/
theorem Regular.rounds_broadcasts (regular : Regular c s) (other : command ≠ .reset) :
    s.round ≤ (s.obey command).round ∧
      (s.broadcasts command).map (·.round) =
        dueRounds c.settings s.interval s.round (s.obey command).round := by
  rcases regular.announces other with
    ⟨counted, silent, undue⟩ | ⟨-, -, -, -, next, shown, expected⟩
  · exact ⟨counted, by rw [silent, undue, List.map_nil]⟩
  · rw [next] at expected
    rw [shown, next, dueRounds_succ, if_pos expected, ← next]
    exact ⟨by omega, rfl⟩

/-- With no reset, the pictures of the rounds that are played and due are broadcast. -/
theorem Regular.rounds_broadcastsAll (regular : Regular c s) {commands : List Command}
    (unreset : .reset ∉ commands) :
    s.round ≤ (s.obeyAll commands).round ∧
      (s.broadcastsAll commands).map (·.round) =
        dueRounds c.settings s.interval s.round (s.obeyAll commands).round := by
  induction commands generalizing s with
  | nil => exact ⟨Nat.le_refl _, (dueRounds_self s.round).symm⟩
  | cons command rest ih =>
    rw [List.mem_cons, not_or] at unreset
    obtain ⟨later, announced⟩ := ih (regular.obey command) unreset.2
    rw [regular.interval_obey] at announced
    obtain ⟨counted, first⟩ := regular.rounds_broadcasts (Ne.symm unreset.1)
    refine ⟨counted.trans later, ?_⟩
    rw [broadcastsAll, List.map_append, first, announced]
    exact dueRounds_append counted later

/-- After a reset, its own picture comes first. -/
theorem Regular.rounds_broadcastsAll_reset (regular : Regular c s) {commands : List Command}
    (unreset : .reset ∉ commands) :
    (s.broadcastsAll (.reset :: commands)).map (·.round) =
      0 :: dueRounds c.settings s.interval 0 (s.obeyAll (.reset :: commands)).round := by
  obtain ⟨zero, shown⟩ := regular.announces_reset
  have announced := ((regular.obey .reset).rounds_broadcastsAll unreset).2
  rw [zero, regular.interval_obey] at announced
  rw [broadcastsAll, shown, List.map_append, announced, picture, zero]
  rfl

/-! ## What clients are sent -/

theorem Abreast.alike (abreast : Abreast s client) (alike : Alike s t) : Abreast t client where
  connected := alike.clients ▸ abreast.connected
  marked := by
    rw [alike.marks, alike.round, alike.queue]
    exact abreast.marked
  shown := by
    rw [alike.queue, alike.sentTo_eq]
    exact abreast.shown

theorem sentTo_addLink (s : Station) (capacity : Option Nat) (client : Nat) :
    (s.addLink capacity).2.sentTo client = s.sentTo client := by
  rcases Nat.lt_trichotomy client s.links.size with inside | rfl | outside
  · simp [sentTo, addLink, Array.getElem?_push_lt, inside]
  · simp [sentTo, addLink]
  · simp [sentTo, addLink, Array.getElem?_push, Nat.ne_of_gt outside]

theorem ne_of_connect_ne {joined : Nat} (other : Command.connect joined ≠ .connect client) :
    client ≠ joined := by
  rintro rfl
  exact other rfl

/-- A client that was sent everything in the queue is sent what is broadcast, if it stays. -/
theorem Change.abreast (change : Change s command t) (abreast : Abreast s client)
    (other : command ≠ .connect client) (stays : client ∈ t.clients) :
    Abreast t client ∧ t.sentTo client = s.sentTo client ++ t.queue.drop s.queue.length := by
  obtain ⟨mark, marked, below, all⟩ := abreast.marked
  cases change with
  | still | failed => exact ⟨⟨stays, abreast.marked, abreast.shown⟩, by simp [sentTo]⟩
  | linked capacity =>
    have shown := sentTo_addLink s capacity client
    refine ⟨⟨stays, abreast.marked, ?_⟩, ?_⟩
    · rw [shown]
      exact abreast.shown
    · exact shown.trans (by simp [addLink])
  | connected joined =>
    have apart := ne_of_connect_ne other
    have serves := connect_serves s joined
    exact ⟨abreast.serves serves apart, by simp [serves.sentTo_eq apart, serves.queue]⟩
  | disconnected gone =>
    have apart : client ≠ gone := by
      rintro rfl
      simp [disconnect] at stays
    have serves := disconnect_serves s gone
    exact ⟨abreast.serves serves apart, by simp [serves.sentTo_eq apart, serves.queue]⟩
  | acknowledged round =>
    have fewer : (s.acknowledge round).queue.Sublist s.queue := List.dropWhile_sublist _
    refine ⟨⟨stays, ⟨mark, marked, below, fun p present => all p (fewer.subset present)⟩,
      fun p present => abreast.shown p (fewer.subset present)⟩, ?_⟩
    rw [List.drop_of_length_le fewer.length_le, List.append_nil]
    rfl
  | played =>
    refine ⟨⟨stays, ⟨mark, marked, ?_, all⟩, abreast.shown⟩, by simp [Station.played, sentTo]⟩
    simp only [Station.played]
    omega
  | @shown _ _ after =>
    have early : mark < ((s.played after).round : Int) := by
      simp only [Station.played]
      omega
    obtain ⟨last, sent⟩ := broadcast_abreast (s := s.played after) abreast.connected marked early all
      abreast.shown stays
    refine ⟨last, sent.trans ?_⟩
    rw [(broadcast_frame _).2.2.1]
    exact congrArg (s.sentTo client ++ ·) List.drop_left.symm

/-- A reset forgets what the client was sent, so the picture of the reset is sent to it. -/
theorem Abreast.restart (abreast : Abreast s client) (stays : client ∈ s.restarted.broadcast.clients) :
    Abreast s.restarted.broadcast client ∧
      s.restarted.broadcast.sentTo client = s.sentTo client ++ s.restarted.broadcast.queue := by
  obtain ⟨mark, marked, -, -⟩ := abreast.marked
  have forgotten : s.restarted.marks.get? client = some nothingSent := by
    simp [restarted, rewind, Table.get?_mapValues, marked]
  have empty : s.restarted.queue = [] := rfl
  have early : nothingSent < (s.restarted.round : Int) := by
    show (-1 : Int) < (0 : Nat)
    decide
  obtain ⟨last, sent⟩ := broadcast_abreast (s := s.restarted) abreast.connected forgotten early
    (by simp [empty]) (by simp [empty]) stays
  rw [(broadcast_frame s.restarted).2.2.1, empty]
  exact ⟨last, sent⟩

theorem Regular.obey_abreast (regular : Regular c s) (abreast : Abreast s client)
    (other : command ≠ .connect client) (stays : client ∈ (s.obey command).clients) :
    Abreast (s.obey command) client ∧
      (s.obey command).sentTo client = s.sentTo client ++ s.broadcasts command := by
  by_cases resets : command = .reset
  · subst resets
    rw [broadcasts]
    rw [Station.obey, regular.reset.1] at stays ⊢
    exact abreast.restart stays
  · obtain ⟨t, u, before, changed, after⟩ := exists_change s resets
    obtain ⟨last, sent⟩ := changed.abreast (abreast.alike before) other (after.clients ▸ stays)
    rw [broadcasts_of_ne_reset s resets, after.sentTo_eq, after.queue, sent, before.sentTo_eq, before.queue]
    exact ⟨last.alike after, rfl⟩

/-! ## Who is connected -/

/-- Only its own connection brings a client in. -/
theorem Change.mem_clients (change : Change s command t) (other : command ≠ .connect client)
    (present : client ∈ t.clients) : client ∈ s.clients := by
  cases change with
  | connected joined =>
    have apart := ne_of_connect_ne other
    exact ((connect_serves s joined).clients client apart).1 present
  | disconnected gone => exact (List.mem_filter.1 present).1
  | @shown _ _ after => exact (broadcast_frame (s.played after)).2.2.2 present
  | _ => exact present

theorem Regular.mem_clients_obey (regular : Regular c s) (other : command ≠ .connect client)
    (present : client ∈ (s.obey command).clients) : client ∈ s.clients :=
  regular.keeps (P := fun t => client ∈ t.clients → client ∈ s.clients) command
    (fun alike before present => before (alike.clients ▸ present))
    (fun changed before present => before (changed.mem_clients other present))
    (fun _ _ present => (broadcast_frame s.restarted).2.2.2 present) id present

theorem Regular.mem_clients_obeyAll (regular : Regular c s) {commands : List Command}
    (other : .connect client ∉ commands) (present : client ∈ (s.obeyAll commands).clients) :
    client ∈ s.clients := by
  refine regular.keepsAll (P := fun t => client ∈ t.clients → client ∈ s.clients) commands ?_ id present
  intro t command listed regular before present
  refine before (regular.mem_clients_obey ?_ present)
  rintro rfl
  exact other listed

/-- A client that takes all pictures goes only when it disconnects. -/
theorem Change.takes (change : Change s command t) (takes : s.Takes client) :
    t.Takes client ∧ (client ∈ s.clients → command ≠ .disconnect client → client ∈ t.clients) := by
  cases change with
  | connected joined =>
    by_cases same : client = joined
    · subst same
      exact ⟨(connect_takes takes).2, fun _ _ => (connect_cases s client).1⟩
    · have serves := connect_serves s joined
      exact ⟨serves.takes same takes, fun present _ => (serves.clients client same).2 present⟩
  | linked capacity =>
    obtain ⟨link, here, unbounded⟩ := takes
    obtain ⟨inside, -⟩ := Array.getElem?_eq_some_iff.1 here
    exact ⟨⟨link, by simpa [addLink, Array.getElem?_push_lt, inside] using here, unbounded⟩,
      fun present _ => present⟩
  | disconnected gone =>
    refine ⟨takes, fun present other => List.mem_filter.2 ⟨present, decide_eq_true ?_⟩⟩
    rintro rfl
    exact other rfl
  | @shown _ _ after =>
    obtain ⟨takes', stays⟩ := broadcast_takes (s := s.played after) takes
    exact ⟨takes', fun present _ => stays present⟩
  | _ => exact ⟨takes, fun present _ => present⟩

theorem Regular.obey_takes (regular : Regular c s) (takes : s.Takes client) (command : Command) :
    (s.obey command).Takes client ∧
      (client ∈ s.clients → command ≠ .disconnect client → client ∈ (s.obey command).clients) := by
  refine regular.keeps (P := fun t => t.Takes client ∧
    (client ∈ s.clients → command ≠ .disconnect client → client ∈ t.clients)) command ?_ ?_ ?_
    ⟨takes, fun present _ => present⟩
  · rintro t u alike ⟨takes, stays⟩
    unfold Takes
    rw [alike.links, alike.clients]
    exact ⟨takes, stays⟩
  · rintro t u changed ⟨takes, stays⟩
    obtain ⟨takes', stays'⟩ := changed.takes takes
    exact ⟨takes', fun present other => stays' (stays present other) other⟩
  · rintro - ⟨takes, -⟩
    obtain ⟨takes', stays⟩ := broadcast_takes (s := s.restarted) takes
    exact ⟨takes', fun present _ => stays present⟩

theorem Regular.obeyAll_takes (regular : Regular c s) (takes : s.Takes client)
    (connected : client ∈ s.clients) {commands : List Command}
    (stays : .disconnect client ∉ commands) : client ∈ (s.obeyAll commands).clients := by
  refine (regular.keepsAll (P := fun t => t.Takes client ∧ client ∈ t.clients) commands ?_
    ⟨takes, connected⟩).2
  rintro t command listed regular ⟨takes, connected⟩
  obtain ⟨takes', present⟩ := regular.obey_takes takes command
  refine ⟨takes', present connected ?_⟩
  rintro rfl
  exact stays listed

/-- Nothing was sent to who was never connected. -/
theorem Change.unseen (change : Change s command t) (other : command ≠ .connect client)
    (absent : client ∉ s.clients) : t.sentTo client = s.sentTo client := by
  cases change with
  | linked capacity => exact sentTo_addLink s capacity client
  | connected joined =>
    have apart := ne_of_connect_ne other
    exact (connect_serves s joined).sentTo_eq apart
  | @shown _ _ after => exact sentTo_broadcast (s := s.played after) absent
  | _ => rfl

theorem Regular.unseen (regular : Regular c s) {commands : List Command}
    (other : .connect client ∉ commands) (absent : client ∉ s.clients) :
    (s.obeyAll commands).sentTo client = s.sentTo client := by
  let Unseen (t : Station) : Prop := client ∉ t.clients ∧ t.sentTo client = s.sentTo client
  refine (regular.keepsAll (P := Unseen) commands ?_ ⟨absent, rfl⟩).2
  intro t command listed regular unseen
  have apart : command ≠ .connect client := by
    rintro rfl
    exact other listed
  refine regular.keeps (P := Unseen) command ?_ ?_ ?_ unseen
  · rintro u v alike ⟨absent, same⟩
    exact ⟨alike.clients ▸ absent, (alike.sentTo_eq client).trans same⟩
  · rintro u v changed ⟨absent, same⟩
    exact ⟨fun present => absent (changed.mem_clients apart present),
      (changed.unseen apart absent).trans same⟩
  · rintro - ⟨absent, same⟩
    exact ⟨fun present => absent ((broadcast_frame t.restarted).2.2.2 present),
      (sentTo_broadcast (s := t.restarted) absent).trans same⟩

/-! ## Complete, in order and once -/

/-- A client that was sent everything in the queue is sent all that is broadcast while it stays. -/
theorem Regular.obeyAll_abreast (regular : Regular c s) (abreast : Abreast s client)
    {commands : List Command} (other : .connect client ∉ commands)
    (stays : client ∈ (s.obeyAll commands).clients) :
    Abreast (s.obeyAll commands) client ∧
      (s.obeyAll commands).sentTo client = s.sentTo client ++ s.broadcastsAll commands := by
  induction commands generalizing s with
  | nil => exact ⟨abreast, (List.append_nil _).symm⟩
  | cons command rest ih =>
    rw [List.mem_cons, not_or] at other
    have present := (regular.obey command).mem_clients_obeyAll other.2 stays
    obtain ⟨abreast', sent⟩ := regular.obey_abreast abreast (Ne.symm other.1) present
    obtain ⟨last, sent'⟩ := ih (regular.obey command) abreast' other.2 stays
    refine ⟨last, sent'.trans ?_⟩
    rw [sent, broadcastsAll, List.append_assoc]

/-- What a client was sent that connects to a station, by the time after some more commands. -/
structure Served (s : Station) (later : List Command) (client : Nat) : Prop where
  /-- It was sent the queue and then all that was broadcast. -/
  sent : (s.obeyAll (.connect client :: later)).sentTo client =
    s.sentTo client ++ s.queue ++ s.broadcastsAll (.connect client :: later)
  ascending : .reset ∉ later → Ascending (s.queue ++ s.broadcastsAll (.connect client :: later))
  /-- Since the last reset it was sent all that was broadcast. -/
  again : ∀ middle recent, later = middle ++ .reset :: recent → .reset ∉ recent →
    (s.obeyAll (.connect client :: later)).sentTo client =
      (s.obeyAll (.connect client :: middle)).sentTo client ++
        (s.obeyAll (.connect client :: middle)).broadcastsAll (.reset :: recent) ∧
    Ascending ((s.obeyAll (.connect client :: middle)).broadcastsAll (.reset :: recent))

namespace Regular

variable {later : List Command}

theorem sentTo_connected (regular : Regular c s) (joined : (s.connect client).1 = .ok ())
    (once : .connect client ∉ later) (stays : client ∈ (s.obeyAll (.connect client :: later)).clients) :
    (s.obeyAll (.connect client :: later)).sentTo client =
      s.sentTo client ++ s.queue ++ s.broadcastsAll (.connect client :: later) := by
  have again : Regular c (s.connect client).2 := regular.obey (.connect client)
  obtain ⟨abreast, backlog⟩ := connect_abreast regular.toQueued joined
  have silent : s.broadcasts (.connect client) = [] := by
    rw [broadcasts_of_ne_reset s (by simp), Station.obey, (connect_serves s client).queue]
    exact List.drop_length
  rw [broadcastsAll, silent, List.nil_append, ← backlog]
  exact (again.obeyAll_abreast abreast once stays).2

theorem ascending_broadcastsAll (regular : Regular c s) {commands : List Command}
    (unreset : .reset ∉ commands) : Ascending (s.queue ++ s.broadcastsAll commands) := by
  have announced := (regular.rounds_broadcastsAll unreset).2
  have ordered := announced ▸ dueRounds_ascending s.round (s.obeyAll commands).round
  refine List.pairwise_append.2 ⟨regular.ascending, List.pairwise_map.1 ordered, ?_⟩
  intro p queued q shown
  have listed : q.round ∈ (s.broadcastsAll commands).map (·.round) := List.mem_map_of_mem shown
  have late := (mem_dueRounds (announced ▸ listed)).1
  have early := (regular.within p queued).2
  omega

theorem ascending_broadcastsAll_reset (regular : Regular c s) {commands : List Command}
    (unreset : .reset ∉ commands) : Ascending (s.broadcastsAll (.reset :: commands)) := by
  have ordered : ((s.broadcastsAll (.reset :: commands)).map (·.round)).Pairwise (· < ·) := by
    rw [regular.rounds_broadcastsAll_reset unreset]
    exact List.pairwise_cons.2 ⟨fun k listed => (mem_dueRounds listed).1, dueRounds_ascending _ _⟩
  exact List.pairwise_map.1 ordered

theorem served (regular : Regular c s) (joined : (s.connect client).1 = .ok ())
    (once : .connect client ∉ later) (stays : client ∈ (s.obeyAll (.connect client :: later)).clients) :
    Served s later client where
  sent := regular.sentTo_connected joined once stays
  ascending unreset := regular.ascending_broadcastsAll (by simpa using unreset)
  again middle recent split unreset := by
    subst split
    have before := regular.obeyAll (.connect client :: middle)
    refine ⟨?_, before.ascending_broadcastsAll_reset unreset⟩
    have whole := regular.sentTo_connected joined once stays
    rw [List.mem_append, not_or] at once
    rw [← List.cons_append, obeyAll_append] at stays
    have present := before.mem_clients_obeyAll once.2 stays
    rw [whole, regular.sentTo_connected joined once.1 present, ← List.cons_append,
      broadcastsAll_append, List.append_assoc (s.sentTo client ++ s.queue)]

end Regular

/-- Whatever commands come, the pictures of all rounds that are due are broadcast, after that of the reset
if there was one, and a client that connects is sent the queue and then every picture that is broadcast. -/
theorem broadcasts_reach_clients {folder : Folder} {settings : Settings} {interval : Int} {entropy : Entropy}
    (created : create folder settings interval entropy = .ok s)
    (lasting : Lasting folder settings ({ entropy := entropy } : Founding)) (earlier : List Command) :
    (∀ recent, .reset ∉ recent →
      (s.broadcastsAll recent).map (·.round) =
        dueRounds settings (max 1 interval.toNat) 0 (s.obeyAll recent).round ∧
      ((s.obeyAll earlier).broadcastsAll (.reset :: recent)).map (·.round) =
        0 :: dueRounds settings (max 1 interval.toNat) 0 (s.obeyAll (earlier ++ .reset :: recent)).round) ∧
    (∀ rounds, settings.rounds.whole? = some rounds →
      dueRounds settings (max 1 interval.toNat) 0 (s.obeyAll earlier).round =
        ((List.range' 1 (s.obeyAll earlier).round).filter
          fun k => max 1 interval.toNat ∣ k ∨ (k : Int) = rounds).map Nat.cast) ∧
    ∀ client later, .connect client ∉ later →
      -- The sends succeed to whoever takes all pictures, and only its own disconnection ends that.
      ((s.obeyAll earlier).Takes client →
        ((s.obeyAll earlier).connect client).1 = .ok () ∧
        (.disconnect client ∉ later →
          client ∈ (s.obeyAll (earlier ++ .connect client :: later)).clients)) ∧
      (.connect client ∉ earlier → (s.obeyAll earlier).sentTo client = []) ∧
      (((s.obeyAll earlier).connect client).1 = .ok () →
        client ∈ (s.obeyAll (earlier ++ .connect client :: later)).clients →
        Served (s.obeyAll earlier) later client) := by
  have regular := regular_of_created created lasting
  obtain ⟨founded, every, zero, alone, -, unlinked, -⟩ := create_eq_ok created
  have same : s.colony.settings = settings := (settled_of_created founded).2.1
  have before := regular.obeyAll earlier
  have interval_eq (commands : List Command) : (s.obeyAll commands).interval = s.interval :=
    regular.keepsAll (P := fun t => t.interval = s.interval) commands
      (fun _ regular kept => (regular.interval_obey _).trans kept) rfl
  refine ⟨fun recent unreset => ⟨?_, ?_⟩, fun rounds whole => ?_, fun client later once => ⟨?_, ?_, ?_⟩⟩
  · rw [(regular.rounds_broadcastsAll unreset).2, same, every, zero]
  · rw [before.rounds_broadcastsAll_reset unreset, same, interval_eq, every, obeyAll_append]
  · refine dueRounds_eq whole fun k early => ?_
    rw [← same, ← before.settings_eq]
    exact before.unfinished k early
  · intro takes
    obtain ⟨joined, takes'⟩ := connect_takes takes
    refine ⟨joined, fun stays => ?_⟩
    rw [obeyAll_append]
    exact (before.obey (.connect client)).obeyAll_takes takes'
      (connect_cases (s.obeyAll earlier) client).1 stays
  · intro unknown
    rw [regular.unseen unknown (by simp [alone]), sentTo, unlinked]
    rfl
  · intro joined stays
    rw [obeyAll_append] at stays
    exact before.served joined once stays

/-- A client that comes after the second of three rounds, and a reset, with the picture of every second
round. -/
theorem square_reaches_clients :
    create .empty squareSettings 2 = .ok square ∧
    ((square.obeyAll [.link none, .advance, .advance]).queue.map (·.round)) = [2] ∧
    Served (square.obeyAll [.link none, .advance, .advance])
      [.advance, .acknowledge 2, .reset, .advance, .advance] 0 ∧
    ((square.obeyAll [.link none, .advance, .advance, .connect 0, .advance, .acknowledge 2, .reset,
      .advance, .advance]).sentTo 0).map (·.round) = [2, 3, 0, 2] := by
  have reach := (broadcasts_reach_clients square_created square_lasting [.link none, .advance, .advance]).2.2 0
    [.advance, .acknowledge 2, .reset, .advance, .advance] (by decide)
  exact ⟨square_created, rfl, reach.2.2 rfl (by decide +kernel), rfl⟩

end Vivarium.Station
