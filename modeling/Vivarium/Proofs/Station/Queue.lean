import Vivarium.Proofs.Station.Acknowledgement

/-!
# The order of the queue

An acknowledgement drops pictures at the head of the queue and stops at the first one that is after its round.
It looks no further, and need not: pictures come in the order of their rounds, also when the interval leaves
rounds out, and a reset empties the queue before the rounds are counted anew.

1. `Regular.mem_queuedRounds_obey`: what a command leaves of the queue and what it adds.
2. `Outstanding`: a round that was not acknowledged since it was played. `Regular.mem_queuedRounds_obeyAll`:
   of the rounds that are due, those are in the queue.
3. `queue_stays_ordered`: the queue is in order and holds the outstanding rounds, and an acknowledgement leaves
   exactly the pictures that are after its round.
-/

namespace Vivarium.Station

open Colony

variable {s t : Station} {c : Colony} {command : Command} {commands : List Command} {k : Int}

def queuedRounds (s : Station) : List Int := s.queue.map (·.round)

theorem Queued.le_round (queued : Queued s) (listed : k ∈ s.queuedRounds) : k ≤ s.round := by
  obtain ⟨p, present, rfl⟩ := List.mem_map.1 listed
  exact (queued.within p present).2

/-! ## What a command does to the queue -/

/-- Changes other than acknowledgements take nothing out of the queue. -/
theorem Change.queue_prefix (change : Change s command t) (other : ∀ round, command ≠ .acknowledge round) :
    s.queue <+: t.queue := by
  cases change with
  | connected client => exact (connect_serves s client).queue ▸ List.prefix_rfl
  | acknowledged round => exact absurd rfl (other round)
  | @shown _ _ after =>
    rw [(broadcast_frame (s.played after)).2.2.1]
    exact List.prefix_append _ _
  | _ => exact List.prefix_rfl

theorem queue_obey (unreset : command ≠ .reset) (other : ∀ round, command ≠ .acknowledge round) :
    (s.obey command).queue = s.queue ++ s.broadcasts command := by
  obtain ⟨t, u, before, changed, after⟩ := exists_change s unreset
  have kept : s.queue <+: (s.obey command).queue := by
    rw [after.queue, ← before.queue]
    exact changed.queue_prefix other
  rw [broadcasts_of_ne_reset s unreset]
  exact (List.prefix_iff_eq_append.1 kept).symm

theorem mem_queuedRounds_acknowledge (queued : Queued s) (round : Int) :
    k ∈ (s.acknowledge round).queuedRounds ↔ k ∈ s.queuedRounds ∧ round < k := by
  simp only [queuedRounds, acknowledge_queue queued, List.mem_map, List.mem_filter, decide_eq_true_iff]
  constructor
  · rintro ⟨p, ⟨present, after⟩, rfl⟩
    exact ⟨⟨p, present, rfl⟩, after⟩
  · rintro ⟨⟨p, present, rfl⟩, after⟩
    exact ⟨p, ⟨present, after⟩, rfl⟩

/-- A command adds the round that it plays, if that is due. An acknowledgement takes out those that it reaches
of the rounds that were played. -/
theorem Regular.mem_queuedRounds_obey (regular : Regular c s) (unreset : command ≠ .reset) :
    k ∈ (s.obey command).queuedRounds ↔
      (k ∈ s.queuedRounds ∨ k ∈ dueRounds c.settings s.interval s.round (s.obey command).round) ∧
        ∀ round, command = .acknowledge round → k ≤ round → s.round < k := by
  by_cases acknowledges : ∃ round, command = .acknowledge round
  · obtain ⟨round, rfl⟩ := acknowledges
    have unplayed : dueRounds c.settings s.interval s.round (s.acknowledge round).round = [] :=
      dueRounds_self s.round
    rw [Station.obey, mem_queuedRounds_acknowledge regular.toQueued, unplayed]
    constructor
    · rintro ⟨listed, after⟩
      refine ⟨.inl listed, fun latest same reached => ?_⟩
      cases same
      omega
    · rintro ⟨listed, outstanding⟩
      have listed := listed.resolve_right List.not_mem_nil
      refine ⟨listed, Int.not_le.1 fun reached => ?_⟩
      have late := outstanding round rfl reached
      have early := regular.le_round listed
      omega
  · have other : ∀ round, command ≠ .acknowledge round := fun round same => acknowledges ⟨round, same⟩
    rw [queuedRounds, queue_obey unreset other, List.map_append, (regular.rounds_broadcasts unreset).2,
      List.mem_append]
    exact (and_iff_left fun round same => absurd same (other round)).symm

/-! ## What is in the queue -/

/-- Whatever acknowledgement reaches the round, it came before the round was played. -/
def Outstanding (s : Station) (commands : List Command) (k : Int) : Prop :=
  ∀ earlier round later, commands = earlier ++ .acknowledge round :: later → k ≤ round →
    (s.obeyAll earlier).round < k

theorem outstanding_nil (s : Station) (k : Int) : s.Outstanding [] k :=
  fun _ _ _ split => absurd split.symm (by simp)

theorem outstanding_concat :
    s.Outstanding (commands ++ [command]) k ↔
      s.Outstanding commands k ∧
        ∀ round, command = .acknowledge round → k ≤ round → (s.obeyAll commands).round < k := by
  constructor
  · intro outstanding
    refine ⟨fun earlier round later split reached => ?_, ?_⟩
    · exact outstanding earlier round (later ++ [command]) (by simp [split]) reached
    · rintro round rfl reached
      exact outstanding commands round [] rfl reached
  · rintro ⟨before, last⟩ earlier round later split reached
    rcases List.eq_nil_or_concat later with rfl | ⟨front, final, rfl⟩
    · obtain ⟨rfl, same⟩ := List.append_inj' split rfl
      exact last round (List.singleton_inj.1 same) reached
    · rw [List.concat_eq_append, ← List.cons_append, ← List.append_assoc] at split
      obtain ⟨same, -⟩ := List.append_inj' split rfl
      exact before earlier round front same reached

namespace Regular

theorem interval_obeyAll (regular : Regular c s) (commands : List Command) :
    (s.obeyAll commands).interval = s.interval :=
  regular.keepsAll (P := fun t => t.interval = s.interval) commands
    (fun _ regular kept => (regular.interval_obey _).trans kept) rfl

/-- No acknowledgement takes away a round that is still to be played. -/
theorem outstanding_of_lt (regular : Regular c s) (unreset : .reset ∉ commands)
    (unplayed : (s.obeyAll commands).round < k) : s.Outstanding commands k := by
  rintro earlier round later rfl -
  have unreset : .reset ∉ .acknowledge round :: later := fun resets =>
    unreset (List.mem_append_right _ resets)
  have counted := ((regular.obeyAll earlier).rounds_broadcastsAll unreset).1
  rw [obeyAll_append] at unplayed
  omega

/-- With no reset, the queue holds what it held and the rounds that were due since, as far as they are
outstanding. -/
theorem mem_queuedRounds_obeyAll (regular : Regular c s) (unreset : .reset ∉ commands) :
    k ∈ (s.obeyAll commands).queuedRounds ↔
      (k ∈ s.queuedRounds ∨ k ∈ dueRounds c.settings s.interval s.round (s.obeyAll commands).round) ∧
        s.Outstanding commands k := by
  -- The last command is taken off, as an acknowledgement is compared with the rounds that come before it.
  induction commands using List.reverseRecOn with
  | nil =>
    show k ∈ s.queuedRounds ↔
      (k ∈ s.queuedRounds ∨ k ∈ dueRounds c.settings s.interval s.round s.round) ∧ s.Outstanding [] k
    simp [dueRounds_self, outstanding_nil]
  | append_singleton commands command ih =>
    rw [List.mem_append, not_or, List.mem_singleton] at unreset
    obtain ⟨unreset, last⟩ := unreset
    have before := regular.obeyAll commands
    have next : s.obeyAll (commands ++ [command]) = (s.obeyAll commands).obey command :=
      obeyAll_append s commands [command]
    have counted := (regular.rounds_broadcastsAll unreset).1
    have later := (before.rounds_broadcasts (Ne.symm last)).1
    have fresh : k ∈ dueRounds c.settings s.interval (s.obeyAll commands).round
        ((s.obeyAll commands).obey command).round → s.Outstanding commands k := fun due =>
      regular.outstanding_of_lt unreset (mem_dueRounds due).1
    rw [next, outstanding_concat, ← dueRounds_append counted later, List.mem_append,
      before.mem_queuedRounds_obey (Ne.symm last), ih unreset, regular.interval_obeyAll]
    tauto

/-- A reset puts its own round into the empty queue. -/
theorem queuedRounds_reset (regular : Regular c s) :
    (s.obey .reset).round = 0 ∧ (s.obey .reset).queuedRounds = [0] := by
  obtain ⟨zero, shown⟩ := regular.announces_reset
  refine ⟨zero, ?_⟩
  rw [broadcasts] at shown
  rw [queuedRounds, shown, List.map_singleton, picture, zero]
  rfl

end Regular

/-- Whatever commands come, the queue is in the order of the rounds and has none of a round to come. So an
acknowledgement, which looks at the head only, leaves exactly the pictures after its round. The queue holds the
rounds that are due and outstanding, and the start of the rounds if there was a reset. -/
theorem queue_stays_ordered {folder : Folder} {settings : Settings} {interval : Int} {entropy : Entropy}
    (created : create folder settings interval entropy = .ok s)
    (lasting : Lasting folder settings ({ entropy := entropy } : Founding)) (commands : List Command) :
    Ascending (s.obeyAll commands).queue ∧
    (∀ p ∈ (s.obeyAll commands).queue, p.round ≤ (s.obeyAll commands).round) ∧
    (∀ round, ((s.obeyAll commands).acknowledge round).queue =
      (s.obeyAll commands).queue.filter fun p => round < p.round) ∧
    (.reset ∉ commands → ∀ k, k ∈ (s.obeyAll commands).queuedRounds ↔
      k ∈ dueRounds settings (max 1 interval.toNat) 0 (s.obeyAll commands).round ∧
        s.Outstanding commands k) ∧
    ∀ earlier recent, commands = earlier ++ .reset :: recent → .reset ∉ recent →
      ∀ k, k ∈ (s.obeyAll commands).queuedRounds ↔
        k ∈ 0 :: dueRounds settings (max 1 interval.toNat) 0 (s.obeyAll commands).round ∧
          ((s.obeyAll earlier).obey .reset).Outstanding recent k := by
  have start := regular_of_created created lasting
  obtain ⟨founded, every, zero, -, empty, -⟩ := create_eq_ok created
  have same : s.colony.settings = settings := (settled_of_created founded).2.1
  have regular := start.obeyAll commands
  refine ⟨regular.ascending, fun p present => (regular.within p present).2,
    acknowledge_queue regular.toQueued, fun unreset k => ?_, ?_⟩
  · have nothing : k ∉ s.queuedRounds := by simp [queuedRounds, empty]
    rw [start.mem_queuedRounds_obeyAll unreset, or_iff_right nothing, zero, every, same]
  · rintro earlier recent rfl unreset k
    have before := start.obeyAll earlier
    obtain ⟨zero, listed⟩ := before.queuedRounds_reset
    have again := (before.obey .reset).mem_queuedRounds_obeyAll unreset (k := k)
    rw [listed, zero, before.interval_obey, start.interval_obeyAll, every, same, List.mem_singleton,
      ← List.mem_cons] at again
    rw [obeyAll_append]
    exact again

/-- Before the second of three rounds was played again after a reset, it is acknowledged. -/
def squareAhead : List Command :=
  [.link none, .connect 0, .advance, .advance, .reset, .advance, .acknowledge 2, .advance, .advance]

/-- The acknowledgement takes the picture of the reset out of the queue, and not that of the second round, which
came later. Acknowledged once more, it goes and that of the third round stays. -/
theorem squareAhead_ordered :
    create .empty squareSettings 2 = .ok square ∧
    Ascending (square.obeyAll squareAhead).queue ∧
    (square.obeyAll squareAhead).queuedRounds = [2, 3] ∧
    ((square.obeyAll squareAhead).acknowledge 2).queuedRounds = [3] ∧
    (∀ k, k ∈ [2, 3] ↔ k ∈ 0 :: dueRounds squareSettings 2 0 3 ∧
      ((square.obeyAll [.link none, .connect 0, .advance, .advance]).obey .reset).Outstanding
        [.advance, .acknowledge 2, .advance, .advance] k) := by
  obtain ⟨ascending, -, left, -, held⟩ := queue_stays_ordered square_created square_lasting squareAhead
  refine ⟨square_created, ascending, rfl, ?_, held [.link none, .connect 0, .advance, .advance]
    [.advance, .acknowledge 2, .advance, .advance] rfl (by decide)⟩
  rw [queuedRounds, left]
  rfl

end Vivarium.Station
