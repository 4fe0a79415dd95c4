import Vivarium.Proofs.Station.Share

/-!
# Marks when operations are interleaved

A delivery looks at the mark of its client when it starts and writes it when it ends. In between others may
serve the same client, the station may be reset, and the client may leave.

1. `Noted.moveAll`: every mark is the round of a picture that the client was sent, or tells that there was none.
2. `Proper.unmarked_move`: a client that is not connected gets no mark unless some operation is still to serve it.
3. `Proper.mark_le_move`: marks do not decrease while one delivery to the client at most is in flight.
4. `marks_survive_interleaving`: all of this in whole runs, and that a mark belongs to the new run after a reset
   that came when no delivery was in flight.
5. `square_marks_lost`: without these conditions each of that fails.
-/

namespace Vivarium.Station

open Colony

variable {s t : Station} {c : Colony} {client : Nat} {f : Floor} {act : Move} {waiting : List Waiting}
  {clients : List Nat}

/-! ## Marks are of pictures that were sent -/

/-- The pictures that a move puts into the queue. A reset empties it first. -/
def Floor.announces (f : Floor) : Move → List Picture
  | .resetting => (f.move .resetting).station.queue
  | act => (f.move act).station.queue.drop f.station.queue.length

def Floor.announcesAll (f : Floor) : List Move → List Picture
  | [] => []
  | act :: rest => f.announces act ++ (f.move act).announcesAll rest

theorem Floor.announces_of_ne_resetting (f : Floor) (other : act ≠ .resetting) :
    f.announces act = (f.move act).station.queue.drop f.station.queue.length := by
  cases act with
  | resetting => exact absurd rfl other
  | _ => rfl

theorem Stir.queue_cases (stir : Stir f act s waiting clients) {p : Picture} (queued : p ∈ s.queue) :
    act = .resetting ∨
      act ≠ .resetting ∧ (p ∈ f.station.queue ∨ p ∈ s.queue.drop f.station.queue.length) := by
  cases stir with
  | restarted => exact .inl rfl
  | acknowledged => exact .inr ⟨by simp, .inl ((List.dropWhile_sublist _).subset queued)⟩
  | @shown _ after =>
    have added : (f.station.played after).queuing.queue =
      f.station.queue ++ [(f.station.played after).picture] := rfl
    rw [added] at queued ⊢
    rw [List.drop_left]
    exact .inr ⟨by simp, List.mem_append.1 queued⟩
  | sent _ passed | served _ passed =>
    exact .inr ⟨by simp, .inl ((send_eq_some passed).1.queue ▸ queued)⟩
  | _ => exact .inr ⟨by simp, .inl queued⟩

theorem Proper.queue_move (proper : Proper c f) (act : Move) {p : Picture}
    (queued : p ∈ (f.move act).station.queue) : p ∈ f.station.queue ∨ p ∈ f.announces act := by
  obtain ⟨s, waiting, clients, stir, -, -, visited, moved⟩ := proper.exists_stir act
  have queue : (f.move act).station.queue = s.queue := by
    rw [moved]
    exact visited.queue_eq
  rcases stir.queue_cases (queue ▸ queued) with rfl | ⟨other, before⟩
  · exact .inr queued
  · rw [f.announces_of_ne_resetting other, queue]
    exact before

/-- All that is on the way to a client, or was sent to it after some time, is among some pictures, and its mark
is the round of one that was sent to it since. -/
structure Noted (client : Nat) (old made : List Picture) (f : Floor) : Prop where
  queue : ∀ p ∈ f.station.queue, p ∈ made
  pending : ∀ k ∈ f.waiting, k.client = client → ∀ p ∈ k.pending, p ∈ made
  sent : ∃ new, f.station.sentTo client = old ++ new ∧ (∀ p ∈ new, p ∈ made) ∧
    ∀ mark, f.station.marks.get? client = some mark → mark = nothingSent ∨ ∃ p ∈ new, p.round = mark

variable {old made more : List Picture}

/-- Nothing is sent, and the mark stays or is set back. -/
theorem Noted.of_unsent (noted : Noted client old made f) (grown : made ⊆ more)
    (queue : ∀ p ∈ s.queue, p ∈ more) (sent : s.sentTo client = f.station.sentTo client)
    (marked : ∀ mark, s.marks.get? client = some mark →
      mark = nothingSent ∨ f.station.marks.get? client = some mark)
    (pending : ∀ k ∈ waiting, k.client = client → k ∈ f.waiting ∨ ∀ p ∈ k.pending, p ∈ more) :
    Noted client old more ⟨s, waiting⟩ := by
  obtain ⟨new, shown, among, last⟩ := noted.sent
  refine ⟨queue, fun k listed mine => ?_, new, sent.trans shown, fun p listed => grown (among p listed), ?_⟩
  · rcases pending k listed mine with before | all
    · exact fun p coming => grown (noted.pending k before mine p coming)
    · exact all
  · intro mark marking
    exact (marked mark marking).elim .inl (last mark)

/-- The next picture for the client is sent. -/
theorem Noted.of_sent (noted : Noted client old made f) (grown : made ⊆ more)
    (queue : ∀ p ∈ s.queue, p ∈ more) {k : Waiting} (listed : k ∈ f.waiting) (whose : k.client = client)
    (sent : s.sentTo client = f.station.sentTo client ++ [k.next])
    (marked : s.marks.get? client = f.station.marks.get? client ∨
      s.marks.get? client = some k.next.round)
    (pending : ∀ l ∈ waiting, l.client = client → l ∈ f.waiting ∨ l.pending = k.later) :
    Noted client old more ⟨s, waiting⟩ := by
  obtain ⟨new, shown, among, last⟩ := noted.sent
  have coming := noted.pending k listed whose
  refine ⟨queue, fun l left mine => ?_, new ++ [k.next], ?_, ?_, ?_⟩
  · rcases pending l left mine with before | rest
    · exact fun p present => grown (noted.pending l before mine p present)
    · rw [rest]
      exact fun p present => grown (coming p (List.mem_cons_of_mem k.next present))
  · rw [sent, shown, List.append_assoc]
  · intro p present
    rcases List.mem_append.1 present with before | now
    · exact grown (among p before)
    · rw [List.mem_singleton.1 now]
      exact grown (coming k.next List.mem_cons_self)
  · intro mark marking
    rcases marked with same | now
    · refine (last mark (same ▸ marking)).imp_right ?_
      rintro ⟨p, before, eq⟩
      exact ⟨p, List.mem_append_left _ before, eq⟩
    · rw [now] at marking
      exact .inr ⟨k.next, List.mem_append_right _ List.mem_cons_self, Option.some.inj marking⟩

theorem Share.noted (share : Share client f act s waiting clients) (noted : Noted client old made f)
    (grown : made ⊆ more) (queue : ∀ p ∈ s.queue, p ∈ more) : Noted client old more ⟨s, waiting⟩ := by
  cases share with
  | kept sent mark _ before =>
    exact noted.of_unsent grown queue sent (fun m eq => .inr (mark ▸ eq)) fun k listed mine =>
      .inl (before k listed mine)
  | joined _ sent mark _ pending =>
    refine noted.of_unsent grown queue sent (fun m eq => .inl ?_) fun k listed mine => ?_
    · rw [mark] at eq
      exact (Option.some.inj eq).symm
    · refine (pending k listed mine).imp_right fun backlog p coming => ?_
      exact queue p (backlog_subset s client p (backlog ▸ coming))
  | gone sent mark _ before =>
    refine noted.of_unsent grown queue sent (fun m eq => ?_) fun k listed mine =>
      .inl (before k listed mine)
    rw [mark] at eq
    cases eq
  | rewound _ sent mark _ before =>
    refine noted.of_unsent grown queue sent (fun m eq => .inl ?_) fun k listed _ => .inl (before ▸ listed)
    rw [mark] at eq
    obtain ⟨_, -, back⟩ := Option.map_eq_some_iff.1 eq
    exact back.symm
  | sent listed whose sent mark _ pending =>
    exact noted.of_sent grown queue listed whose sent (.inl mark) pending
  | served listed whose sent mark _ left =>
    refine noted.of_sent grown queue (List.mem_of_getElem? listed) whose sent (.inr mark) fun l there _ => ?_
    exact .inl (List.mem_of_mem_eraseIdx (left ▸ there))

theorem Visited.noted {result : Station × Option Waiting} (visited : Visited clients s result)
    (noted : Noted client old made ⟨s, waiting⟩) : Noted client old made (Floor.joined waiting result) := by
  have sent : result.1.sentTo client = s.sentTo client := by rw [visited.rest, sentTo, sentTo]
  have all : ∀ p ∈ result.1.queue, p ∈ made := by
    rw [visited.queue_eq]
    exact noted.queue
  refine noted.of_unsent (List.Subset.refl _) all sent (fun mark eq => ?_) fun k listed mine => ?_
  · rcases visited.marks client with same | ⟨-, -, unsent⟩
    · exact .inr (same ▸ eq)
    · rw [unsent] at eq
      exact .inl (Option.some.inj eq).symm
  · refine (List.mem_append.1 listed).imp_right fun new p coming => ?_
    rw [(visited.waits k (Option.mem_toList.1 new)).1] at coming
    exact all p (backlog_subset _ _ p coming)

theorem Noted.move (noted : Noted client old made f) (proper : Proper c f) (act : Move) :
    Noted client old (made ++ f.announces act) (f.move act) := by
  obtain ⟨s, waiting, clients, stir, -, -, visited, moved⟩ := proper.exists_stir act
  have queue : ∀ p ∈ s.queue, p ∈ made ++ f.announces act := by
    intro p queued
    have same : (f.move act).station.queue = s.queue := by
      rw [moved]
      exact visited.queue_eq
    rw [List.mem_append]
    exact (proper.queue_move act (same ▸ queued)).imp_left (noted.queue p)
  rw [moved]
  exact visited.noted ((proper.share stir client).noted noted (List.subset_append_left _ _) queue)

theorem Noted.moveAll (noted : Noted client old made f) (proper : Proper c f) (moves : List Move) :
    Noted client old (made ++ f.announcesAll moves) (f.moveAll moves) := by
  induction moves generalizing f made with
  | nil => exact (List.append_nil made).symm ▸ noted
  | cons act rest ih =>
    rw [Floor.announcesAll, ← List.append_assoc]
    exact ih (noted.move proper act) (proper.move act)

/-- When a reset comes and no picture is on the way to a client, its mark is of the new run from then on. -/
theorem Proper.noted_reset (proper : Proper c f) (idle : ∀ k ∈ f.waiting, k.client ≠ client) :
    Noted client (f.station.sentTo client) (f.announces .resetting) (f.move .resetting) := by
  obtain ⟨s, waiting, clients, stir, -, -, visited, moved⟩ := proper.exists_stir .resetting
  have queue : f.announces .resetting = s.queue := by
    rw [Floor.announces, moved]
    exact visited.queue_eq
  rw [moved, queue]
  refine visited.noted ⟨fun p => id, ?_, [], ?_, by simp, ?_⟩
  all_goals cases stir
  · exact fun k listed mine => absurd mine (idle k listed)
  · exact (List.append_nil _).symm
  · intro mark marked
    have back : (f.station.marks.mapValues fun _ => nothingSent).get? client = some mark := marked
    rw [Table.get?_mapValues] at back
    obtain ⟨_, -, back⟩ := Option.map_eq_some_iff.1 back
    exact .inl back.symm

/-! ## Marks of clients that are not connected -/

/-- No operation serves the client, or is to serve it, when it is not connected. -/
def Away (client : Nat) (f : Floor) : Prop :=
  client ∉ f.station.clients → ∀ k ∈ f.waiting, k.client ≠ client ∧ client ∉ k.following

theorem Share.unmarked (share : Share client f act s waiting clients) (away : Away client f)
    (unmarked : client ∉ f.station.clients → f.station.marks.get? client = none) (absent : client ∉ s.clients) :
    client ∉ clients ∧ s.marks.get? client = none := by
  cases share with
  | kept _ mark present _ visits =>
    have before : client ∉ f.station.clients := fun there => absent (present.2 there)
    refine ⟨fun visited => ?_, mark.trans (unmarked before)⟩
    rcases visits visited with there | ⟨k, listed, follows⟩
    · exact before there
    · exact (away before k listed).2 follows
  | joined _ _ _ present => exact absurd present absent
  | gone _ mark _ _ unvisited => exact ⟨unvisited, mark⟩
  | rewound _ _ mark present _ visits =>
    rw [present] at absent visits
    exact ⟨visits ▸ absent, by rw [mark, unmarked absent, Option.map_none]⟩
  | sent listed whose _ _ present =>
    exact absurd whose (away (present ▸ absent) _ listed).1
  | served listed whose _ _ present =>
    exact absurd whose (away (present ▸ absent) _ (List.mem_of_getElem? listed)).1

theorem Proper.unmarked_move (proper : Proper c f) (away : Away client f)
    (unmarked : client ∉ f.station.clients → f.station.marks.get? client = none) (act : Move)
    (absent : client ∉ (f.move act).station.clients) : (f.move act).station.marks.get? client = none := by
  obtain ⟨s, waiting, clients, stir, -, -, visited, moved⟩ := proper.exists_stir act
  rw [moved] at absent ⊢
  have left : client ∉ s.clients := by
    have same : (visit s clients).1.clients = s.clients := by rw [visited.rest]
    exact same ▸ absent
  obtain ⟨unvisited, markless⟩ := (proper.share stir client).unmarked away unmarked left
  exact (visited.mark_eq fun listed => absurd listed unvisited).trans markless

/-! ## Marks do not decrease -/

/-- The operations that are sending a picture to a client. -/
def Floor.inFlight (f : Floor) (client : Nat) : List Waiting := f.waiting.filter (·.client = client)

/-- The pictures are in order and after the mark of a client. -/
def Outruns (s : Station) (client : Nat) (pictures : List Picture) : Prop :=
  Ascending pictures ∧ ∀ p ∈ pictures, 0 ≤ p.round ∧ ∀ mark, s.marks.get? client = some mark → mark < p.round

theorem Outruns.of_mark {pictures : List Picture} (after : s.Outruns client pictures)
    (same : t.marks.get? client = s.marks.get? client) : t.Outruns client pictures := by
  unfold Outruns
  rwa [same]

/-- Pictures stay after a mark that is set back. -/
theorem Outruns.set_back {pictures : List Picture} (after : s.Outruns client pictures)
    (back : ∀ mark, t.marks.get? client = some mark → mark = nothingSent) : t.Outruns client pictures := by
  refine ⟨after.1, fun p pending => ⟨(after.2 p pending).1, fun mark marked => ?_⟩⟩
  have nonneg := (after.2 p pending).1
  rw [back mark marked, nothingSent]
  omega

theorem backlog_outruns (queued : Queued s) (client : Nat) : s.Outruns client (s.backlog client) := by
  refine ⟨queued.ascending.filter _, fun p pending => ⟨?_, fun mark marked => ?_⟩⟩
  · exact (queued.within p (backlog_subset s client p pending)).1
  · rw [backlog_eq marked] at pending
    simpa using (List.mem_filter.1 pending).2

/-- What is on the way to a client is after its mark. -/
def Ahead (client : Nat) (f : Floor) : Prop :=
  ∀ k ∈ f.waiting, k.client = client → f.station.Outruns client k.pending

/-- If at most one operation sends to a client and that one goes on, no other one sends to it. -/
theorem not_inFlight_of_eraseIdx {index : Nat} {k l : Waiting} (alone : (f.inFlight client).length ≤ 1)
    (listed : f.waiting[index]? = some k) (whose : k.client = client) (left : l ∈ f.waiting.eraseIdx index) :
    l.client ≠ client := by
  intro mine
  obtain ⟨inside, rfl⟩ := List.getElem?_eq_some_iff.1 listed
  have order := (List.getElem_cons_eraseIdx_perm inside).filter (fun k : Waiting => k.client = client)
  rw [List.filter_cons_of_pos (by simpa using whose)] at order
  have others : l ∈ (f.waiting.eraseIdx index).filter fun k : Waiting => k.client = client :=
    List.mem_filter.2 ⟨left, by simpa using mine⟩
  have several := List.length_pos_of_mem others
  have counted := order.length_eq
  rw [List.length_cons] at counted
  rw [Floor.inFlight] at alone
  omega

theorem Share.ahead (share : Share client f act s waiting clients) (queued : Queued s)
    (alone : (f.inFlight client).length ≤ 1) (ahead : Ahead client f) : Ahead client ⟨s, waiting⟩ := by
  intro k listed mine
  cases share with
  | kept _ mark _ before => exact (ahead k (before k listed mine) mine).of_mark mark
  | joined _ _ mark _ pending =>
    rcases pending k listed mine with before | backlog
    · exact (ahead k before mine).set_back fun m eq => (Option.some.inj (mark.symm.trans eq)).symm
    · rw [backlog]
      exact backlog_outruns queued client
  | gone _ mark _ before =>
    refine (ahead k (before k listed mine) mine).set_back fun m eq => ?_
    exact absurd (eq.symm.trans mark) (Option.some_ne_none m)
  | rewound _ _ mark _ before =>
    refine (ahead k (before ▸ listed) mine).set_back fun m eq => ?_
    obtain ⟨_, -, back⟩ := Option.map_eq_some_iff.1 (mark.symm.trans eq)
    exact back.symm
  | @sent sending there whose _ mark _ pending =>
    rcases pending k listed mine with before | rest
    · exact (ahead k before mine).of_mark mark
    · obtain ⟨ascending, after⟩ := (ahead sending there whose).of_mark mark
      rw [rest]
      exact ⟨(List.pairwise_cons.1 ascending).2, fun p later => after p (List.mem_cons_of_mem _ later)⟩
  | served there whose _ _ _ left =>
    exact absurd mine (not_inFlight_of_eraseIdx alone there whose (left ▸ listed))

theorem Visited.ahead {result : Station × Option Waiting} (visited : Visited clients s result)
    (queued : Queued s) (ahead : Ahead client ⟨s, waiting⟩) : Ahead client (Floor.joined waiting result) := by
  intro k listed mine
  rcases List.mem_append.1 listed with before | new
  · rcases visited.marks client with same | ⟨-, -, unsent⟩
    · exact (ahead k before mine).of_mark same
    · exact (ahead k before mine).set_back fun m eq => Option.some.inj (eq.symm.trans unsent)
  · have queued' : Queued result.1 := queued.of_same visited.queue_eq (by rw [visited.rest])
    rw [(visited.waits k (Option.mem_toList.1 new)).1, mine]
    exact backlog_outruns queued' client

theorem Proper.ahead_move (proper : Proper c f) (alone : (f.inFlight client).length ≤ 1)
    (ahead : Ahead client f) (act : Move) : Ahead client (f.move act) := by
  obtain ⟨s, waiting, clients, stir, proper', -, visited, moved⟩ := proper.exists_stir act
  rw [moved]
  exact visited.ahead proper'.regular.toQueued
    ((proper.share stir client).ahead proper'.regular.toQueued alone ahead)

/-- Only a reset and a new connection set a mark back, if at most one delivery to the client is in flight. -/
theorem Proper.mark_le_move (proper : Proper c f) (ahead : Ahead client f) (other : act ≠ .resetting)
    (known : act ≠ .connecting client) {before after : Int}
    (was : f.station.marks.get? client = some before)
    (now : (f.move act).station.marks.get? client = some after) : before ≤ after := by
  obtain ⟨s, waiting, clients, stir, -, -, visited, moved⟩ := proper.exists_stir act
  rw [moved] at now
  -- The visits after the stir write the mark that is there, so it is the stir that counts.
  have same (settled : client ∈ clients → s.marks.get? client ≠ none) :
      s.marks.get? client = some after := (visited.mark_eq settled).symm.trans now
  cases proper.share stir client with
  | kept _ mark | sent _ _ _ mark =>
    have kept := same fun _ => by rw [mark, was]; exact Option.some_ne_none before
    rw [mark, was] at kept
    exact (Option.some.inj kept).le
  | joined connects => exact absurd connects known
  | rewound resets => exact absurd resets other
  | gone _ mark _ _ unvisited =>
    have kept := same fun listed => absurd listed unvisited
    exact absurd (kept.symm.trans mark) (Option.some_ne_none after)
  | @served k index listed whose _ mark =>
    have kept := same fun _ => by rw [mark]; exact Option.some_ne_none _
    -- The end of a delivery writes the round of a picture that was on the way, which is after the mark.
    have next : k.next.round = after := Option.some.inj (mark.symm.trans kept)
    have above := ((ahead k (List.mem_of_getElem? listed) whose).2 k.next List.mem_cons_self).2 before was
    omega

/-! ## Whole runs -/

def Floor.of (s : Station) : Floor := ⟨s, []⟩

theorem proper_of_created {folder : Folder} {settings : Settings} {interval : Int} {entropy : Entropy}
    (created : create folder settings interval entropy = .ok s)
    (lasting : Lasting folder settings ({ entropy := entropy } : Founding)) : Proper s.colony (Floor.of s) := by
  obtain ⟨-, -, -, alone, -⟩ := create_eq_ok created
  exact ⟨regular_of_created created lasting, by simp [Floor.of, alone], by simp [Floor.of]⟩

/-- What every move keeps under a condition is kept by moves under which the condition stays. -/
theorem Proper.keepsAll {Calm P : Floor → Prop} (proper : Proper c f) (moves : List Move)
    (calm : ∀ earlier, earlier <+: moves → Calm (f.moveAll earlier))
    (step : ∀ {g}, Proper c g → Calm g → P g → ∀ act, P (g.move act)) (start : P f) :
    P (f.moveAll moves) := by
  induction moves generalizing f with
  | nil => exact start
  | cons act rest ih =>
    refine ih (proper.move act) (fun earlier early => ?_) (step proper (calm [] List.nil_prefix) start act)
    exact calm (act :: earlier) ((List.prefix_cons_inj act).2 early)

/-- Marks of a client, whatever is interleaved. A mark is always that of a picture the client was sent. It does
not decrease while one delivery to the client at most is in flight, and is one of the new run after a reset if
none was in flight then. A client that is not connected has none if no operation is still to serve it. -/
theorem marks_survive_interleaving {folder : Folder} {settings : Settings} {interval : Int} {entropy : Entropy}
    (created : create folder settings interval entropy = .ok s)
    (lasting : Lasting folder settings ({ entropy := entropy } : Founding)) (moves : List Move) (client : Nat) :
    (∀ mark, ((Floor.of s).moveAll moves).station.marks.get? client = some mark →
      mark = nothingSent ∨ ∃ p ∈ ((Floor.of s).moveAll moves).station.sentTo client, p.round = mark) ∧
    ((∀ earlier, earlier <+: moves → (((Floor.of s).moveAll earlier).inFlight client).length ≤ 1) →
      ∀ act before after, act ≠ .resetting → act ≠ .connecting client →
        ((Floor.of s).moveAll moves).station.marks.get? client = some before →
        (((Floor.of s).moveAll moves).move act).station.marks.get? client = some after → before ≤ after) ∧
    (∀ earlier recent, moves = earlier ++ .resetting :: recent →
      ((Floor.of s).moveAll earlier).inFlight client = [] →
      ∃ new, ((Floor.of s).moveAll moves).station.sentTo client =
          ((Floor.of s).moveAll earlier).station.sentTo client ++ new ∧
        (∀ p ∈ new, p ∈ ((Floor.of s).moveAll earlier).announcesAll (.resetting :: recent)) ∧
        ∀ mark, ((Floor.of s).moveAll moves).station.marks.get? client = some mark →
          mark = nothingSent ∨ ∃ p ∈ new, p.round = mark) ∧
    ((∀ earlier, earlier <+: moves → Away client ((Floor.of s).moveAll earlier)) →
      client ∉ ((Floor.of s).moveAll moves).station.clients →
      ((Floor.of s).moveAll moves).station.marks.get? client = none) := by
  have proper := proper_of_created created lasting
  obtain ⟨-, -, -, -, empty, unlinked, unmarked⟩ := create_eq_ok created
  have bare : (Floor.of s).station.marks.get? client = none := by
    rw [Floor.of, unmarked]
    rfl
  refine ⟨?_, ?_, ?_, ?_⟩
  · have unsent : (Floor.of s).station.sentTo client = [] := by
      rw [Floor.of, sentTo, unlinked]
      rfl
    have start : Noted client [] [] (Floor.of s) := by
      refine ⟨fun p queued => ?_, by simp [Floor.of], [], unsent, by simp, fun mark marked => ?_⟩
      · rw [Floor.of, empty] at queued
        exact queued
      · exact absurd (marked.symm.trans bare) (Option.some_ne_none mark)
    obtain ⟨new, sent, -, marks⟩ := (start.moveAll proper moves).sent
    rw [sent]
    exact marks
  · intro alone act before after other known was now
    have ahead : Ahead client ((Floor.of s).moveAll moves) :=
      proper.keepsAll moves alone (fun proper alone ahead act => proper.ahead_move alone ahead act)
        (by simp [Ahead, Floor.of])
    exact (proper.moveAll moves).mark_le_move ahead other known was now
  · rintro earlier recent rfl idle
    have before := proper.moveAll earlier
    have away : ∀ k ∈ ((Floor.of s).moveAll earlier).waiting, k.client ≠ client := by
      simpa [Floor.inFlight] using idle
    have noted := (before.noted_reset away).moveAll (before.move .resetting) recent
    have split : (Floor.of s).moveAll (earlier ++ .resetting :: recent) =
        (((Floor.of s).moveAll earlier).move .resetting).moveAll recent := List.foldl_append
    rw [split]
    exact noted.sent
  · intro away
    exact proper.keepsAll (P := fun f => client ∉ f.station.clients → f.station.marks.get? client = none) moves
      away (fun proper away unmarked act => proper.unmarked_move away unmarked act) fun _ => bare

/-- The picture of a round is sent to a client, and after a reset another one. Then the client leaves. -/
def squareMoves : List Move :=
  [.linked none, .connecting 0, .advancing, .advancing, .resumed 0, .resetting, .resumed 0, .disconnected 0]

theorem squareMoves_survive :
    create .empty squareSettings 2 = .ok square ∧
    (nothingSent ≤ 2 ∧
      (((Floor.of square).moveAll (squareMoves.take 4)).move (.resumed 0)).station.marks.get? 0 = some 2) ∧
    (∃ new, ((Floor.of square).moveAll (squareMoves.take 7)).station.sentTo 0 =
        ((Floor.of square).moveAll (squareMoves.take 5)).station.sentTo 0 ++ new ∧
      ((0 : Int) = nothingSent ∨ ∃ p ∈ new, p.round = 0)) ∧
    ((Floor.of square).moveAll squareMoves).station.marks.get? 0 = none := by
  have alone : ∀ earlier ∈ (squareMoves.take 4).inits,
      (((Floor.of square).moveAll earlier).inFlight 0).length ≤ 1 := by
    decide +kernel
  have away : ∀ earlier ∈ squareMoves.inits, Away 0 ((Floor.of square).moveAll earlier) := by
    unfold Away
    decide +kernel
  have kept := (marks_survive_interleaving square_created square_lasting (squareMoves.take 4) 0).2.1
    (fun earlier early => alone earlier ((List.mem_inits _ _).2 early)) (.resumed 0) nothingSent 2 (by simp)
    (by simp) rfl rfl
  obtain ⟨new, sent, -, marks⟩ :=
    (marks_survive_interleaving square_created square_lasting (squareMoves.take 7) 0).2.2.1
      (squareMoves.take 5) [.resumed 0] rfl rfl
  have gone := (marks_survive_interleaving square_created square_lasting squareMoves 0).2.2.2
    (fun earlier early => away earlier ((List.mem_inits _ _).2 early)) (by decide +kernel)
  exact ⟨square_created, ⟨kept, rfl⟩, ⟨new, sent, marks 0 rfl⟩, gone⟩

/-- A mark is set back by the end of an earlier delivery, is one of the old run after a reset, and stays when the
client has left. The client that is gone when it connects stays with a mark as well. -/
theorem square_marks_lost :
    create .empty squareSettings 2 = .ok square ∧
    (((Floor.of square).moveAll [.linked none, .connecting 0, .advancing, .advancing, .advancing, .resumed 1,
        .resumed 1]).station.marks.get? 0 = some 3 ∧
      ((Floor.of square).moveAll [.linked none, .connecting 0, .advancing, .advancing, .advancing, .resumed 1,
        .resumed 1, .resumed 0]).station.marks.get? 0 = some 2) ∧
    (((Floor.of square).moveAll [.linked none, .connecting 0, .advancing, .advancing, .resetting, .resumed 1,
        .resumed 0]).station.marks.get? 0 = some 2 ∧
      (((Floor.of square).moveAll [.linked none, .connecting 0, .advancing, .advancing]).announcesAll
        [.resetting, .resumed 1, .resumed 0]).map (·.round) = [0]) ∧
    (0 ∉ ((Floor.of square).moveAll [.linked none, .connecting 0, .advancing, .advancing, .disconnected 0,
        .resumed 0]).station.clients ∧
      ((Floor.of square).moveAll [.linked none, .connecting 0, .advancing, .advancing, .disconnected 0,
        .resumed 0]).station.marks.get? 0 = some 2) ∧
    ((square.obeyAll [.link (some 0), .advance, .advance]).connect 0).1 = .error .disconnected ∧
    (square.obeyAll [.link (some 0), .advance, .advance, .connect 0]).marks.get? 0 = some nothingSent :=
  ⟨square_created, ⟨rfl, rfl⟩, ⟨rfl, rfl⟩, ⟨by decide +kernel, rfl⟩, rfl, rfl⟩

end Vivarium.Station
