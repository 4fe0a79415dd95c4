import Vivarium.Proofs.Station.Waiting

/-!
# What a move does to one client

A move may serve many clients. Seen from one of them, it does one of a few things.

1. `Proper`: what is so of every floor. Clients are served once in an operation.
2. `Proper.share`: what becomes of one client when the floor stirs.
3. `Visited.mark_eq`: the visits after that leave its mark.
-/

namespace Vivarium.Station

open Colony

variable {s : Station} {c : Colony} {client : Nat} {f : Floor} {act : Move} {waiting : List Waiting}
  {clients : List Nat}

/-! ## What is so of every floor -/

/-- Clients are served once in an operation. -/
structure Proper (c : Colony) (f : Floor) : Prop where
  regular : Regular c f.station
  nodup : f.station.clients.Nodup
  once : ∀ k ∈ f.waiting, (k.client :: k.following).Nodup

theorem touch_serves (s : Station) (client : Nat) : Serves client s (s.touch client) :=
  marked_serves s client _

theorem Stir.regular (stir : Stir f act s waiting clients) (regular : Regular c f.station) :
    Regular c s := by
  cases stir with
  | finished | nothing | dropped => exact regular
  | linked capacity => exact regular.change (.linked capacity)
  | disconnected client => exact regular.change (.disconnected client)
  | acknowledged round => exact regular.change (.acknowledged round)
  | @connecting client => exact regular.serves (enrol_serves _ client)
  | connected client => exact (regular.serves (enrol_serves _ client)).serves (touch_serves _ client)
  | failed stepped => exact regular.failed stepped
  | played unfinished stepped => exact regular.played unfinished stepped
  | shown unfinished stepped =>
    refine (regular.played unfinished stepped).queuing fun p present => ?_
    have := (regular.within p present).2
    show p.round < ((f.station.round + 1 : Nat) : Int)
    omega
  | restarted => exact regular.restarted.2.2.queuing fun p none => absurd none List.not_mem_nil
  | sent _ passed => exact regular.serves (send_eq_some passed).1
  | @served _ k _ _ passed =>
    exact (regular.serves (send_eq_some passed).1).serves (marked_serves _ k.client _)
  | @forgotten _ k => exact regular.serves (disconnect_serves _ k.client)

theorem nodup_enrol (nodup : s.clients.Nodup) (client : Nat) : (s.enrol client).clients.Nodup := by
  rw [enrol]
  by_cases there : client ∈ s.clients
  · simpa [there] using nodup
  · simpa [there, List.nodup_append] using ⟨nodup, fun other present same => there (same ▸ present)⟩

theorem Stir.proper (stir : Stir f act s waiting clients) (proper : Proper c f) :
    Proper c ⟨s, waiting⟩ ∧ clients.Nodup := by
  have regular := stir.regular proper.regular
  have kept {index : Nat} {k : Waiting} (left : k ∈ f.waiting.eraseIdx index) :
      (k.client :: k.following).Nodup := proper.once k (List.mem_of_mem_eraseIdx left)
  have following {index : Nat} {k : Waiting} (listed : f.waiting[index]? = some k) : k.following.Nodup :=
    (List.nodup_cons.1 (proper.once k (List.mem_of_getElem? listed))).2
  cases stir with
  | finished | nothing | linked | acknowledged | failed | played =>
    exact ⟨⟨regular, proper.nodup, proper.once⟩, List.nodup_nil⟩
  | disconnected => exact ⟨⟨regular, proper.nodup.filter _, proper.once⟩, List.nodup_nil⟩
  | @connecting client k _ alone =>
    refine ⟨⟨regular, nodup_enrol proper.nodup client, fun l listed => ?_⟩, List.nodup_nil⟩
    rcases List.mem_append.1 listed with old | new
    · exact proper.once l old
    · rw [List.mem_singleton.1 new, alone]
      exact List.nodup_singleton _
  | connected client => exact ⟨⟨regular, nodup_enrol proper.nodup client, proper.once⟩, List.nodup_nil⟩
  | shown | restarted => exact ⟨⟨regular, proper.nodup, proper.once⟩, proper.nodup⟩
  | @sent index k p later t listed passed =>
    refine ⟨⟨regular, (send_eq_some passed).2.1 ▸ proper.nodup, fun l left => ?_⟩, List.nodup_nil⟩
    rcases List.mem_append.1 left with old | new
    · exact kept old
    · rw [List.mem_singleton.1 new]
      exact proper.once k (List.mem_of_getElem? listed)
  | served listed passed =>
    exact ⟨⟨regular, (send_eq_some passed).2.1 ▸ proper.nodup, fun _ => kept⟩, following listed⟩
  | dropped => exact ⟨⟨regular, proper.nodup, fun _ => kept⟩, List.nodup_nil⟩
  | forgotten listed => exact ⟨⟨regular, proper.nodup.filter _, fun _ => kept⟩, following listed⟩

theorem Visited.proper {result : Station × Option Waiting} (visited : Visited clients s result)
    (proper : Proper c ⟨s, waiting⟩) (nodup : clients.Nodup) : Proper c (Floor.joined waiting result) := by
  refine ⟨?_, ?_, fun k listed => ?_⟩
  · show Regular c result.1
    rw [visited.rest]
    exact proper.regular.steady ⟨rfl, rfl⟩ ⟨proper.regular.ascending, proper.regular.within⟩
  · show result.1.clients.Nodup
    rw [visited.rest]
    exact proper.nodup
  · rcases List.mem_append.1 listed with old | new
    · exact proper.once k old
    · exact nodup.sublist (visited.waits k (Option.mem_toList.1 new)).2.sublist

/-- A move is a stir of the floor, and then clients are visited. -/
theorem Proper.exists_stir (proper : Proper c f) (act : Move) :
    ∃ s waiting clients, Stir f act s waiting clients ∧ Proper c ⟨s, waiting⟩ ∧ clients.Nodup ∧
      Visited clients s (visit s clients) ∧ f.move act = Floor.joined waiting (visit s clients) := by
  obtain ⟨s, waiting, clients, stir, moved⟩ := Station.exists_stir f act proper.regular.restarted.1
  obtain ⟨proper', nodup⟩ := stir.proper proper
  exact ⟨s, waiting, clients, stir, proper', nodup, visit_visited clients s, moved⟩

theorem Proper.move (proper : Proper c f) (act : Move) : Proper c (f.move act) := by
  obtain ⟨s, waiting, clients, -, proper', nodup, visited, moved⟩ := proper.exists_stir act
  exact moved ▸ visited.proper proper' nodup

theorem Proper.moveAll (proper : Proper c f) (moves : List Move) : Proper c (f.moveAll moves) := by
  induction moves generalizing f with
  | nil => exact proper
  | cons act rest ih => exact ih (proper.move act)

/-! ## One client -/

/-- What becomes of one client when the floor stirs. -/
inductive Share (client : Nat) (f : Floor) (act : Move) (s : Station) (waiting : List Waiting)
    (clients : List Nat) : Prop
  | kept (sent : s.sentTo client = f.station.sentTo client)
      (mark : s.marks.get? client = f.station.marks.get? client)
      (present : client ∈ s.clients ↔ client ∈ f.station.clients)
      (old : ∀ k ∈ waiting, k.client = client → k ∈ f.waiting)
      (visits : client ∈ clients → client ∈ f.station.clients ∨ ∃ k ∈ f.waiting, client ∈ k.following)
  | joined (connects : act = .connecting client) (sent : s.sentTo client = f.station.sentTo client)
      (mark : s.marks.get? client = some nothingSent) (present : client ∈ s.clients)
      (pending : ∀ k ∈ waiting, k.client = client → k ∈ f.waiting ∨ k.pending = s.backlog client)
  | gone (sent : s.sentTo client = f.station.sentTo client) (mark : s.marks.get? client = none)
      (absent : client ∉ s.clients) (old : ∀ k ∈ waiting, k.client = client → k ∈ f.waiting)
      (unvisited : client ∉ clients)
  | rewound (resets : act = .resetting) (sent : s.sentTo client = f.station.sentTo client)
      (mark : s.marks.get? client = (f.station.marks.get? client).map fun _ => nothingSent)
      (present : s.clients = f.station.clients) (old : waiting = f.waiting) (visits : clients = s.clients)
  | sent {k : Waiting} (listed : k ∈ f.waiting) (whose : k.client = client)
      (sent : s.sentTo client = f.station.sentTo client ++ [k.next])
      (mark : s.marks.get? client = f.station.marks.get? client) (present : s.clients = f.station.clients)
      (pending : ∀ l ∈ waiting, l.client = client → l ∈ f.waiting ∨ l.pending = k.later)
      (unvisited : clients = [])
  | served {k : Waiting} {index : Nat} (listed : f.waiting[index]? = some k) (whose : k.client = client)
      (sent : s.sentTo client = f.station.sentTo client ++ [k.next])
      (mark : s.marks.get? client = some k.next.round) (present : s.clients = f.station.clients)
      (left : waiting = f.waiting.eraseIdx index) (unvisited : client ∉ clients)

theorem Share.of_serves {other : Nat} (serves : Serves other f.station s) (apart : client ≠ other)
    (old : ∀ k ∈ waiting, k.client = client → k ∈ f.waiting)
    (visits : client ∈ clients → client ∈ f.station.clients ∨ ∃ k ∈ f.waiting, client ∈ k.following) :
    Share client f act s waiting clients :=
  .kept (serves.sentTo_eq apart) (serves.marks client apart) (serves.clients client apart) old visits

theorem Proper.share (proper : Proper c f) (stir : Stir f act s waiting clients) (client : Nat) :
    Share client f act s waiting clients := by
  have kept {index : Nat} (k : Waiting) (left : k ∈ f.waiting.eraseIdx index) (_ : k.client = client) :
      k ∈ f.waiting := List.mem_of_mem_eraseIdx left
  have follows {index : Nat} {k : Waiting} (listed : f.waiting[index]? = some k)
      (visited : client ∈ k.following) :
      client ∈ f.station.clients ∨ ∃ k ∈ f.waiting, client ∈ k.following :=
    .inr ⟨k, List.mem_of_getElem? listed, visited⟩
  have nobody (listed : client ∈ ([] : List Nat)) :
      client ∈ f.station.clients ∨ ∃ k ∈ f.waiting, client ∈ k.following :=
    absurd listed List.not_mem_nil
  -- An operation that serves the client now does not serve it again.
  have once {index : Nat} {k : Waiting} (listed : f.waiting[index]? = some k) (whose : client = k.client) :
      client ∉ k.following := by
    rw [whose]
    exact (List.nodup_cons.1 (proper.once k (List.mem_of_getElem? listed))).1
  cases stir with
  | finished | nothing | acknowledged | failed | played =>
    exact .kept rfl rfl Iff.rfl (fun _ old _ => old) nobody
  | linked capacity =>
    exact .kept (sentTo_addLink _ capacity client) rfl Iff.rfl (fun _ old _ => old) nobody
  | dropped => exact .kept rfl rfl Iff.rfl kept nobody
  | shown => exact .kept rfl rfl Iff.rfl (fun _ old _ => old) .inl
  | restarted =>
    exact .rewound rfl rfl (Table.get?_mapValues _ _ _) rfl rfl rfl
  | disconnected other =>
    by_cases same : client = other
    · subst same
      exact .gone rfl (Table.get?_erase_self _ _) (by simp [disconnect]) (fun _ old _ => old) List.not_mem_nil
    · exact .of_serves (disconnect_serves _ other) same (fun _ old _ => old) nobody
  | @connecting other k whose _ pending =>
    by_cases same : client = other
    · subst same
      refine .joined rfl rfl (Table.get?_insert_self _ _ _) (mem_clients_enrol _ client) fun l listed _ => ?_
      rcases List.mem_append.1 listed with old | new
      · exact .inl old
      · rw [List.mem_singleton.1 new]
        exact .inr pending
    · refine .of_serves (enrol_serves _ other) same (fun l listed mine => ?_) nobody
      rcases List.mem_append.1 listed with old | new
      · exact old
      · rw [List.mem_singleton.1 new, whose] at mine
        exact absurd mine.symm same
  | connected other =>
    by_cases same : client = other
    · subst same
      refine .joined rfl rfl ?_ (mem_clients_enrol _ client) fun l listed _ => .inl listed
      have enrolled : (f.station.enrol client).marks.get? client = some nothingSent :=
        Table.get?_insert_self _ _ _
      rw [touch, enrolled]
      exact Table.get?_insert_self _ _ _
    · exact .of_serves ((enrol_serves _ other).trans (touch_serves _ other)) same (fun _ old _ => old) nobody
  | @sent index k p later t listed passed more =>
    obtain ⟨serves, same, marks, shown⟩ := send_eq_some passed
    have mine := List.mem_of_getElem? listed
    by_cases whose : client = k.client
    · subst whose
      refine .sent mine rfl shown (by rw [marks]) same (fun l left _ => ?_) rfl
      rcases List.mem_append.1 left with old | new
      · exact .inl (List.mem_of_mem_eraseIdx old)
      · rw [List.mem_singleton.1 new, more]
        exact .inr rfl
    · refine .of_serves serves whose (fun l left owned => ?_) nobody
      rcases List.mem_append.1 left with old | new
      · exact List.mem_of_mem_eraseIdx old
      · rw [List.mem_singleton.1 new] at owned
        exact absurd owned.symm whose
  | @served index k t listed passed last =>
    obtain ⟨serves, same, marks, shown⟩ := send_eq_some passed
    by_cases whose : client = k.client
    · subst whose
      exact .served listed rfl shown (Table.get?_insert_self _ _ _) same rfl (once listed rfl)
    · exact .of_serves (serves.trans (marked_serves _ k.client _)) whose kept (follows listed)
  | @forgotten index k listed =>
    by_cases whose : client = k.client
    · subst whose
      exact .gone rfl (Table.get?_erase_self _ _) (by simp [disconnect]) kept (once listed rfl)
    · exact .of_serves (disconnect_serves _ k.client) whose kept (follows listed)

theorem Visited.queue_eq {result : Station × Option Waiting} (visited : Visited clients s result) :
    result.1.queue = s.queue := by
  rw [visited.rest]

/-- The mark of a client after clients were visited, if it had one or was not visited. -/
theorem Visited.mark_eq {result : Station × Option Waiting} (visited : Visited clients s result)
    (settled : client ∈ clients → s.marks.get? client ≠ none) :
    result.1.marks.get? client = s.marks.get? client := by
  rcases visited.marks client with kept | ⟨listed, unmarked, -⟩
  · exact kept
  · exact absurd unmarked (settled listed)

end Vivarium.Station
