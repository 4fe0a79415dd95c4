import Vivarium.Proofs.Station.Game

/-!
# What deliveries do

A delivery writes to the link and to the mark of its client, and to nothing else. A broadcast makes one
for each client, so what it does to a client can be seen without the others.

1. `Serves`: what is left alone when a client is served.
2. `finish_ok` and `deliver_cases`: a delivery sends all that it has, in order, and marks the last
   picture; or the client is gone.
3. `Abreast`: a client that was sent everything in the queue. `connect_abreast` makes clients such, and
   `broadcast_abreast` keeps them so and sends them one picture more.
-/

namespace Vivarium.Station

variable {s t u : Station} {client other : Nat}

/-! ## What clients were sent -/

def sentTo (s : Station) (client : Nat) : List Picture :=
  ((s.links[client]?).map fun link => link.sent.toList).getD []

/-- The mark of a client that had a mark and was then sent pictures. -/
def markAfter (mark : Int) : List Picture → Int
  | [] => mark
  | p :: rest => markAfter p.round rest

/-- The pictures are in the order of their rounds, and there is one of each round at most. -/
def Ascending (pictures : List Picture) : Prop := pictures.Pairwise fun p q => p.round < q.round

theorem markAfter_le {mark bound : Int} {pictures : List Picture} (start : mark ≤ bound)
    (all : ∀ p ∈ pictures, p.round ≤ bound) : markAfter mark pictures ≤ bound := by
  induction pictures generalizing mark with
  | nil => exact start
  | cons p rest ih =>
    exact ih (all p List.mem_cons_self) fun q later => all q (List.mem_cons_of_mem p later)

/-- Pictures in order are all marked by the last one. -/
theorem le_markAfter {mark : Int} {pictures : List Picture} (ascending : Ascending pictures)
    (after : ∀ p ∈ pictures, mark < p.round) :
    mark ≤ markAfter mark pictures ∧ ∀ p ∈ pictures, p.round ≤ markAfter mark pictures := by
  induction pictures generalizing mark with
  | nil => exact ⟨Int.le_refl mark, fun p none => absurd none List.not_mem_nil⟩
  | cons p rest ih =>
    obtain ⟨first, ascending⟩ := List.pairwise_cons.1 ascending
    obtain ⟨least, marked⟩ := ih ascending first
    have above := after p List.mem_cons_self
    rw [markAfter]
    refine ⟨by omega, fun q present => ?_⟩
    rcases List.mem_cons.1 present with rfl | later
    · exact least
    · exact marked q later

/-! ## Serving one client -/

/-- A change that serves a client. Its link and its mark may change, and it may come or go. -/
structure Serves (client : Nat) (s t : Station) : Prop extends Steady s t where
  interval : t.interval = s.interval
  queue : t.queue = s.queue
  clients : ∀ other, other ≠ client → (other ∈ t.clients ↔ other ∈ s.clients)
  marks : ∀ other, other ≠ client → t.marks.get? other = s.marks.get? other
  links : ∀ other, other ≠ client → t.links[other]? = s.links[other]?

namespace Serves

theorem refl (client : Nat) (s : Station) : Serves client s s :=
  ⟨⟨rfl, rfl⟩, rfl, rfl, fun _ _ => Iff.rfl, fun _ _ => rfl, fun _ _ => rfl⟩

theorem trans (first : Serves client s t) (second : Serves client t u) : Serves client s u where
  toSteady := first.toSteady.trans second.toSteady
  interval := second.interval.trans first.interval
  queue := second.queue.trans first.queue
  clients other apart := (second.clients other apart).trans (first.clients other apart)
  marks other apart := (second.marks other apart).trans (first.marks other apart)
  links other apart := (second.links other apart).trans (first.links other apart)

theorem sentTo_eq (serves : Serves client s t) (apart : other ≠ client) :
    t.sentTo other = s.sentTo other := by
  rw [sentTo, sentTo, serves.links other apart]

end Serves

theorem marked_serves (s : Station) (client : Nat) (mark : Int) :
    Serves client s { s with marks := s.marks.insert client mark } :=
  ⟨⟨rfl, rfl⟩, rfl, rfl, fun _ _ => Iff.rfl,
    fun _ apart => Table.get?_insert_of_ne s.marks mark apart, fun _ _ => rfl⟩

theorem disconnect_serves (s : Station) (client : Nat) : Serves client s (s.disconnect client) where
  toSteady := ⟨rfl, rfl⟩
  interval := rfl
  queue := rfl
  clients other apart := by simp [disconnect, apart]
  marks other apart := Table.get?_erase_of_ne s.marks apart
  links _ _ := rfl

theorem enrol_serves (s : Station) (client : Nat) : Serves client s (s.enrol client) where
  toSteady := ⟨rfl, rfl⟩
  interval := rfl
  queue := rfl
  clients other apart := by
    rw [enrol]
    by_cases there : client ∈ s.clients <;> simp [there, apart]
  marks other apart := Table.get?_insert_of_ne s.marks nothingSent apart
  links _ _ := rfl

/-- A picture that is sent comes last among those that the client was sent. -/
theorem send_eq_some {p : Picture} (sent : s.send client p = some t) :
    Serves client s t ∧ t.clients = s.clients ∧ t.marks = s.marks ∧
      t.sentTo client = s.sentTo client ++ [p] := by
  rw [send] at sent
  split at sent
  · next link here =>
    split at sent
    · cases sent
    · cases sent
      obtain ⟨inside, -⟩ := Array.getElem?_eq_some_iff.1 here
      refine ⟨⟨⟨rfl, rfl⟩, rfl, rfl, fun _ _ => Iff.rfl, fun _ _ => rfl, fun other apart => ?_⟩, rfl,
        rfl, ?_⟩
      · exact Array.getElem?_setIfInBounds_ne (Ne.symm apart)
      · have found : s.links[client] = link := (Array.getElem?_eq_some_iff.1 here).2
        simp [sentTo, inside, found]
  · cases sent

/-! ## One delivery -/

theorem finish_serves (client : Nat) (s : Station) (mark : Int) (pictures : List Picture) :
    Serves client s (Delivery.finish client s mark pictures).2 := by
  induction pictures generalizing s mark with
  | nil => exact marked_serves s client mark
  | cons p rest ih =>
    rw [Delivery.finish]
    split
    · next after sent => exact (send_eq_some sent).1.trans (ih after p.round)
    · exact .refl client s

/-- A delivery that is finished has sent all its pictures and marked the last one. -/
theorem finish_ok {mark : Int} {pictures : List Picture}
    (finished : Delivery.finish client s mark pictures = (true, t)) :
    t.clients = s.clients ∧ t.sentTo client = s.sentTo client ++ pictures ∧
      t.marks.get? client = some (markAfter mark pictures) := by
  induction pictures generalizing s mark with
  | nil =>
    cases finished
    exact ⟨rfl, (List.append_nil _).symm, Table.get?_insert_self _ _ _⟩
  | cons p rest ih =>
    rw [Delivery.finish] at finished
    split at finished
    · next after sent =>
      obtain ⟨-, clients, -, shown⟩ := send_eq_some sent
      obtain ⟨clients', shown', marked⟩ := ih finished
      exact ⟨clients'.trans clients, by rw [shown', shown, List.append_assoc]; rfl, marked⟩
    · cases finished

/-- A delivery to a client that is gone has sent some of its pictures and marked none. -/
theorem finish_failed {mark : Int} {pictures : List Picture}
    (finished : Delivery.finish client s mark pictures = (false, t)) :
    t.clients = s.clients ∧ t.marks = s.marks ∧
      ∃ sent, sent <+: pictures ∧ t.sentTo client = s.sentTo client ++ sent := by
  induction pictures generalizing s mark with
  | nil => cases finished
  | cons p rest ih =>
    rw [Delivery.finish] at finished
    split at finished
    · next after sent =>
      obtain ⟨-, clients, marks, shown⟩ := send_eq_some sent
      obtain ⟨clients', marks', more, early, shown'⟩ := ih finished
      refine ⟨clients'.trans clients, marks'.trans marks, p :: more,
        (List.prefix_cons_inj p).2 early, ?_⟩
      rw [shown', shown, List.append_assoc]
      rfl
    · cases finished
      exact ⟨rfl, rfl, [], List.nil_prefix, (List.append_nil _).symm⟩

/-- What a client has not been sent, as its mark tells. -/
def backlog (s : Station) (client : Nat) : List Picture := (Delivery.start s client).pending

theorem backlog_subset (s : Station) (client : Nat) : ∀ p ∈ s.backlog client, p ∈ s.queue :=
  fun _ pending => (List.mem_filter.1 pending).1

theorem backlog_eq {mark : Int} (marked : s.marks.get? client = some mark) :
    s.backlog client = s.queue.filter fun p => mark < p.round := by
  rw [backlog, Delivery.start, marked]
  rfl

theorem deliver_serves (s : Station) (client : Nat) : Serves client s (s.deliver client) := by
  have ran : Serves client s ((Delivery.start s client).run s).2 := finish_serves client s _ _
  rw [deliver]
  generalize (Delivery.start s client).run s = result at ran
  obtain ⟨present, after⟩ := result
  cases present with
  | true => exact ran
  | false => exact ran.trans (disconnect_serves after client)

/-- A delivery of what a client has not been sent either sends and marks all of it, or the client is
found to be gone and forgotten. -/
theorem deliver_cases (s : Station) (client : Nat) :
    ((s.deliver client).clients = s.clients ∧
      (s.deliver client).sentTo client = s.sentTo client ++ s.backlog client ∧
      (s.deliver client).marks.get? client =
        some (markAfter ((s.marks.get? client).getD nothingSent) (s.backlog client))) ∨
    (client ∉ (s.deliver client).clients ∧ (s.deliver client).clients ⊆ s.clients ∧
      (s.deliver client).marks.get? client = none ∧
      ∃ sent, sent <+: s.backlog client ∧
        (s.deliver client).sentTo client = s.sentTo client ++ sent) := by
  rw [deliver]
  cases ran : (Delivery.start s client).run s with
  | mk present after =>
    cases present with
    | true => exact .inl (finish_ok ran)
    | false =>
      obtain ⟨clients, -, taken⟩ := finish_failed ran
      refine .inr ⟨by simp [disconnect], fun other present => ?_, Table.get?_erase_self _ _, taken⟩
      exact clients ▸ (List.mem_filter.1 present).1

theorem clients_deliver_subset (s : Station) (client : Nat) :
    (s.deliver client).clients ⊆ s.clients := by
  rcases deliver_cases s client with ⟨clients, -⟩ | ⟨-, fewer, -⟩
  · rw [clients]
    exact List.Subset.refl _
  · exact fewer

theorem clients_foldl_subset (clients : List Nat) (s : Station) :
    (clients.foldl deliver s).clients ⊆ s.clients := by
  induction clients generalizing s with
  | nil => exact List.Subset.refl _
  | cons first rest ih => exact List.Subset.trans (ih _) (clients_deliver_subset s first)

/-! ## Clients that are never gone -/

/-- The client has a link that takes all pictures. -/
def Takes (s : Station) (client : Nat) : Prop :=
  ∃ link, s.links[client]? = some link ∧ link.capacity = none

theorem Serves.takes (serves : Serves other s t) (apart : client ≠ other) (takes : s.Takes client) :
    t.Takes client := by
  unfold Takes
  rwa [serves.links client apart]

theorem exists_sent (takes : s.Takes client) (p : Picture) :
    ∃ t, s.send client p = some t ∧ t.Takes client := by
  obtain ⟨link, here, unbounded⟩ := takes
  obtain ⟨inside, -⟩ := Array.getElem?_eq_some_iff.1 here
  rw [send, here]
  simp [Takes, Link.isGone, unbounded, inside]

theorem finish_takes (takes : s.Takes client) (mark : Int) (pictures : List Picture) :
    (Delivery.finish client s mark pictures).1 = true ∧
      (Delivery.finish client s mark pictures).2.Takes client := by
  induction pictures generalizing s mark with
  | nil => exact ⟨rfl, takes⟩
  | cons p rest ih =>
    obtain ⟨after, sent, takes'⟩ := exists_sent takes p
    simpa [Delivery.finish, sent] using ih takes' p.round

theorem run_takes (d : Delivery) (takes : s.Takes d.client) :
    (d.run s).1 = true ∧ (d.run s).2.Takes d.client :=
  finish_takes takes d.mark d.pending

theorem deliver_takes (takes : s.Takes client) (other : Nat) :
    (s.deliver other).Takes client ∧ (client ∈ s.clients → client ∈ (s.deliver other).clients) := by
  by_cases same : client = other
  · subst same
    obtain ⟨finished, takes'⟩ := run_takes (.start s client) takes
    rcases ran : (Delivery.start s client).run s with ⟨present, after⟩
    rw [ran] at finished takes'
    subst finished
    rw [deliver, ran]
    exact ⟨takes', fun connected => (finish_ok ran).1 ▸ connected⟩
  · have serves := deliver_serves s other
    exact ⟨serves.takes same takes, (serves.clients client same).2⟩

/-! ## Clients that were sent everything -/

/-- A connected client that was sent every picture of the queue, and whose mark says so. -/
structure Abreast (s : Station) (client : Nat) : Prop where
  connected : client ∈ s.clients
  marked : ∃ mark, s.marks.get? client = some mark ∧ mark ≤ s.round ∧ ∀ p ∈ s.queue, p.round ≤ mark
  shown : ∀ p ∈ s.queue, p ∈ s.sentTo client

namespace Abreast

theorem serves (abreast : Abreast s client) (serves : Serves other s t) (apart : client ≠ other) :
    Abreast t client where
  connected := (serves.clients client apart).2 abreast.connected
  marked := by
    rw [serves.marks client apart, serves.queue, serves.round]
    exact abreast.marked
  shown := by
    rw [serves.queue, serves.sentTo_eq apart]
    exact abreast.shown

theorem backlog_eq_nil (abreast : Abreast s client) : s.backlog client = [] := by
  obtain ⟨mark, marked, -, all⟩ := abreast.marked
  rw [backlog_eq marked, List.filter_eq_nil_iff]
  exact fun p queued => by simpa using all p queued

/-- There is nothing to deliver to it. -/
theorem deliver (abreast : Abreast s client) (other : Nat)
    (stays : client ∈ (s.deliver other).clients) :
    Abreast (s.deliver other) client ∧ (s.deliver other).sentTo client = s.sentTo client := by
  by_cases same : client = other
  · subst same
    rcases deliver_cases s client with ⟨clients, shown, marked⟩ | ⟨gone, -⟩
    · have serves := deliver_serves s client
      obtain ⟨mark, was, below, all⟩ := abreast.marked
      rw [abreast.backlog_eq_nil, List.append_nil] at shown
      rw [abreast.backlog_eq_nil, markAfter, was, Option.getD_some] at marked
      refine ⟨⟨stays, ⟨mark, marked, ?_, ?_⟩, ?_⟩, shown⟩
      · rw [serves.round]
        exact below
      · rw [serves.queue]
        exact all
      · rw [serves.queue, shown]
        exact abreast.shown
    · exact absurd stays gone
  · have serves := deliver_serves s other
    exact ⟨abreast.serves serves same, serves.sentTo_eq same⟩

theorem foldl_deliver (abreast : Abreast s client) (clients : List Nat)
    (stays : client ∈ (clients.foldl Station.deliver s).clients) :
    Abreast (clients.foldl Station.deliver s) client ∧
      (clients.foldl Station.deliver s).sentTo client = s.sentTo client := by
  induction clients generalizing s with
  | nil => exact ⟨abreast, rfl⟩
  | cons first rest ih =>
    obtain ⟨next, shown⟩ := abreast.deliver first (clients_foldl_subset rest _ stays)
    obtain ⟨last, shown'⟩ := ih next stays
    exact ⟨last, shown'.trans shown⟩

end Abreast

/-! ## A connection -/

theorem mem_clients_enrol (s : Station) (client : Nat) : client ∈ (s.enrol client).clients := by
  rw [enrol]
  by_cases there : client ∈ s.clients <;> simp [there]

theorem connect_serves (s : Station) (client : Nat) : Serves client s (s.connect client).2 := by
  have ran : Serves client s ((Delivery.start (s.enrol client) client).run (s.enrol client)).2 :=
    (enrol_serves s client).trans (finish_serves client (s.enrol client) _ _)
  rw [connect]
  generalize (Delivery.start (s.enrol client) client).run (s.enrol client) = result at ran
  obtain ⟨present, after⟩ := result
  cases present <;> exact ran

/-- A client that connects is taken in. It is sent the queue, or is found to be gone and stays. -/
theorem connect_cases (s : Station) (client : Nat) :
    client ∈ (s.connect client).2.clients ∧
    (((s.connect client).1 = .ok () ∧
      (s.connect client).2.sentTo client = s.sentTo client ++ (s.enrol client).backlog client ∧
      (s.connect client).2.marks.get? client =
        some (markAfter nothingSent ((s.enrol client).backlog client))) ∨
    ((s.connect client).1 = .error .disconnected ∧
      (s.connect client).2.marks.get? client = some nothingSent ∧
      ∃ sent, sent <+: (s.enrol client).backlog client ∧
        (s.connect client).2.sentTo client = s.sentTo client ++ sent)) := by
  have mark : (s.enrol client).marks.get? client = some nothingSent := Table.get?_insert_self _ _ _
  have start : (Delivery.start (s.enrol client) client).mark = nothingSent := by
    rw [Delivery.start, mark, Option.getD_some]
  rw [connect]
  cases ran : (Delivery.start (s.enrol client) client).run (s.enrol client) with
  | mk present after =>
    cases present with
    | true =>
      obtain ⟨clients, shown, marked⟩ := finish_ok ran
      rw [start] at marked
      exact ⟨clients ▸ mem_clients_enrol s client, .inl ⟨rfl, shown, marked⟩⟩
    | false =>
      obtain ⟨clients, marks, taken⟩ := finish_failed ran
      exact ⟨clients ▸ mem_clients_enrol s client, .inr ⟨rfl, by rw [← mark, ← marks], taken⟩⟩

theorem connect_takes (takes : s.Takes client) :
    (s.connect client).1 = .ok () ∧ (s.connect client).2.Takes client := by
  have enrolled : (s.enrol client).Takes client := takes
  obtain ⟨finished, takes'⟩ := run_takes (.start (s.enrol client) client) enrolled
  rw [connect]
  generalize (Delivery.start (s.enrol client) client).run (s.enrol client) = result at finished takes'
  obtain ⟨present, after⟩ := result
  subst finished
  exact ⟨rfl, takes'⟩

/-- The queue holds pictures of rounds up to the present one, in order. -/
structure Queued (s : Station) : Prop where
  ascending : Ascending s.queue
  within : ∀ p ∈ s.queue, 0 ≤ p.round ∧ p.round ≤ s.round

theorem Queued.of_same (queued : Queued s) (queue : t.queue = s.queue) (round : t.round = s.round) :
    Queued t :=
  ⟨queue ▸ queued.ascending, by rw [queue, round]; exact queued.within⟩

theorem backlog_enrol (queued : Queued s) : (s.enrol client).backlog client = s.queue := by
  rw [backlog_eq (Table.get?_insert_self _ _ _)]
  refine List.filter_eq_self.2 fun p present => decide_eq_true ?_
  have nonneg := (queued.within p present).1
  rw [nothingSent]
  omega

/-- A client that connects is sent what is in the queue. -/
theorem connect_abreast (queued : Queued s) (connected : (s.connect client).1 = .ok ()) :
    Abreast (s.connect client).2 client ∧
      (s.connect client).2.sentTo client = s.sentTo client ++ s.queue := by
  have serves := connect_serves s client
  obtain ⟨present, ⟨-, shown, marked⟩ | ⟨failed, -⟩⟩ := connect_cases s client
  · rw [backlog_enrol queued] at shown marked
    have early : ∀ p ∈ s.queue, nothingSent < p.round := fun p present => by
      have nonneg := (queued.within p present).1
      rw [nothingSent]
      omega
    refine ⟨⟨present, ⟨_, marked, ?_, ?_⟩, ?_⟩, shown⟩
    · rw [serves.round]
      refine markAfter_le ?_ fun p present => (queued.within p present).2
      rw [nothingSent]
      omega
    · rw [serves.queue]
      exact (le_markAfter queued.ascending early).2
    · rw [serves.queue, shown]
      exact fun p present => List.mem_append_right _ present
  · rw [connected] at failed
    cases failed

/-! ## A broadcast -/

def queuing (s : Station) : Station := { s with queue := s.queue ++ [s.picture] }

/-- A broadcast leaves alone what no delivery changes, and puts the picture into the queue. -/
theorem broadcast_frame (s : Station) :
    Steady s s.broadcast ∧ s.broadcast.interval = s.interval ∧
      s.broadcast.queue = s.queue ++ [s.picture] ∧ s.broadcast.clients ⊆ s.clients := by
  have fold (clients : List Nat) (t : Station) :
      (clients.foldl deliver t).interval = t.interval ∧
        (clients.foldl deliver t).queue = t.queue := by
    induction clients generalizing t with
    | nil => exact ⟨rfl, rfl⟩
    | cons first rest ih =>
      have serves := deliver_serves t first
      exact ⟨(ih _).1.trans serves.interval, (ih _).2.trans serves.queue⟩
  obtain ⟨interval, queue⟩ := fold s.clients s.queuing
  exact ⟨broadcast_steady s, interval, queue, clients_foldl_subset s.clients s.queuing⟩

/-- A client that was sent everything but the last picture of the queue. -/
structure Behind (s : Station) (client : Nat) (old : List Picture) (last : Picture) : Prop where
  connected : client ∈ s.clients
  queue : s.queue = old ++ [last]
  marked : ∃ mark, s.marks.get? client = some mark ∧ mark < last.round ∧ ∀ p ∈ old, p.round ≤ mark
  present : last.round = s.round
  shown : ∀ p ∈ old, p ∈ s.sentTo client

namespace Behind

variable {old : List Picture} {last : Picture}

theorem serves (behind : Behind s client old last) (serves : Serves other s t)
    (apart : client ≠ other) : Behind t client old last where
  connected := (serves.clients client apart).2 behind.connected
  queue := serves.queue.trans behind.queue
  marked := by
    rw [serves.marks client apart]
    exact behind.marked
  present := behind.present.trans (serves.round ▸ rfl)
  shown := by
    rw [serves.sentTo_eq apart]
    exact behind.shown

/-- It is sent the last picture. -/
theorem deliver (behind : Behind s client old last) (stays : client ∈ (s.deliver client).clients) :
    Abreast (s.deliver client) client ∧
      (s.deliver client).sentTo client = s.sentTo client ++ [last] := by
  obtain ⟨mark, was, before, all⟩ := behind.marked
  have pending : s.backlog client = [last] := by
    have sent : old.filter (fun p => mark < p.round) = [] :=
      List.filter_eq_nil_iff.2 fun p early => by simpa using all p early
    rw [backlog_eq was, behind.queue, List.filter_append, sent]
    simp [before]
  rcases deliver_cases s client with ⟨-, shown, marked⟩ | ⟨gone, -⟩
  · have serves := deliver_serves s client
    rw [pending] at shown marked
    have marked : (s.deliver client).marks.get? client = some last.round := marked
    refine ⟨⟨stays, ⟨_, marked, ?_, ?_⟩, ?_⟩, shown⟩
    · rw [serves.round, behind.present]
    · rw [serves.queue, behind.queue]
      intro p present
      rcases List.mem_append.1 present with early | late
      · have := all p early
        omega
      · rw [List.mem_singleton.1 late]
    · rw [serves.queue, behind.queue, shown]
      intro p present
      rcases List.mem_append.1 present with early | late
      · exact List.mem_append_left _ (behind.shown p early)
      · exact List.mem_append_right _ late
  · exact absurd stays gone

/-- Of the deliveries of a broadcast its own comes at some point, and the others pass it by. -/
theorem foldl_deliver (behind : Behind s client old last) {clients : List Nat}
    (listed : client ∈ clients) (stays : client ∈ (clients.foldl Station.deliver s).clients) :
    Abreast (clients.foldl Station.deliver s) client ∧
      (clients.foldl Station.deliver s).sentTo client = s.sentTo client ++ [last] := by
  induction clients generalizing s with
  | nil => exact absurd listed List.not_mem_nil
  | cons first rest ih =>
    by_cases same : client = first
    · subst same
      obtain ⟨abreast, shown⟩ := behind.deliver (clients_foldl_subset rest _ stays)
      obtain ⟨abreast', shown'⟩ := abreast.foldl_deliver rest stays
      exact ⟨abreast', shown'.trans shown⟩
    · have serves := deliver_serves s first
      have listed := (List.mem_cons.1 listed).resolve_left same
      obtain ⟨abreast, shown⟩ := ih (behind.serves serves same) listed stays
      exact ⟨abreast, shown.trans (by rw [serves.sentTo_eq same])⟩

end Behind

/-- A broadcast sends its picture to each client that was sent everything before and is not gone. -/
theorem broadcast_abreast (connected : client ∈ s.clients) {mark : Int}
    (marked : s.marks.get? client = some mark) (before : mark < s.round)
    (all : ∀ p ∈ s.queue, p.round ≤ mark) (shown : ∀ p ∈ s.queue, p ∈ s.sentTo client)
    (stays : client ∈ s.broadcast.clients) :
    Abreast s.broadcast client ∧ s.broadcast.sentTo client = s.sentTo client ++ [s.picture] := by
  have behind : Behind s.queuing client s.queue s.picture :=
    ⟨connected, rfl, ⟨mark, marked, before, all⟩, rfl, shown⟩
  exact behind.foldl_deliver connected stays

theorem broadcast_takes (takes : s.Takes client) :
    s.broadcast.Takes client ∧ (client ∈ s.clients → client ∈ s.broadcast.clients) := by
  suffices fold : ∀ (clients : List Nat) (t : Station), t.Takes client →
      (clients.foldl deliver t).Takes client ∧
        (client ∈ t.clients → client ∈ (clients.foldl deliver t).clients) from
    fold s.clients s.queuing takes
  intro clients
  induction clients with
  | nil => exact fun t takes => ⟨takes, id⟩
  | cons first rest ih =>
    intro t takes
    obtain ⟨takes', stays⟩ := deliver_takes takes first
    obtain ⟨takes'', stays'⟩ := ih _ takes'
    exact ⟨takes'', stays' ∘ stays⟩

/-- Who is not connected is sent nothing. -/
theorem sentTo_broadcast (absent : client ∉ s.clients) :
    s.broadcast.sentTo client = s.sentTo client := by
  suffices fold : ∀ (clients : List Nat) (t : Station), client ∉ clients →
      (clients.foldl deliver t).sentTo client = t.sentTo client from
    fold s.clients s.queuing absent
  intro clients
  induction clients with
  | nil => exact fun t _ => rfl
  | cons first rest ih =>
    intro t absent
    rw [List.mem_cons, not_or] at absent
    exact (ih _ absent.2).trans ((deliver_serves t first).sentTo_eq absent.1)

/-! ## Where the pictures come from -/

/-- Whatever a client was sent in a broadcast was in the queue or is the picture of the broadcast. -/
theorem mem_sentTo_broadcast {p : Picture} (sent : p ∈ s.broadcast.sentTo client) :
    p ∈ s.sentTo client ∨ p ∈ s.queue ∨ p = s.picture := by
  suffices fold : ∀ (clients : List Nat) (t : Station), p ∈ (clients.foldl deliver t).sentTo client →
      p ∈ t.sentTo client ∨ p ∈ t.queue by
    refine (fold s.clients s.queuing sent).imp_right fun queued => ?_
    exact (List.mem_append.1 queued).imp_right List.mem_singleton.1
  intro clients
  induction clients with
  | nil => exact fun t sent => .inl sent
  | cons first rest ih =>
    intro t sent
    have serves := deliver_serves t first
    rcases ih (t.deliver first) sent with early | queued
    · by_cases same : client = first
      · subst same
        rcases deliver_cases t client with ⟨-, shown, -⟩ | ⟨-, -, -, taken, begun, shown⟩
        · rw [shown] at early
          exact (List.mem_append.1 early).imp_right (backlog_subset t client p)
        · rw [shown] at early
          exact (List.mem_append.1 early).imp_right fun new =>
            backlog_subset t client p (begun.subset new)
      · exact .inl (serves.sentTo_eq same ▸ early)
    · exact .inr (serves.queue ▸ queued)

theorem mem_sentTo_connect {p : Picture} (sent : p ∈ (s.connect client).2.sentTo other) :
    p ∈ s.sentTo other ∨ p ∈ s.queue := by
  by_cases same : other = client
  · subst same
    have queued : ∀ q ∈ (s.enrol other).backlog other, q ∈ s.queue := backlog_subset (s.enrol other) other
    obtain ⟨-, ⟨-, shown, -⟩ | ⟨-, -, taken, begun, shown⟩⟩ := connect_cases s other
    · rw [shown] at sent
      exact (List.mem_append.1 sent).imp_right (queued p)
    · rw [shown] at sent
      exact (List.mem_append.1 sent).imp_right fun new => queued p (begun.subset new)
  · exact .inl ((connect_serves s client).sentTo_eq same ▸ sent)

end Vivarium.Station
