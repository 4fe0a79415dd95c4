import Vivarium.Proofs.Station.Share
import Vivarium.Station.Socket

/-!
# What a socket leaves behind

A client on a socket is connected and sends texts, and other things happen to the station in between. When the
client is gone it is disconnected. But the connection can fail, or a text be refused, and then it is not.

1. `acknowledgedRound_eq_iff`, `receive_of_refused`: which texts acknowledge a round and which are refused. All
   others change nothing.
2. `Registered`: the clients that are connected are those that have marks, after any commands.
3. `host`: a visit on a socket, and what happens meanwhile. `serve_eq_host`: nothing else may happen.
4. `host_ends`: the ways in which a visit ends, and whom it leaves behind.
5. `square_left_behind`: two visits that leave their client behind.
-/

namespace Vivarium.Station

open Colony

variable {s t : Station} {c : Colony} {command : Command} {client : Nat} {text : String}

/-! ## Texts -/

/-- The text is a map with the type `ack` and a whole number as its round. -/
def Acknowledges (text : String) (round : Int) : Prop :=
  ∃ entries, Json.read text = .ok (.map entries) ∧ Value.lookup "type" entries = some (.text "ack") ∧
    (Value.lookup "round" entries).bind Value.whole? = some round

/-- The text is JSON and no map, or a number or the nesting in it passes what is read. -/
def Refused (text : String) : Prop :=
  (∃ v, Json.read text = .ok v ∧ ∀ entries, v ≠ .map entries) ∨
    ∃ fault, Json.read text = .error fault ∧ fault ≠ .malformed

theorem acknowledgedRound_eq_iff {round : Int} :
    acknowledgedRound text = .ok (some round) ↔ Acknowledges text round := by
  rw [acknowledgedRound, Acknowledges]
  split
  · next unread => simp [unread]
  · next unread => simp [unread]
  · next unread => simp [unread]
  · next entries reads =>
    split
    · next type number => simp [reads, type, number]
    · next other =>
      simp only [reads, reduceCtorEq, Except.ok.injEq, Value.map.injEq, false_iff, not_exists, not_and]
      rintro _ rfl type number
      exact other round type number
  · next v other reads =>
    simp only [reads, reduceCtorEq, false_iff, Except.ok.injEq, not_exists, not_and]
    rintro entries rfl
    exact absurd rfl (other entries)

theorem exists_acknowledgedRound_iff :
    (∃ fault, acknowledgedRound text = .error fault) ↔ Refused text := by
  rw [acknowledgedRound, Refused]
  split
  · next unread => simp [unread]
  · next digits unread => simp [unread]
  · next collection unread => simp [unread]
  · next entries reads =>
    split <;> simp [reads]
  · next v other reads =>
    simpa [reads] using fun entries same => other entries same

/-! ## Clients and marks -/

/-- The clients that are connected are those that have marks, and each is there once. -/
structure Registered (s : Station) : Prop where
  nodup : s.clients.Nodup
  marked : ∀ client, client ∈ s.clients ↔ s.marks.get? client ≠ none

theorem clients_finish (client : Nat) (s : Station) (mark : Int) (pictures : List Picture) :
    (Delivery.finish client s mark pictures).2.clients = s.clients := by
  rcases finished : Delivery.finish client s mark pictures with ⟨_ | _, t⟩
  · exact (finish_failed finished).1
  · exact (finish_ok finished).1

theorem clients_connect (s : Station) (client : Nat) :
    (s.connect client).2.clients = (s.enrol client).clients := by
  have same : ((Delivery.start (s.enrol client) client).run (s.enrol client)).2.clients =
      (s.enrol client).clients := clients_finish client (s.enrol client) _ _
  rw [connect]
  generalize (Delivery.start (s.enrol client) client).run (s.enrol client) = result at same
  obtain ⟨present, after⟩ := result
  cases present <;> exact same

theorem clients_deliver_sublist (s : Station) (client : Nat) :
    (s.deliver client).clients.Sublist s.clients := by
  have same : ((Delivery.start s client).run s).2.clients = s.clients := clients_finish client s _ _
  rw [deliver]
  generalize (Delivery.start s client).run s = result at same
  obtain ⟨present, after⟩ := result
  cases present with
  | true => exact same ▸ List.Sublist.refl _
  | false => exact same ▸ List.filter_sublist

namespace Registered

theorem of_same (registered : Registered s) (clients : t.clients = s.clients) (marks : t.marks = s.marks) :
    Registered t :=
  ⟨clients ▸ registered.nodup, by rw [clients, marks]; exact registered.marked⟩

theorem serves (registered : Registered s) (serves : Serves client s t) (nodup : t.clients.Nodup)
    (own : client ∈ t.clients ↔ t.marks.get? client ≠ none) : Registered t := by
  refine ⟨nodup, fun other => ?_⟩
  by_cases same : other = client
  · exact same ▸ own
  · rw [serves.clients other same, serves.marks other same]
    exact registered.marked other

theorem connect (registered : Registered s) (client : Nat) : Registered (s.connect client).2 := by
  obtain ⟨present, left⟩ := connect_cases s client
  refine registered.serves (connect_serves s client) ?_ (iff_of_true present ?_)
  · rw [clients_connect]
    exact nodup_enrol registered.nodup client
  · rcases left with ⟨-, -, marked⟩ | ⟨-, marked, -⟩ <;> simp [marked]

theorem disconnect (registered : Registered s) (client : Nat) : Registered (s.disconnect client) := by
  refine registered.serves (disconnect_serves s client) (registered.nodup.filter _) (iff_of_false ?_ ?_)
  · simp [Station.disconnect]
  · exact not_not.2 (Table.get?_erase_self _ _)

theorem deliver (registered : Registered s) (listed : client ∈ s.clients) : Registered (s.deliver client) := by
  refine registered.serves (deliver_serves s client)
    (registered.nodup.sublist (clients_deliver_sublist s client)) ?_
  rcases deliver_cases s client with ⟨clients, -, marked⟩ | ⟨gone, -, unmarked, -⟩
  · exact iff_of_true (clients ▸ listed) (by simp [marked])
  · exact iff_of_false gone (not_not.2 unmarked)

theorem foldl_deliver (registered : Registered s) {clients : List Nat} (nodup : clients.Nodup)
    (listed : ∀ client ∈ clients, client ∈ s.clients) : Registered (clients.foldl Station.deliver s) := by
  induction clients generalizing s with
  | nil => exact registered
  | cons first rest ih =>
    obtain ⟨fresh, nodup⟩ := List.nodup_cons.1 nodup
    refine ih (registered.deliver (listed first List.mem_cons_self)) nodup fun client later => ?_
    have apart : client ≠ first := fun same => fresh (same ▸ later)
    exact ((deliver_serves s first).clients client apart).2 (listed client (List.mem_cons_of_mem first later))

theorem broadcast (registered : Registered s) : Registered s.broadcast := by
  have queued : Registered s.queuing := registered.of_same rfl rfl
  exact queued.foldl_deliver registered.nodup fun _ listed => listed

theorem change (registered : Registered s) (change : Change s command t) : Registered t := by
  cases change with
  | connected client => exact registered.connect client
  | disconnected client => exact registered.disconnect client
  | @shown _ _ after =>
    have played : Registered (s.played after) := registered.of_same rfl rfl
    exact played.broadcast
  | _ => exact registered.of_same rfl rfl

theorem restarted (registered : Registered s) : Registered s.restarted := by
  refine ⟨registered.nodup, fun client => (registered.marked client).trans ?_⟩
  show _ ↔ (s.marks.mapValues fun _ => nothingSent).get? client ≠ none
  simp [Table.get?_mapValues]

end Registered

theorem Regular.obeyAll_registered (regular : Regular c s) (registered : Registered s)
    (commands : List Command) : Registered (s.obeyAll commands) := by
  refine regular.keepsAll commands (fun {t command} _ regular registered => ?_) registered
  exact regular.keeps command (fun alike registered => registered.of_same alike.clients alike.marks)
    (fun changed registered => registered.change changed) (fun _ registered => registered.restarted.broadcast)
    registered

theorem registered_of_created {folder : Folder} {settings : Settings} {interval : Int} {entropy : Entropy}
    (created : create folder settings interval entropy = .ok s) : Registered s := by
  obtain ⟨-, -, -, clients, -, -, marks⟩ := create_eq_ok created
  refine ⟨clients ▸ List.nodup_nil, fun client => ?_⟩
  rw [clients, marks]
  exact iff_of_false List.not_mem_nil (not_not.2 rfl)

/-! ## Visits -/

/-- What happens while a client is on a socket: it sends a text, or something else is asked of the station. -/
inductive Occasion where
  | sent (text : String)
  | meanwhile (command : Command)
deriving DecidableEq

/-- What an occasion asks of the station, if anything. -/
def Occasion.command? : Occasion → Option Command
  | .sent text =>
    match acknowledgedRound text with
    | .ok (some round) => some (.acknowledge round)
    | _ => none
  | .meanwhile command => some command

def after (s : Station) (occasions : List Occasion) : Station :=
  s.obeyAll (occasions.filterMap Occasion.command?)

/-- Attends to a client that is connected until it is gone or a text of it is refused. -/
def hear (client : Nat) : List Occasion → Station → Except Fault Unit × Station
  | [], s => (.ok (), s.disconnect client)
  | .sent text :: rest, s =>
    match s.receive text with
    | .ok next => hear client rest next
    | .error fault => (.error fault, s)
  | .meanwhile command :: rest, s => hear client rest (s.obey command)

/-- Serves a client on a socket while other things happen. -/
def host (s : Station) (client : Nat) (occasions : List Occasion) : Except Fault Unit × Station :=
  match s.connect client with
  | (.error fault, left) => (.error fault, left)
  | (.ok _, connected) => hear client occasions connected

theorem serve_eq_host (s : Station) (client : Nat) (texts : List String) :
    s.serve client texts = s.host client (texts.map .sent) := by
  rw [serve, host]
  rcases s.connect client with ⟨_ | _, connected⟩
  · rfl
  · dsimp only
    induction texts generalizing connected with
    | nil => rfl
    | cons text rest ih =>
      rw [receiveAll, List.map_cons, hear]
      rcases connected.receive text with fault | next
      · rfl
      · exact ih next

/-- A text that is not refused acknowledges a round or changes nothing. -/
theorem receive_of_not_refused (accepted : ¬ Refused text) :
    s.receive text = .ok (s.after [.sent text]) := by
  rw [receive, after, List.filterMap_cons, Occasion.command?]
  rcases read : acknowledgedRound text with fault | round?
  · exact absurd (exists_acknowledgedRound_iff.1 ⟨fault, read⟩) accepted
  · cases round? <;> rfl

theorem receive_of_refused (refused : Refused text) : ∃ fault, s.receive text = .error fault := by
  obtain ⟨fault, read⟩ := exists_acknowledgedRound_iff.2 refused
  exact ⟨fault, by rw [receive, read]; rfl⟩

theorem after_append (s : Station) (first second : List Occasion) :
    s.after (first ++ second) = (s.after first).after second := by
  rw [after, List.filterMap_append, obeyAll_append]
  rfl

/-- As long as no text is refused the visit goes on. -/
theorem hear_append {heard : List Occasion} (accepted : ∀ text, .sent text ∈ heard → ¬ Refused text)
    (rest : List Occasion) : hear client (heard ++ rest) s = hear client rest (s.after heard) := by
  induction heard generalizing s with
  | nil => rfl
  | cons first later ih =>
    have one : s.after (first :: later) = (s.after [first]).after later := after_append s [first] later
    have step : hear client (first :: (later ++ rest)) s = hear client (later ++ rest) (s.after [first]) := by
      cases first with
      | sent text => rw [hear, receive_of_not_refused (accepted text List.mem_cons_self)]
      | meanwhile command => rfl
    rw [List.cons_append, step, one, ih fun text listed => accepted text (List.mem_cons_of_mem first listed)]

/-! ## The end of a visit -/

theorem command?_sent_eq_iff {round : Int} :
    (Occasion.sent text).command? = some (.acknowledge round) ↔ Acknowledges text round := by
  rw [← acknowledgedRound_eq_iff, Occasion.command?]
  split
  · next read => simp [read]
  · next other => simpa using other round

theorem after_sent_of_idle (idle : ¬ ∃ round, Acknowledges text round) : s.after [.sent text] = s := by
  rw [after, List.filterMap_cons, Occasion.command?]
  split
  · rfl
  · next asked =>
    split at asked
    · next round read => exact absurd ⟨round, acknowledgedRound_eq_iff.1 read⟩ idle
    · cases asked

theorem host_of_error {fault : Fault} (fails : (s.connect client).1 = .error fault)
    (occasions : List Occasion) : s.host client occasions = (.error fault, (s.connect client).2) := by
  rw [host]
  generalize s.connect client = result at fails
  obtain ⟨_, _⟩ := result
  subst fails
  rfl

theorem host_of_ok (joins : (s.connect client).1 = .ok ()) (occasions : List Occasion) :
    s.host client occasions = hear client occasions (s.connect client).2 := by
  rw [host]
  generalize s.connect client = result at joins
  obtain ⟨_, _⟩ := result
  subst joins
  rfl

theorem mem_filterMap_command_iff {occasions : List Occasion} :
    .disconnect client ∈ occasions.filterMap Occasion.command? ↔ .meanwhile (.disconnect client) ∈ occasions := by
  rw [List.mem_filterMap]
  constructor
  · rintro ⟨_ | command, listed, asks⟩
    · rw [Occasion.command?] at asks
      split at asks <;> simp at asks
    · cases asks
      exact listed
  · exact fun listed => ⟨_, listed, rfl⟩

/-- A refused text ends a visit before the client is disconnected. -/
theorem hear_of_refused {heard rest : List Occasion} (accepted : ∀ text, .sent text ∈ heard → ¬ Refused text)
    (refused : Refused text) :
    ∃ fault, hear client (heard ++ .sent text :: rest) s = (.error fault, s.after heard) := by
  obtain ⟨fault, refused⟩ := receive_of_refused (s := s.after heard) refused
  exact ⟨fault, by rw [hear_append accepted, hear, refused]⟩

theorem hear_of_accepted {occasions : List Occasion}
    (accepted : ∀ text, .sent text ∈ occasions → ¬ Refused text) :
    hear client occasions s = (.ok (), (s.after occasions).disconnect client) := by
  rw [← List.append_nil occasions, hear_append accepted, List.append_nil, hear]

/-- The ways in which a visit ends. A text changes nothing unless it acknowledges a round. A client is disconnected
at the end of its visit exactly if it could be connected and no text of it was refused. If it could not be
connected it stays in both tables. If a text is refused it stays in both, too, unless it was disconnected by
something else. -/
theorem host_ends {folder : Folder} {settings : Settings} {interval : Int} {entropy : Entropy}
    (created : create folder settings interval entropy = .ok s)
    (lasting : Lasting folder settings ({ entropy := entropy } : Founding)) (earlier : List Command) (client : Nat)
    (occasions : List Occasion) {before joined : Station} (obeyed : s.obeyAll earlier = before)
    (connected : (before.connect client).2 = joined) :
    -- Only an acknowledgement asks anything of the station.
    (∀ text round, (Occasion.sent text).command? = some (.acknowledge round) ↔ Acknowledges text round) ∧
    (∀ text, (¬ ∃ round, Acknowledges text round) → ∀ t : Station, t.after [.sent text] = t) ∧
    -- The client is gone before it is connected.
    ((before.connect client).1 = .error .disconnected →
      before.host client occasions = (.error .disconnected, joined) ∧
        client ∈ joined.clients ∧ joined.marks.get? client = some nothingSent) ∧
    -- The client is gone while a text of it is awaited.
    ((before.connect client).1 = .ok () → (∀ text, .sent text ∈ occasions → ¬ Refused text) →
      before.host client occasions = (.ok (), (joined.after occasions).disconnect client) ∧
        client ∉ ((joined.after occasions).disconnect client).clients ∧
        ((joined.after occasions).disconnect client).marks.get? client = none) ∧
    -- A text is refused.
    ((before.connect client).1 = .ok () → ∀ heard text rest, occasions = heard ++ .sent text :: rest →
      (∀ text, .sent text ∈ heard → ¬ Refused text) → Refused text →
        (∃ fault, before.host client occasions = (.error fault, joined.after heard)) ∧
        (client ∈ (joined.after heard).clients ↔ (joined.after heard).marks.get? client ≠ none) ∧
        (before.Takes client → .meanwhile (.disconnect client) ∉ heard →
          client ∈ (joined.after heard).clients)) := by
  have regular : Regular s.colony before := obeyed ▸ (regular_of_created created lasting).obeyAll earlier
  have registered : Registered before :=
    obeyed ▸ (regular_of_created created lasting).obeyAll_registered (registered_of_created created) earlier
  subst connected
  have entered : Regular s.colony (before.connect client).2 := regular.obey (.connect client)
  obtain ⟨present, outcome⟩ := connect_cases before client
  refine ⟨fun _ _ => command?_sent_eq_iff, fun _ idle _ => after_sent_of_idle idle,
    fun fails => ⟨host_of_error fails occasions, present, ?_⟩, fun joins accepted => ⟨?_, ?_, ?_⟩, ?_⟩
  · rcases outcome with ⟨joins, -⟩ | ⟨-, marked, -⟩
    · rw [joins] at fails
      cases fails
    · exact marked
  · rw [host_of_ok joins, hear_of_accepted accepted]
  · simp [disconnect]
  · exact Table.get?_erase_self _ _
  · rintro joins heard text rest rfl accepted refused
    rw [host_of_ok joins]
    have later : Registered ((before.connect client).2.after heard) :=
      entered.obeyAll_registered (registered.connect client) _
    refine ⟨hear_of_refused accepted refused, later.marked client, fun takes stays => ?_⟩
    refine entered.obeyAll_takes (connect_takes takes).2 present fun listed => ?_
    exact stays (mem_filterMap_command_iff.1 listed)

theorem read_list : Json.read "[]" = .ok (.list []) := rfl

theorem refused_list : Refused "[]" := by
  refine .inl ⟨_, read_list, ?_⟩
  rintro entries ⟨⟩

/-- A client that is sent the second round while it is on the socket. Then it sends a list. -/
theorem square_refuses_list :
    create .empty squareSettings 2 = .ok square ∧
    (square.obeyAll [.link none]).Takes 0 ∧
    Refused "[]" ∧
    0 ∈ ((square.obeyAll [.link none, .connect 0]).after [.meanwhile .advance, .meanwhile .advance]).clients ∧
    ((square.obeyAll [.link none, .connect 0]).after [.meanwhile .advance, .meanwhile .advance]).marks.get? 0 =
      some 2 := by
  obtain ⟨-, -, -, -, ends⟩ := host_ends square_created square_lasting [.link none] 0
    [.meanwhile .advance, .meanwhile .advance, .sent "[]"] rfl rfl
  obtain ⟨-, -, left⟩ := ends rfl [.meanwhile .advance, .meanwhile .advance] "[]" [] rfl (by simp) refused_list
  have takes : (square.obeyAll [.link none]).Takes 0 := ⟨_, rfl, rfl⟩
  exact ⟨square_created, takes, refused_list, left takes (by decide), rfl⟩

/-- Not every client is gone when its visit is over: one has sent a list, and the other was gone before all that
waited for it was sent. -/
theorem square_left_behind :
    create .empty squareSettings 2 = .ok square ∧
    (((square.obeyAll [.link none]).serve 0 ["[]"]).1 = .error (.noMember "list" "get") ∧
      0 ∈ ((square.obeyAll [.link none]).serve 0 ["[]"]).2.clients ∧
      ((square.obeyAll [.link none]).serve 0 ["[]"]).2.marks.get? 0 = some nothingSent) ∧
    (((square.obeyAll [.link (some 0), .advance, .advance]).serve 0 []).1 = .error .disconnected ∧
      0 ∈ ((square.obeyAll [.link (some 0), .advance, .advance]).serve 0 []).2.clients ∧
      ((square.obeyAll [.link (some 0), .advance, .advance]).serve 0 []).2.marks.get? 0 = some nothingSent) := by
  have refused : acknowledgedRound "[]" = .error (.noMember "list" "get") := by
    rw [acknowledgedRound, read_list]
    rfl
  have served : (square.obeyAll [.link none]).serve 0 ["[]"] =
      (.error (.noMember "list" "get"), square.obeyAll [.link none, .connect 0]) := by
    rw [serve_eq_host, host, List.map_singleton]
    show hear 0 [.sent "[]"] (square.obeyAll [.link none, .connect 0]) = _
    rw [hear, receive, refused]
    rfl
  rw [served]
  exact ⟨square_created, ⟨rfl, by decide +kernel, rfl⟩, rfl, by decide +kernel, rfl⟩

end Vivarium.Station
