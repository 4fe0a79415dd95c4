import Vivarium.Proofs.Station.Delivery

/-!
# Commands to a station

Clients connect, acknowledge and disconnect, rounds are played by hand or by the loop, and the station is
reset. Each command is run to its end before the next one.

1. `obey` and `obeyAll`: what a station does on commands.
2. `exists_change`: whatever a command other than a reset does, is one of a few changes, but for the loop and
   the journal. `reset_eq`: what a reset does, which never fails.
3. `Regular`: what is so of all stations that commands lead to. The rounds, the reports and the queue count
   alike.
-/

namespace Vivarium.Station

open Colony

variable {s t u : Station} {c : Colony} {command : Command}

/-! ## Commands -/

/-- What can be asked of a station. A client is known by the number of its link. -/
inductive Command where
  /-- A client comes up that takes so many pictures. -/
  | link (capacity : Option Nat)
  | connect (client : Nat)
  | disconnect (client : Nat)
  | acknowledge (round : Int)
  | start
  | stop
  /-- The station is stopped and plays a round. -/
  | step
  | advance
  | reset
  /-- A pause of the loop ends. -/
  | tick
deriving DecidableEq

/-- The station after a command, also after one that failed. -/
def obey (s : Station) : Command → Station
  | .link capacity => (s.addLink capacity).2
  | .connect client => (s.connect client).2
  | .disconnect client => s.disconnect client
  | .acknowledge round => s.acknowledge round
  | .start => s.start
  | .stop => s.stop
  | .step => s.stop.advance.2
  | .advance => s.advance.2
  | .reset => s.reset.2
  | .tick => s.tick

def obeyAll (s : Station) (commands : List Command) : Station := commands.foldl obey s

theorem obeyAll_append (s : Station) (first second : List Command) :
    s.obeyAll (first ++ second) = (s.obeyAll first).obeyAll second :=
  List.foldl_append

/-! ## What a command does -/

/-- Two stations that are the same to clients and in the game. Their loops may differ, whether they run, and
what is written down. -/
structure Alike (s t : Station) : Prop where
  colony : s.colony.SameState t.colony
  interval : t.interval = s.interval
  round : t.round = s.round
  clients : t.clients = s.clients
  marks : t.marks = s.marks
  queue : t.queue = s.queue
  links : t.links = s.links

namespace Alike

theorem refl (s : Station) : Alike s s :=
  ⟨⟨rfl, rfl, rfl, rfl, rfl, rfl, rfl, rfl⟩, rfl, rfl, rfl, rfl, rfl, rfl⟩

theorem trans (first : Alike s t) (second : Alike t u) : Alike s u where
  colony := first.colony.trans second.colony
  interval := second.interval.trans first.interval
  round := second.round.trans first.round
  clients := second.clients.trans first.clients
  marks := second.marks.trans first.marks
  queue := second.queue.trans first.queue
  links := second.links.trans first.links

theorem sentTo_eq (alike : Alike s t) (client : Nat) : t.sentTo client = s.sentTo client := by
  rw [sentTo, sentTo, alike.links]

theorem picture_eq (alike : Alike s t) : t.picture = s.picture := by
  rw [picture, picture, alike.round, alike.colony.picture_eq]

end Alike

def played (s : Station) (after : Colony) : Station :=
  { s with colony := after, round := s.round + 1 }

inductive Change (s : Station) : Command → Station → Prop
  | still (command : Command) : Change s command s
  | linked (capacity : Option Nat) : Change s (.link capacity) (s.addLink capacity).2
  | connected (client : Nat) : Change s (.connect client) (s.connect client).2
  | disconnected (client : Nat) : Change s (.disconnect client) (s.disconnect client)
  | acknowledged (round : Int) : Change s (.acknowledge round) (s.acknowledge round)
  /-- A round fails. -/
  | failed (command : Command) {fault : Fault} {after : Colony} (unfinished : s.isFinished = false)
      (stepped : s.colony.step s.round = (.error fault, after)) :
      Change s command { s with colony := after }
  /-- A round is played and its picture is not due. -/
  | played (command : Command) {r : Report} {after : Colony} (unfinished : s.isFinished = false)
      (stepped : s.colony.step s.round = (.ok r, after)) (quiet : (s.played after).isDue = false) :
      Change s command (s.played after)
  /-- A round is played and its picture is sent. -/
  | shown (command : Command) {r : Report} {after : Colony} (unfinished : s.isFinished = false)
      (stepped : s.colony.step s.round = (.ok r, after)) (due : (s.played after).isDue = true) :
      Change s command (s.played after).broadcast

theorem advance_change (s : Station) (command : Command) : Change s command s.advance.2 := by
  rw [advance]
  split
  · exact .still command
  · next unfinished =>
    have unfinished : s.isFinished = false := by simpa using unfinished
    cases stepped : s.colony.step s.round with
    | mk result after =>
      cases result with
      | error fault => exact .failed command unfinished stepped
      | ok r =>
        show Change s command (if (s.played after).isDue = true then (s.played after).broadcast
          else s.played after)
        split
        · next due => exact .shown command unfinished stepped due
        · next quiet => exact .played command unfinished stepped (by simpa using quiet)

theorem stop_alike (s : Station) : Alike s s.stop := { Alike.refl s with }

theorem sleep_alike (s : Station) : Alike s s.sleep := { Alike.refl s with }

theorem start_alike (s : Station) : Alike s s.start := by
  rw [start]
  cases s.loop <;> exact { Alike.refl s with }

theorem work_change (s : Station) : ∃ t, Change s .tick t ∧ Alike t s.work.2 := by
  have advanced := advance_change s .tick
  rw [work]
  split
  · generalize s.advance = result at advanced
    obtain ⟨result, after⟩ := result
    refine ⟨after, advanced, ?_⟩
    cases result with
    | error fault => exact .refl after
    | ok more =>
      cases more with
      | true => exact .refl after
      | false => exact { Alike.refl after with colony := ⟨rfl, rfl, rfl, rfl, rfl, rfl, rfl, rfl⟩ }
  · exact ⟨s, .still .tick, .refl s⟩

/-- The loop plays a round or none, and goes on to its next pause or ends. -/
theorem tick_change (s : Station) : ∃ t, Change s .tick t ∧ Alike t s.tick := by
  obtain ⟨t, changed, alike⟩ := work_change s
  rw [tick]
  cases s.loop with
  | absent | ended => exact ⟨s, .still .tick, .refl s⟩
  | sleeping =>
    generalize s.work = result at alike
    obtain ⟨result, after⟩ := result
    refine ⟨t, changed, alike.trans ?_⟩
    cases result with
    | error fault => exact { Alike.refl after with }
    | ok _ => exact sleep_alike after

/-- But for the loop and the journal, a command other than a reset makes one change. -/
theorem exists_change (s : Station) (other : command ≠ .reset) :
    ∃ t u, Alike s t ∧ Change t command u ∧ Alike u (s.obey command) := by
  cases command with
  | link capacity => exact ⟨s, _, .refl s, .linked capacity, .refl _⟩
  | connect client => exact ⟨s, _, .refl s, .connected client, .refl _⟩
  | disconnect client => exact ⟨s, _, .refl s, .disconnected client, .refl _⟩
  | acknowledge round => exact ⟨s, _, .refl s, .acknowledged round, .refl _⟩
  | start => exact ⟨s, s, .refl s, .still .start, start_alike s⟩
  | stop => exact ⟨s, s, .refl s, .still .stop, stop_alike s⟩
  | step => exact ⟨s.stop, _, stop_alike s, advance_change s.stop .step, .refl _⟩
  | advance => exact ⟨s, _, .refl s, advance_change s .advance, .refl _⟩
  | reset => exact absurd rfl other
  | tick =>
    obtain ⟨t, changed, alike⟩ := tick_change s
    exact ⟨s, t, .refl s, changed, alike⟩

def restarted (s : Station) : Station := ({ s with colony := s.colony.reset.2 }).rewind

theorem reset_eq (done : s.colony.reset.1 = .ok ()) : s.reset = (.ok (), s.restarted.broadcast) := by
  rw [reset, restarted]
  generalize s.colony.reset = result at done
  obtain ⟨result, after⟩ := result
  cases done
  rfl

/-! ## What is so of every station -/

/-- A station that came by commands from one whose colony was founded as the given one. -/
structure Regular (c : Colony) (s : Station) : Prop extends Queued s where
  founded : ∃ folder settings, ∃ entropy : Entropy,
    (Colony.create folder settings { entropy := entropy }).1 = .ok c ∧
      Lasting folder settings ({ entropy := entropy } : Founding)
  twin : c.Twin s.colony
  orderly : s.colony.Orderly
  serial : s.colony.Serial
  numbered : s.round = s.colony.reports.size
  /-- No round was played after the last one. -/
  unfinished : ∀ round < s.round, completes s.colony.settings round = false

namespace Regular

theorem settings_eq (regular : Regular c s) : s.colony.settings = c.settings := regular.twin.settings

theorem alike (regular : Regular c s) (alike : Alike s t) : Regular c t where
  toQueued := regular.toQueued.of_same alike.queue alike.round
  founded := regular.founded
  twin := regular.twin.trans
    (.of_same alike.colony.settings alike.colony.populates alike.colony.grid alike.colony.coin
      alike.colony.roster)
  orderly := regular.orderly.of_same alike.colony.settings alike.colony.grid alike.colony.creatures
    alike.colony.nextId
  serial := by
    rw [Serial, alike.colony.reports]
    exact regular.serial
  numbered := by rw [alike.round, alike.colony.reports, regular.numbered]
  unfinished := by
    rw [alike.round, alike.colony.settings]
    exact regular.unfinished

theorem steady (regular : Regular c s) (steady : Steady s t) (queued : Queued t) : Regular c t where
  toQueued := queued
  founded := regular.founded
  twin := steady.colony ▸ regular.twin
  orderly := steady.colony ▸ regular.orderly
  serial := steady.colony ▸ regular.serial
  numbered := by rw [steady.round, steady.colony, regular.numbered]
  unfinished := by
    rw [steady.round, steady.colony]
    exact regular.unfinished

theorem serves (regular : Regular c s) {client : Nat} (serves : Serves client s t) : Regular c t :=
  regular.steady serves.toSteady (regular.toQueued.of_same serves.queue serves.round)

/-- A picture of the present round may come into the queue if it is the first one of that round. -/
theorem queuing (regular : Regular c s) (early : ∀ p ∈ s.queue, p.round < s.round) :
    Regular c s.queuing := by
  have last : s.picture.round = s.round := rfl
  refine regular.steady ⟨rfl, rfl⟩ ⟨?_, ?_⟩
  · refine List.pairwise_append.2 ⟨regular.ascending, List.pairwise_singleton _ _, ?_⟩
    intro p before q present
    rw [List.mem_singleton.1 present, last]
    exact early p before
  · intro p present
    show 0 ≤ p.round ∧ p.round ≤ s.round
    rcases List.mem_append.1 present with before | new
    · exact regular.within p before
    · rw [List.mem_singleton.1 new, last]
      omega

theorem broadcast (regular : Regular c s) (early : ∀ p ∈ s.queue, p.round < s.round) :
    Regular c s.broadcast := by
  obtain ⟨steady, -, queue, -⟩ := broadcast_frame s
  exact regular.steady steady ((regular.queuing early).toQueued.of_same queue steady.round)

/-- A round that is played is the next one, and its report has its number. -/
theorem played (regular : Regular c s) (unfinished : s.isFinished = false) {r : Report} {after : Colony}
    (stepped : s.colony.step s.round = (.ok r, after)) : Regular c (s.played after) := by
  have plays : Plays s.colony after := by
    have chain := step_plays s.colony s.round
    rw [stepped] at chain
    exact chain
  rw [regular.numbered] at stepped
  have twin := plays.twin regular.orderly
  refine ⟨⟨regular.ascending, fun p present => ?_⟩, regular.founded, regular.twin.trans twin,
    plays.orderly regular.orderly, regular.serial.step stepped, ?_, fun round before => ?_⟩
  · obtain ⟨nonneg, below⟩ := regular.within p present
    refine ⟨nonneg, ?_⟩
    show p.round ≤ ((s.round + 1 : Nat) : Int)
    omega
  · show s.round + 1 = after.reports.size
    rw [size_reports_step stepped, regular.numbered]
  · show completes after.settings round = false
    rw [twin.settings]
    rcases Nat.lt_succ_iff_lt_or_eq.1 before with earlier | rfl
    · exact regular.unfinished round earlier
    · exact unfinished

theorem failed (regular : Regular c s) {fault : Fault} {after : Colony}
    (stepped : s.colony.step s.round = (.error fault, after)) :
    Regular c { s with colony := after } := by
  have plays : Plays s.colony after := by
    have chain := step_plays s.colony s.round
    rw [stepped] at chain
    exact chain
  have reports : after.reports = s.colony.reports := by
    rcases reports_step s.colony s.round with ⟨_, _, same, kept⟩ | ⟨_, _, other, -⟩
    · cases stepped.symm.trans same
      exact kept
    · cases stepped.symm.trans other
  have twin := plays.twin regular.orderly
  refine ⟨⟨regular.ascending, regular.within⟩, regular.founded, regular.twin.trans twin,
    plays.orderly regular.orderly, ?_, ?_, fun round before => ?_⟩
  · show after.Serial
    rw [Serial, reports]
    exact regular.serial
  · show s.round = after.reports.size
    rw [reports, regular.numbered]
  · show completes after.settings round = false
    rw [twin.settings]
    exact regular.unfinished round before

theorem acknowledge (regular : Regular c s) (round : Int) : Regular c (s.acknowledge round) := by
  have fewer : (s.acknowledge round).queue.Sublist s.queue := List.dropWhile_sublist _
  exact regular.steady ⟨rfl, rfl⟩
    ⟨regular.ascending.sublist fewer, fun p present => regular.within p (fewer.subset present)⟩

theorem change (regular : Regular c s) (change : Change s command t) : Regular c t := by
  cases change with
  | still => exact regular
  | linked | disconnected =>
    exact regular.steady ⟨rfl, rfl⟩ ⟨regular.ascending, regular.within⟩
  | connected client => exact regular.serves (connect_serves s client)
  | acknowledged round => exact regular.acknowledge round
  | failed _ _ stepped => exact regular.failed stepped
  | played _ unfinished stepped => exact regular.played unfinished stepped
  | shown _ unfinished stepped =>
    refine (regular.played unfinished stepped).broadcast fun p present => ?_
    have := (regular.within p present).2
    show p.round < ((s.round + 1 : Nat) : Int)
    omega

theorem restarted (regular : Regular c s) :
    s.colony.reset.1 = .ok () ∧
      (c.settings.seed ≠ .null → c.SameState s.restarted.colony) ∧ Regular c s.restarted := by
  obtain ⟨folder, settings, entropy, created, lasting⟩ := regular.founded
  obtain ⟨done, same⟩ := reset_of_lasting created rfl lasting regular.twin
  have reports : s.restarted.colony.reports = #[] := s.colony.reset_newly.unreported
  rw [(settled_of_created created).2.1]
  refine ⟨done, same, ⟨List.Pairwise.nil, fun p none => absurd none List.not_mem_nil⟩,
    regular.founded, regular.twin.trans (reset_twin s.colony),
    perform_orderly regular.orderly .reset, ?_, ?_, fun round before => absurd before (Nat.not_lt_zero round)⟩
  · rw [Serial, reports]
    rfl
  · rw [reports]
    rfl

/-- A reset of a station does not fail. It starts the colony again and sends its picture. -/
theorem reset (regular : Regular c s) :
    s.reset = (.ok (), s.restarted.broadcast) ∧ Regular c s.restarted.broadcast := by
  obtain ⟨done, -, again⟩ := regular.restarted
  exact ⟨reset_eq done, again.broadcast fun p none => absurd none List.not_mem_nil⟩

theorem obey (regular : Regular c s) (command : Command) : Regular c (s.obey command) := by
  by_cases resets : command = .reset
  · subst resets
    obtain ⟨eq, again⟩ := regular.reset
    rw [Station.obey, eq]
    exact again
  · obtain ⟨t, u, before, changed, after⟩ := exists_change s resets
    exact ((regular.alike before).change changed).alike after

/-- What the changes keep and what a restart keeps, a command keeps. -/
theorem keeps (regular : Regular c s) {P : Station → Prop} (command : Command)
    (alike : ∀ {t u}, Alike t u → P t → P u)
    (change : ∀ {t u}, Change t command u → P t → P u)
    (restart : command = .reset → P s → P s.restarted.broadcast) (start : P s) : P (s.obey command) := by
  by_cases resets : command = .reset
  · subst resets
    rw [Station.obey, regular.reset.1]
    exact restart rfl start
  · obtain ⟨t, u, before, changed, after⟩ := exists_change s resets
    exact alike after (change changed (alike before start))

theorem obeyAll (regular : Regular c s) (commands : List Command) : Regular c (s.obeyAll commands) := by
  induction commands generalizing s with
  | nil => exact regular
  | cons command rest ih => exact ih (regular.obey command)

/-- What each of some commands keeps, all of them keep. -/
theorem keepsAll (regular : Regular c s) {P : Station → Prop} (commands : List Command)
    (step : ∀ {t command}, command ∈ commands → Regular c t → P t → P (t.obey command)) (start : P s) :
    P (s.obeyAll commands) := by
  induction commands generalizing s with
  | nil => exact start
  | cons command rest ih =>
    exact ih (regular.obey command) (fun listed => step (List.mem_cons_of_mem command listed))
      (step List.mem_cons_self regular start)

end Regular

/-! ## Founding -/

variable {folder : Folder} {settings : Settings} {interval : Int} {entropy : Entropy}

/-- What a station is founded as. -/
theorem create_eq_ok (created : create folder settings interval entropy = .ok s) :
    (Colony.create folder settings { entropy := entropy }).1 = .ok s.colony ∧
      s.interval = max 1 interval.toNat ∧ s.round = 0 ∧ s.clients = [] ∧ s.queue = [] ∧
      s.links = #[] ∧ s.marks = .empty := by
  rw [create] at created
  cases founded : (Colony.create folder settings { entropy := entropy } : Except Fault Colony × _).1 with
  | error fault =>
    rw [founded] at created
    cases created
  | ok c =>
    rw [founded] at created
    cases created
    exact ⟨rfl, rfl, rfl, rfl, rfl, rfl, rfl⟩

theorem regular_of_created (created : create folder settings interval entropy = .ok s)
    (lasting : Lasting folder settings ({ entropy := entropy } : Founding)) :
    Regular s.colony s := by
  obtain ⟨founded, -, round, -, queue, -⟩ := create_eq_ok created
  have reports := reports_of_created founded
  refine ⟨⟨?_, ?_⟩, ⟨folder, settings, entropy, founded, lasting⟩, .refl s.colony,
    (Reachable.founded founded).orderly, ?_, ?_, ?_⟩
  · rw [queue]
    exact List.Pairwise.nil
  · rw [queue]
    exact fun p none => absurd none List.not_mem_nil
  · rw [Serial, reports]
    rfl
  · rw [round, reports]
    rfl
  · rw [round]
    exact fun k before => absurd before (Nat.not_lt_zero k)

/-! ## A square -/

/-- Three rounds on a square without creatures. -/
def squareSettings : Settings := { cramped with rounds := .int 3 }

/-- A station that sends the picture of every second round. -/
def square : Station where
  colony := { crampedSquare with settings := squareSettings }
  interval := 2
  interval_pos := by decide
  running := false
  round := 0
  clients := []
  marks := .empty
  queue := []
  links := #[]
  loop := .absent
  delays := #[]

theorem square_created : create .empty squareSettings 2 = .ok square := rfl

theorem square_lasting : Lasting .empty squareSettings ({ entropy := .still } : Founding) :=
  lasting_of_seed nofun

end Vivarium.Station
