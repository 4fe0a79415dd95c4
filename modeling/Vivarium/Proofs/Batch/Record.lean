import Vivarium.Proofs.Batch.Game
import Vivarium.Proofs.Folder.Writing
import Vivarium.Proofs.Json.Writer
import Vivarium.Proofs.Text.Csv

/-!
# The log and the summary of a batch run

The log gets a row when a round has ended, the peaks are raised then, and the infections are added up. What the
summary tells of the end is taken from the colony itself.

1. `get?_recordAll`: a peak is the greatest number that was counted so far.
2. `exists_recorded`: what is recorded is one entry for each report.
3. `isLog_recordAll`: the rows that are read from the log. `isSummary_parts`: the lines of the summary.
4. `log_and_summary_agree`: so the log and the summary of a run tell the same.
-/

namespace Vivarium.Batch

open Colony

variable {labels : List String} {deterministic : Bool} {peaks counts : Table String Nat} {label : String}
  {reports : List Report} {l : Ledger} {c : Colony}

/-! ## Peaks -/

/-- A peak is raised to a greater count, and stays otherwise. -/
theorem get?_raisePeaks (distinct : counts.keys.Nodup) {peak : Nat} (known : peaks.get? label = some peak) :
    (raisePeaks peaks counts).get? label = some (max peak ((counts.get? label).getD 0)) := by
  obtain ⟨entries⟩ := counts
  rw [raisePeaks]
  induction entries generalizing peaks peak with
  | nil =>
    rw [List.foldl_nil, known]
    exact congrArg some (Nat.max_zero peak).symm
  | cons entry rest ih =>
    rw [Table.keys, List.map_cons, List.nodup_cons] at distinct
    rw [List.foldl_cons, Table.get?_cons]
    by_cases here : entry.1 = label
    · -- The label comes once, so the other entries leave its peak.
      have gone : (Table.mk rest).get? label = none := by
        rw [← Option.not_isSome_iff_eq_none, Table.get?_isSome_iff, ← here]
        exact distinct.1
      have raised : (if (peaks.get? entry.1).getD 0 < entry.2 then peaks.insert entry.1 entry.2
          else peaks).get? label = some (max peak entry.2) := by
        rw [here, known, Option.getD_some]
        split
        · next above => rw [Table.get?_insert_self, Nat.max_eq_right (Nat.le_of_lt above)]
        · next below => rw [known, Nat.max_eq_left (Nat.not_lt.1 below)]
      rw [ih raised distinct.2, gone, if_pos here, Option.getD_none, Nat.max_zero, Option.getD_some]
    · have kept : (if (peaks.get? entry.1).getD 0 < entry.2 then peaks.insert entry.1 entry.2
          else peaks).get? label = some peak := by
        split
        · rw [Table.get?_insert_of_ne _ _ (Ne.symm here), known]
        · exact known
      rw [ih kept distinct.2, if_neg here]

/-- No peak is added for labels that all have one. -/
theorem keys_raisePeaks (known : ∀ label ∈ counts.keys, label ∈ peaks.keys) :
    (raisePeaks peaks counts).keys = peaks.keys := by
  obtain ⟨entries⟩ := counts
  rw [raisePeaks]
  induction entries generalizing peaks with
  | nil => rfl
  | cons entry rest ih =>
    rw [Table.keys, List.map_cons, List.forall_mem_cons] at known
    have kept : (if (peaks.get? entry.1).getD 0 < entry.2 then peaks.insert entry.1 entry.2
        else peaks).keys = peaks.keys := by
      split
      · exact (Table.keys_insertEntry _ _ _).trans (if_pos known.1)
      · rfl
    rw [List.foldl_cons, ih (kept.symm ▸ known.2), kept]

/-! ## Ledgers -/

def Ledger.recordAll (labels : List String) (deterministic : Bool) (reports : List Report) (l : Ledger) :
    Ledger :=
  reports.foldl (fun l r => l.record labels deterministic r) l

theorem rows_recordAll : (l.recordAll labels deterministic reports).rows.toList =
    l.rows.toList ++ reports.map fun r => Text.csvRow (rowFields labels deterministic r) := by
  induction reports generalizing l with
  | nil => exact (List.append_nil _).symm
  | cons r reports ih =>
    refine (ih (l := l.record labels deterministic r)).trans ?_
    rw [Ledger.record, Array.toList_push, List.append_assoc]
    rfl

theorem infections_recordAll : (l.recordAll labels deterministic reports).infections =
    l.infections + (reports.map Report.infections).sum := by
  induction reports generalizing l with
  | nil => rfl
  | cons r reports ih =>
    refine (ih (l := l.record labels deterministic r)).trans ?_
    rw [Ledger.record, List.map_cons, List.sum_cons, Nat.add_assoc]

/-- A peak is the greatest of the first count and those of all rounds. -/
theorem get?_recordAll (labels : List String) (deterministic : Bool)
    (distinct : ∀ r ∈ reports, r.counts.keys.Nodup) {first : Nat}
    (known : l.peaks.get? label = some first) : (l.recordAll labels deterministic reports).peaks.get? label =
      (first :: reports.map fun r => (r.counts.get? label).getD 0).max? := by
  induction reports generalizing l first with
  | nil => exact known
  | cons r reports ih =>
    obtain ⟨one, others⟩ := List.forall_mem_cons.1 distinct
    refine (ih others (l := l.record labels deterministic r) (get?_raisePeaks one known)).trans ?_
    rw [List.max?_cons', List.map_cons, List.max?_cons', List.foldl_cons]

theorem keys_recordAll (known : ∀ r ∈ reports, ∀ label ∈ r.counts.keys, label ∈ l.peaks.keys) :
    (l.recordAll labels deterministic reports).peaks.keys = l.peaks.keys := by
  induction reports generalizing l with
  | nil => rfl
  | cons r reports ih =>
    obtain ⟨one, others⟩ := List.forall_mem_cons.1 known
    have kept : (l.record labels deterministic r).peaks.keys = l.peaks.keys := keys_raisePeaks one
    exact (ih (l := l.record labels deterministic r) (kept.symm ▸ others)).trans kept

/-! ## Rounds -/

theorem reports_sleep (c : Colony) (clock : Clock) (delay : Value) :
    (c.sleep clock delay).2.reports = c.reports := by
  rw [sleep]
  cases clock.pause delay with
  | error fault => rfl
  | ok long => cases long <;> rfl

/-- What is recorded of rounds is what they report, one entry for each. -/
theorem exists_recorded (clock : Clock) (labels : List String) (deterministic : Bool) (count : Nat)
    (round : Int) (c : Colony) (l : Ledger) : ∃ reports,
      (play clock labels deterministic count round c l).2.1.reports.toList =
        c.reports.toList ++ reports ∧
      (play clock labels deterministic count round c l).2.2 =
        l.recordAll labels deterministic reports := by
  induction count generalizing round c l with
  | zero => exact ⟨[], (List.append_nil _).symm, rfl⟩
  | succ count ih =>
    rw [play]
    rcases reports_step c round with ⟨fault, after, failed, same⟩ | ⟨r, after, stepped, pushed⟩
    · rw [failed]
      exact ⟨[], by rw [same, List.append_nil], rfl⟩
    · rw [stepped]
      dsimp only
      have kept := reports_sleep after clock after.settings.pause
      cases slept : after.sleep clock after.settings.pause with
      | mk result rested =>
        rw [slept] at kept
        have reports : rested.reports.toList = c.reports.toList ++ [r] := by
          rw [kept, pushed, Array.toList_push]
        cases result with
        | error fault => exact ⟨[r], reports, rfl⟩
        | ok _ =>
          obtain ⟨more, later, recorded⟩ :=
            ih (round + 1) rested (l.record labels deterministic r)
          refine ⟨r :: more, ?_, recorded⟩
          rw [later, reports, List.append_assoc]
          rfl

def recorded (clock : Clock) (request : Request) (count : Nat) (c : Colony) : Ledger :=
  (play clock c.labels request.deterministic count 0 c (Ledger.start c)).2.2

theorem recorded_eq (unreported : c.reports = #[]) (clock : Clock) (request : Request) (count : Nat) :
    recorded clock request count c = (Ledger.start c).recordAll c.labels request.deterministic
      (played clock request count c).2.reports.toList := by
  obtain ⟨reports, after, entries⟩ :=
    exists_recorded clock c.labels request.deterministic count 0 c (Ledger.start c)
  rw [unreported] at after
  exact entries.trans (congrArg (fun reports => Ledger.recordAll _ _ reports _) after.symm)

/-! ## Logs -/

def logRows (labels : List String) (deterministic : Bool) (reports : List Report) :
    List (List String) :=
  header labels :: reports.map (rowFields labels deterministic)

theorem readRows_log (c : Colony) (deterministic : Bool) (reports : List Report) :
    Text.readRows ((Ledger.start c).recordAll c.labels deterministic reports).log =
      some (logRows c.labels deterministic reports) := by
  have filled : ∀ row ∈ logRows c.labels deterministic reports, row ≠ [] := by
    simp [logRows, header, rowFields]
  have written : ((Ledger.start c).recordAll c.labels deterministic reports).log =
      String.join ((logRows c.labels deterministic reports).map Text.csvRow) := by
    rw [Ledger.log, rows_recordAll, logRows, List.map_cons, List.map_map]
    rfl
  rw [written, Text.readRows_join filled]

/-- The fields of a row tell of a round: its number, a count in the column of each label, and the
infections. -/
structure IsRow (labels : List String) (number : Nat) (r : Report) (fields : List String) : Prop where
  round : fields[0]? = some (toString number)
  counts : ∀ (j : Nat) label, labels[j]? = some label →
    ∃ n, r.counts.get? label = some n ∧ fields[2 + j]? = some (toString n)
  infections : fields[2 + labels.length]? = some (toString r.infections)

/-- A text is a log of reports: the rows that are read from it are a header and one for each report,
which tells of the round. -/
def IsLog (c : Colony) (reports : List Report) (text : String) : Prop :=
  ∃ rows, Text.readRows text = some ((["round", "population"] ++ c.labels ++
      ["infections", "moves", "turns", "round_ms"]) :: rows) ∧
    rows.length = reports.length ∧
    ∀ (i : Nat) r, reports[i]? = some r → r.counts = (playOn (i + 1) c).2.counts ∧
      ∃ fields, rows[i]? = some fields ∧ IsRow c.labels i r fields

/-- The columns between the first two and the last ones. -/
theorem getElem?_columns {first second : String} {columns others : List String} {j : Nat}
    (inside : j < columns.length) : ([first, second] ++ columns ++ others)[2 + j]? = columns[j]? := by
  rw [List.getElem?_append_left (by simp; omega), List.getElem?_append_right (by simp)]
  simp

/-- The first column after them. -/
theorem getElem?_others {first second : String} {columns others : List String} {n : Nat}
    (before : columns.length = n) : ([first, second] ++ columns ++ others)[2 + n]? = others[0]? := by
  have width : ([first, second] ++ columns).length = 2 + n := by
    rw [List.length_append, before]
    rfl
  rw [← width, List.getElem?_append_right (Nat.le_refl _), Nat.sub_self]

theorem isRow_rowFields {number : Nat} {r : Report} (numbered : r.round = number)
    (known : ∀ label ∈ labels, label ∈ r.counts.keys) (deterministic : Bool) :
    IsRow labels number r (rowFields labels deterministic r) := by
  constructor
  case round =>
    rw [rowFields, numbered]
    rfl
  case counts =>
    intro j label there
    have inside : j < labels.length := (List.getElem?_eq_some_iff.1 there).1
    obtain ⟨n, counted⟩ := Option.isSome_iff_exists.1
      (Table.get?_isSome_iff.2 (known label (List.mem_of_getElem? there)))
    refine ⟨n, counted, ?_⟩
    rw [rowFields, getElem?_columns (by rwa [List.length_map]), List.getElem?_map, there,
      Option.map_some, counted, Option.getD_some]
  case infections => exact getElem?_others (List.length_map _)

/-- What is recorded of the first rounds of a game is a log of them. -/
theorem isLog_recordAll (unreported : c.reports = #[]) (count : Nat) (deterministic : Bool) :
    IsLog c (playOn count c).2.reports.toList ((Ledger.start c).recordAll c.labels deterministic
      (playOn count c).2.reports.toList).log := by
  refine ⟨_, readRows_log c deterministic _, List.length_map _, ?_⟩
  intro i r listed
  have row : ((playOn count c).2.reports.toList.map (rowFields c.labels deterministic))[i]? =
      some (rowFields c.labels deterministic r) := by
    rw [List.getElem?_map, listed]
    rfl
  rw [Array.getElem?_toList] at listed
  have counts := counts_of_report unreported listed
  refine ⟨counts, rowFields c.labels deterministic r, row, ?_⟩
  refine isRow_rowFields (((serial_of_unreported unreported).playOn count).1.round_eq listed) ?_ _
  intro label used
  rw [counts, mem_keys_counts, labels_of_roster (roster_playOn _ c)]
  exact used

/-! ## Summaries -/

/-- The start of a line, with a number of blanks. -/
def margin (blanks : Nat) : String := String.ofList ('\n' :: List.replicate blanks ' ')

/-- Texts between braces, each on a line of its own with two blanks more than the braces have. -/
def braced (blanks : Nat) (lines : List String) : String :=
  "\x7b" ++ margin (blanks + 2) ++ ("," ++ margin (blanks + 2)).intercalate lines ++ margin blanks ++
    "\x7d"

/-- A text has a line for each count: its label, which is read from between its quotes, and its number. -/
def IsCounts (entries : List (String × Nat)) (text : String) : Prop :=
  ∃ lines, List.Forall₂ (fun (entry : String × Nat) line => ∃ label,
      Json.read label = .ok (.text entry.1) ∧ line = label ++ ": " ++ toString entry.2) entries lines ∧
    text = if lines.isEmpty then "\x7b\x7d" else braced 2 lines

/-- The texts of the values of a summary. -/
structure Parts where
  rounds : String
  seed : String
  world : String
  final : String
  leader : String
  total : String
  peaks : String

/-- A summary with these values. -/
def Parts.text (p : Parts) : String :=
  braced 0 ["\"rounds\": " ++ p.rounds, "\"seed\": " ++ p.seed, "\"world\": " ++ p.world,
    "\"final_counts\": " ++ p.final, "\"leader\": " ++ p.leader,
    "\"total_infections\": " ++ p.total, "\"peak_counts\": " ++ p.peaks]

/-- The values of a summary tell of the end of a run and of its reports: the counts of the last one, all
infections, and for each label the greatest of the count before the first round and those of the rounds. -/
structure IsSummary (c : Colony) (reports : List Report) (p : Parts) : Prop where
  final : ∃ r, reports.getLast? = some r ∧ IsCounts r.counts.entries p.final
  total : p.total = toString (reports.map Report.infections).sum
  peaks : ∃ peaks : Table String Nat, IsCounts peaks.entries p.peaks ∧ peaks.keys = c.counts.keys ∧
    ∀ label ∈ c.labels, ∃ first peak, c.counts.get? label = some first ∧
      peaks.get? label = some peak ∧
      (first :: reports.map fun r => (r.counts.get? label).getD 0).max? = some peak

theorem block_eq_braced (level : Nat) {lines : List String} (filled : lines.isEmpty = false) :
    Json.block level "\x7b" "\x7d" lines = braced (2 * level) lines := by
  rw [Json.block, filled]
  rfl

theorem isCounts_indent (counts : Table String Nat) :
    IsCounts counts.entries (Json.indent 1 counts.toValue) := by
  obtain ⟨entries⟩ := counts
  let line (entry : String × Nat) : String := Json.quote true entry.1 ++ ": " ++ toString entry.2
  have lines (entries : List (String × Nat)) : Json.indentEntries 2
      (entries.map fun entry => (Value.text entry.1, Value.int entry.2)) = entries.map line := by
    induction entries with
    | nil => rfl
    | cons entry rest ih =>
      rw [List.map_cons, Json.indentEntries, ih]
      rfl
  refine ⟨entries.map line, ?_, ?_⟩
  · rw [List.forall₂_map_right_iff]
    exact List.forall₂_same.2 fun entry _ => ⟨_, Json.read_quote true entry.1, rfl⟩
  · have value : (Table.mk entries).toValue =
        .map (entries.map fun entry => (Value.text entry.1, Value.int entry.2)) := rfl
    rw [value, Json.indent, lines]
    split
    · next vacant => rw [Json.block, vacant]; rfl
    · next filled => exact block_eq_braced 1 (Bool.eq_false_iff.2 filled)

/-- The texts of the values that are written into a summary. -/
def parts (c : Colony) (l : Ledger) : Parts where
  rounds := Json.indent 1 c.settings.rounds
  seed := Json.indent 1 c.settings.seed
  world := Json.indent 1
    (.map [(.text "width", c.settings.width), (.text "height", c.settings.height)])
  final := Json.indent 1 c.counts.toValue
  leader := Json.indent 1 ((c.leader.map Value.text).getD .null)
  total := toString l.infections
  peaks := Json.indent 1 l.peaks.toValue

theorem indent_summary (c : Colony) (l : Ledger) : Json.indent 0 (summary c l) = (parts c l).text :=
  rfl

theorem isSummary_parts {d : Colony} (unreported : c.reports = #[]) {count : Nat} (positive : 0 < count)
    (done : (playOn count c).1 = .ok ()) (same : (playOn count c).2.SameGame d) (deterministic : Bool) :
    IsSummary c d.reports.toList
      (parts d ((Ledger.start c).recordAll c.labels deterministic d.reports.toList)) := by
  have counts (r : Report) (listed : r ∈ d.reports.toList) : ∃ i, r.counts = (playOn (i + 1) c).2.counts := by
    obtain ⟨i, there⟩ := List.getElem?_of_mem listed
    rw [Array.getElem?_toList, same.reports] at there
    exact ⟨i, counts_of_report unreported there⟩
  have known (r : Report) (listed : r ∈ d.reports.toList) (label : String) :
      label ∈ r.counts.keys ↔ label ∈ c.counts.keys := by
    obtain ⟨i, found⟩ := counts r listed
    rw [found, mem_keys_counts, mem_keys_counts, labels_of_roster (roster_playOn _ c)]
  have distinct (r : Report) (listed : r ∈ d.reports.toList) : r.counts.keys.Nodup := by
    obtain ⟨i, found⟩ := counts r listed
    rw [found]
    exact Table.nodup_keys_ofList _
  constructor
  case final =>
    obtain ⟨-, -, ends⟩ := (serial_of_unreported unreported).playOn count
    have size : d.reports.toList.length = count := by
      rw [Array.length_toList, same.reports, ends.1 done, unreported]
      exact Nat.zero_add count
    obtain ⟨r, last⟩ : ∃ r, d.reports.toList[count - 1]? = some r :=
      ⟨_, List.getElem?_eq_getElem (by omega)⟩
    have counted : r.counts = d.counts := by
      rw [Array.getElem?_toList, same.reports] at last
      rw [counts_of_report unreported last, Nat.sub_add_cancel positive, same.counts_eq]
    refine ⟨r, ?_, ?_⟩
    · rw [List.getLast?_eq_getElem?, size, last]
    · rw [counted]
      exact isCounts_indent d.counts
  case total =>
    have total : ((Ledger.start c).recordAll c.labels deterministic d.reports.toList).infections =
        (d.reports.toList.map Report.infections).sum := infections_recordAll.trans (Nat.zero_add _)
    rw [← total]
    rfl
  case peaks =>
    refine ⟨_, isCounts_indent _, keys_recordAll fun r listed label => (known r listed label).1,
      fun label used => ?_⟩
    obtain ⟨first, counted⟩ := Option.isSome_iff_exists.1 (Table.get?_isSome_iff.2 (mem_keys_counts.2 used))
    have peak := get?_recordAll c.labels deterministic (l := Ledger.start c) distinct counted
    rw [List.max?_cons'] at peak
    exact ⟨first, _, counted, peak, List.max?_cons'⟩

/-! ## Runs -/

section Runs

variable {folder : Folder} {request : Request} {settings : Settings} {log path : Path} {clock : Clock}
  {entropy : Entropy} {count n : Nat} {fault : Fault} {d mid after : Colony} {left : Remains}

/-- Once the log was opened, it is written whatever comes of the rounds. -/
theorem perform_of_opens (logged : request.log = some log) (opens : Opens folder request c)
    (counted : c.settings.rounds.toCount = .ok count) (clock : Clock) :
    ∃ written, folder.writeText log (recorded clock request count c).log = .ok written ∧
      perform folder request c clock =
        match (played clock request count c).1, request.summary with
        | .error fault, _ => (.error fault, remains written (played clock request count c).2)
        | .ok _, none =>
          (.ok (played clock request count c).2, remains written (played clock request count c).2)
        | .ok _, some path =>
          match writeSummary written path
            (summary (played clock request count c).2 (recorded clock request count c)) with
          | .error fault => (.error fault, remains written (played clock request count c).2)
          | .ok summarised => (.ok (played clock request count c).2,
              remains summarised (played clock request count c).2) := by
  obtain ⟨opened, first⟩ := opens
  rw [logged] at first
  obtain ⟨written, whole, again⟩ :=
    Folder.exists_rewritten first (recorded clock request count c).log
  refine ⟨written, whole, ?_⟩
  rw [perform]
  dsimp only
  rw [logged, first, counted]
  simp only [played, recorded, Int.toNat_natCast] at again ⊢
  generalize play clock c.labels request.deterministic count 0 c (Ledger.start c) = result at again
  obtain ⟨result, last, ledger⟩ := result
  dsimp only at again ⊢
  have closed : (writeLog opened (some log) ledger.log).toOption.getD opened = written := by
    rw [writeLog, again]
    rfl
  rw [closed]
  cases result with
  | error fault => rfl
  | ok _ =>
    cases request.summary with
    | none => rfl
    | some path => cases ended : writeSummary written path (Batch.summary last ledger) <;> simp only [ended]

/-- A run that returns has opened its log and counted its rounds. -/
theorem opens_of_perform (done : perform folder request c clock = (.ok d, left)) :
    Opens folder request c ∧ ∃ count, c.settings.rounds.toCount = .ok count := by
  rw [perform] at done
  dsimp only at done
  cases first : writeLog folder request.log (Ledger.start c).log with
  | error fault => rw [first] at done; cases done
  | ok opened =>
    rw [first] at done
    cases counted : c.settings.rounds.toCount with
    | error fault => rw [counted] at done; cases done
    | ok count => exact ⟨⟨opened, first⟩, count, rfl⟩

/-- If the rounds of a batch run are played to the end, they are those of the game. -/
theorem game_of_played (unreported : c.reports = #[])
    (done : (played clock request count c).1 = .ok ()) :
    SamePlay (playOn count c) (played clock request count c) := by
  cases paused : clock.pause c.settings.pause with
  | ok long => exact played_samePlay unreported paused request count
  | error fault =>
    cases count with
    | zero => exact ⟨rfl, .refl c⟩
    | succ count =>
      have stops := (played_of_restless unreported paused request count).of_eq_ok done
      rw [playOnce] at stops
      cases first : (playOn 1 c).1 <;> rw [first] at stops <;> cases stops

/-- What a run has written that was asked for a log and a summary, and came to its end. -/
structure Documents (folder : Folder) (log path : Path) (c d : Colony) (left : Folder) : Prop where
  /-- There is a report for each round that the settings ask for, and they ask for one at least. -/
  rounds : c.settings.rounds.toCount = .ok (d.reports.size : Int)
  positive : 0 < d.reports.size
  /-- First the log was written and then the summary, which stays in any case, and the log if it is
  another file. -/
  texts : ∃ logged summarised written, IsLog c d.reports.toList logged ∧
    IsSummary c d.reports.toList summarised ∧
    folder.writeText log logged = .ok written ∧
    written.writeText path summarised.text = .ok left ∧
    left.find path = .ok (.file summarised.text.toUTF8) ∧
    (left.locate log ≠ left.locate path → left.find log = .ok (.file logged.toUTF8))

theorem documents_of_run (logged : request.log = some log) (summarised : request.summary = some path)
    (created : (Colony.create folder settings { entropy := entropy }).1 = .ok c)
    (done : runSettings folder request settings clock entropy = (.ok d, left)) :
    Documents folder log path c d left.folder := by
  obtain ⟨valid, same, -⟩ := settled_of_created created
  have unreported := reports_of_created created
  rw [runSettings_of_created created] at done
  obtain ⟨opens, number, counted⟩ := opens_of_perform done
  -- The number of rounds is positive, and so it is how many are played.
  have positive : 0 < number := Settings.rounds_pos valid (same ▸ Value.whole?_of_toCount counted)
  obtain ⟨count, rfl⟩ := Int.eq_ofNat_of_zero_le (Int.le_of_lt positive)
  obtain ⟨written, whole, performed⟩ := perform_of_opens logged opens counted clock
  rw [performed, summarised] at done
  cases came : (played clock request count c).1 with
  | error fault => rw [came] at done; cases done
  | ok _ =>
    rw [came] at done
    dsimp only at done
    have rounds := game_of_played unreported came
    cases ended : writeSummary written path
        (summary (played clock request count c).2 (recorded clock request count c)) with
    | error fault => rw [ended] at done; cases done
    | ok after =>
      rw [ended] at done
      cases done
      have finished := rounds.of_eq_ok came
      have size : (played clock request count c).2.reports.size = count := by
        rw [rounds.game.reports, ((serial_of_unreported unreported).playOn count).2.2.1 finished,
          unreported]
        exact Nat.zero_add count
      have some_round : 0 < count := Int.ofNat_lt.1 positive
      have rows := isLog_recordAll unreported count request.deterministic
      rw [← rounds.game.reports, ← recorded_eq unreported] at rows
      have entries := isSummary_parts unreported some_round finished rounds.game request.deterministic
      rw [← recorded_eq unreported] at entries
      rw [writeSummary, indent_summary] at ended
      split at ended
      · cases ended
      · exact ⟨by rw [counted, size], by rw [size]; exact some_round, _, _, written, rows, entries, whole,
          ended, Folder.find_of_writeText ended,
          Folder.find_writeText (Folder.find_of_writeText whole) ended⟩

/-- What a run has written that was asked for a log, and was stopped after a number of rounds. -/
structure Stopped (folder : Folder) (log : Path) (c mid : Colony) (rounds : Nat) (left : Folder) :
    Prop where
  /-- There is a report for each round before. -/
  rounds : mid.reports.size = rounds
  /-- Nothing but the log was written. -/
  texts : ∃ logged, IsLog c mid.reports.toList logged ∧ folder.writeText log logged = .ok left ∧
    left.find log = .ok (.file logged.toUTF8)

/-- A run whose rounds end with a fault leaves a log of the rounds that were played before. -/
theorem stopped_of_played (logged : request.log = some log)
    (created : (Colony.create folder settings { entropy := entropy }).1 = .ok c)
    (opens : Opens folder request c) (counted : settings.rounds.toCount = .ok count)
    (before : playOn n c = (.ok (), mid)) (kept : after.reports = mid.reports)
    (stops : SamePlay ((.error fault, after) : Except Fault Unit × Colony)
      (played clock request count c)) :
    ∃ left, runSettings folder request settings clock entropy = (.error fault, left) ∧
      Stopped folder log c mid n left.folder := by
  obtain ⟨-, same, -⟩ := settled_of_created created
  have unreported := reports_of_created created
  have rows := isLog_recordAll unreported n request.deterministic
  have size := ((serial_of_unreported unreported).playOn n).2.2.1 (congrArg Prod.fst before)
  rw [before] at rows size
  rw [unreported] at size
  have size : mid.reports.size = n := size.trans (Nat.zero_add n)
  obtain ⟨written, whole, performed⟩ := perform_of_opens logged opens (same.symm ▸ counted) clock
  rw [stops.eq_error rfl] at performed
  rw [recorded_eq unreported, stops.game.reports, kept] at whole
  exact ⟨_, (runSettings_of_created created request clock).trans performed, size,
    _, rows, whole, Folder.find_of_writeText whole⟩

/-- What comes of the rounds of a run one of which fails, unless the clock could not wait before it. -/
theorem played_of_failure (unreported : c.reports = #[]) (earlier : n < count)
    (before : playOn n c = (.ok (), mid)) (failed : mid.step n = (.error fault, after))
    (waits : 0 < n → ∃ long, clock.pause c.settings.pause = .ok long) :
    SamePlay ((.error fault, after) : Except Fault Unit × Colony) (played clock request count c) := by
  have size := ((serial_of_unreported unreported).playOn n).2.2.1 (congrArg Prod.fst before)
  rw [before, unreported] at size
  have size : mid.reports.size = n := size.trans (Nat.zero_add n)
  obtain ⟨more, rfl⟩ := Nat.exists_eq_add_of_lt earlier
  have fails (more : Nat) : playOn (n + more + 1) c = (.error fault, after) := by
    rw [Nat.add_assoc, playOn_add, before]
    dsimp only
    rw [playOn, size, failed]
  cases paused : clock.pause c.settings.pause with
  | ok long =>
    rw [← fails more]
    exact played_samePlay unreported paused request (n + more + 1)
  | error cause =>
    -- So it is the first round, which comes before any pause.
    have first : n = 0 := by
      by_contra later
      obtain ⟨long, waited⟩ := waits (Nat.pos_of_ne_zero later)
      cases paused.symm.trans waited
    subst first
    have stops := played_of_restless unreported paused request (0 + more)
    have one : playOn 1 c = (.error fault, after) := fails 0
    rw [playOnce, one] at stops
    exact stops

/-- A batch run with a log and a summary. If it returns, the log has a header and a row for each round that
was asked for, and the summary tells of the same rounds. If a round fails, or the clock cannot wait after
the first one, the log has the rows of the rounds before, and nothing else was written. -/
theorem log_and_summary_agree (logged : request.log = some log) (summarised : request.summary = some path)
    (folder : Folder) (settings : Settings) (clock : Clock) (entropy : Entropy) :
    (∀ d left, runSettings folder request settings clock entropy = (.ok d, left) →
      ∃ c, (Colony.create folder settings { entropy := entropy }).1 = .ok c ∧
        Documents folder log path c d left.folder) ∧
    ∀ c (count : Nat), (Colony.create folder settings { entropy := entropy }).1 = .ok c →
      Opens folder request c → settings.rounds.toCount = .ok count →
      (∀ n mid fault after, n < count → (0 < n → ∃ long, clock.pause settings.pause = .ok long) →
        playOn n c = (.ok (), mid) → mid.step n = (.error fault, after) →
        ∃ left, runSettings folder request settings clock entropy = (.error fault, left) ∧
          Stopped folder log c mid n left.folder) ∧
      ∀ mid fault, clock.pause settings.pause = .error fault → playOn 1 c = (.ok (), mid) →
        ∃ left, runSettings folder request settings clock entropy = (.error fault, left) ∧
          Stopped folder log c mid 1 left.folder := by
  refine ⟨fun d left done => ?_, fun c count created opens counted => ⟨?_, ?_⟩⟩
  · cases created : (Colony.create folder settings { entropy := entropy }).1 with
    | ok c => exact ⟨c, rfl, documents_of_run logged summarised created done⟩
    | error fault =>
      rw [runSettings] at done
      generalize Colony.create folder settings { entropy := entropy } = result at created done
      obtain ⟨result, journal⟩ := result
      dsimp only at created
      subst created
      cases done
  · intro n mid fault after earlier waits before failed
    obtain ⟨-, same, -⟩ := settled_of_created created
    -- A round that fails has no report.
    have kept : after.reports = mid.reports := by
      rcases reports_step mid n with ⟨_, _, stepped, same⟩ | ⟨_, _, stepped, -⟩
      · cases failed.symm.trans stepped
        exact same
      · cases failed.symm.trans stepped
    exact stopped_of_played logged created opens counted before kept
      (played_of_failure (reports_of_created created) earlier before failed (same.symm ▸ waits))
  · intro mid fault restless before
    obtain ⟨valid, same, -⟩ := settled_of_created created
    have positive : 0 < (count : Int) := Settings.rounds_pos valid (Value.whole?_of_toCount counted)
    obtain ⟨more, rfl⟩ : ∃ more, count = more + 1 := ⟨count - 1, by omega⟩
    have stops := played_of_restless (reports_of_created created) (same.symm ▸ restless) request more
    rw [playOnce, before] at stops
    exact stopped_of_played logged created opens counted before rfl stops

end Runs

/-- A log and a summary without times. -/
def hopRequest : Request := ⟨some ⟨"", ["log.csv"]⟩, some ⟨"", ["summary.json"]⟩, true⟩

/-- The two rounds of the lane are logged and summed up. -/
theorem hopLane_documents : hopLane.population = 1 ∧
    ∃ d left, runSettings .empty hopRequest hopSettings = (.ok d, left) ∧
      Documents .empty ⟨"", ["log.csv"]⟩ ⟨"", ["summary.json"]⟩ hopLane d left.folder := by
  have returned : (runSettings .empty hopRequest hopSettings).1.isOk = true := by decide +kernel
  have logged : hopRequest.log = some ⟨"", ["log.csv"]⟩ := rfl
  have summarised : hopRequest.summary = some ⟨"", ["summary.json"]⟩ := rfl
  obtain ⟨returns, -⟩ := log_and_summary_agree logged summarised .empty hopSettings .system .still
  cases ran : runSettings .empty hopRequest hopSettings with
  | mk result left =>
    rw [ran] at returned
    cases result with
    | error fault => cases returned
    | ok d =>
      obtain ⟨c, created, documents⟩ := returns d left ran
      have same : hopLane = c := Except.ok.inj (hopLane_created.1.symm.trans created)
      exact ⟨hopLane_created.2, d, left, rfl, same ▸ documents⟩

end Vivarium.Batch
