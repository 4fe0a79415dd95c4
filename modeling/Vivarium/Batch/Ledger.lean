import Vivarium.Colony.Round
import Vivarium.Json.Writer
import Vivarium.Text.Csv

/-!
# What a batch run records

The log has a header and a row for each round that was played; the summary tells how the run ended.
-/

namespace Vivarium.Batch

/-- What was recorded of a run so far. -/
structure Ledger where
  /-- The rows of the log, the header first. -/
  rows : Array String
  /-- The greatest number of creatures by label. -/
  peaks : Table String Nat
  infections : Nat

def header (labels : List String) : List String :=
  ["round", "population"] ++ labels ++ ["infections", "moves", "turns", "round_ms"]

/-- The fields of a round's row. A deterministic log shows no time. -/
def rowFields (labels : List String) (deterministic : Bool) (r : Report) : List String :=
  [toString r.round, toString r.population] ++
    labels.map (fun label => toString ((r.counts.get? label).getD 0)) ++
    [toString r.infections, toString r.moves, toString r.turns,
      s!"{if deterministic then 0 else r.milliseconds}.000"]

def raisePeaks (peaks : Table String Nat) (counts : Table String Nat) : Table String Nat :=
  counts.entries.foldl
    (fun peaks entry =>
      if (peaks.get? entry.1).getD 0 < entry.2 then peaks.insert entry.1 entry.2 else peaks)
    peaks

namespace Ledger

def start (c : Colony) : Ledger := ⟨#[Text.csvRow (header c.labels)], c.counts, 0⟩

def record (l : Ledger) (labels : List String) (deterministic : Bool) (r : Report) : Ledger where
  rows := l.rows.push (Text.csvRow (rowFields labels deterministic r))
  peaks := raisePeaks l.peaks r.counts
  infections := l.infections + r.infections

def log (l : Ledger) : String := String.join l.rows.toList

end Ledger

/-- Plays and records a number of rounds, the first under the given number, with a pause after
each. -/
def play (clock : Clock) (labels : List String) (deterministic : Bool) :
    Nat → Int → Colony → Ledger → Except Fault Unit × Colony × Ledger
  | 0, _, c, l => (.ok (), c, l)
  | count + 1, round, c, l =>
    match c.step round with
    | (.error fault, after) => (.error fault, after, l)
    | (.ok r, after) =>
      let recorded := l.record labels deterministic r
      match after.sleep clock after.settings.pause with
      | (.error fault, rested) => (.error fault, rested, recorded)
      | (.ok _, rested) => play clock labels deterministic count (round + 1) rested recorded

def summary (c : Colony) (l : Ledger) : Value :=
  let field (name : String) (value : Value) : Value × Value := (.text name, value)
  .map
    [field "rounds" c.settings.rounds, field "seed" c.settings.seed,
      field "world"
        (.map [field "width" c.settings.width, field "height" c.settings.height]),
      field "final_counts" c.counts.toValue,
      field "leader" ((c.leader.map Value.text).getD .null),
      field "total_infections" (.int l.infections),
      field "peak_counts" l.peaks.toValue]

end Vivarium.Batch
