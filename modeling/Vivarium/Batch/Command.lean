import Vivarium.Options.Basic
import Vivarium.Text.Lines

/-!
# The batch command line

The options of a run without a display, and how they are explained.
-/

namespace Vivarium.Batch

def usage : String := Text.ofLines [
  "usage: darwin-headless [-h] [--config CONFIG] [--rounds ROUNDS] [--seed SEED]",
  "                       [--width WIDTH] [--height HEIGHT] [--count COUNT]",
  "                       [--max-steps MAX_STEPS] [--pause PAUSE] [--log LOG]",
  "                       [--summary SUMMARY] [--deterministic-log] [-v]",
  "                       [species ...]"]

def details : String := Text.ofLines [
  "Headless Darwin creature simulation",
  "",
  "positional arguments:",
  "  species               Species files (bundled names such as Rover work too)",
  "",
  "options:",
  "  -h, --help            show this help message and exit",
  "  --config CONFIG       YAML configuration file",
  "  --rounds ROUNDS",
  "  --seed SEED",
  "  --width WIDTH",
  "  --height HEIGHT",
  "  --count COUNT         Creatures per species",
  "  --max-steps MAX_STEPS",
  "                        Abort a turn after this many instructions without an",
  "                        action (default: unbounded).",
  "  --pause PAUSE         Seconds to wait between rounds",
  "  --log LOG             CSV file to write per-round counts",
  "  --summary SUMMARY     Optional JSON file with the final summary.",
  "  --deterministic-log   Write deterministic CSV (round_ms is forced to 0.000",
  "                        so identical seeds match).",
  "  -v, --verbose         Log every round"]

def command : Options.Command where
  name := "darwin-headless"
  usage := usage
  details := details
  options := [
    ⟨["-h", "--help"], .help⟩, ⟨["--config"], .word⟩, ⟨["--rounds"], .whole⟩,
    ⟨["--seed"], .whole⟩, ⟨["--width"], .whole⟩, ⟨["--height"], .whole⟩, ⟨["--count"], .whole⟩,
    ⟨["--max-steps"], .whole⟩, ⟨["--pause"], .fraction⟩, ⟨["--log"], .word⟩,
    ⟨["--summary"], .word⟩, ⟨["--deterministic-log"], .switch⟩, ⟨["-v", "--verbose"], .switch⟩]

end Vivarium.Batch
