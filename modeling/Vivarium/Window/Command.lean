import Vivarium.Options.Basic
import Vivarium.Text.Lines

/-!
# The window command line

The options of a run that is watched in a window, and how they are explained.
-/

namespace Vivarium.Window

def usage : String := Text.ofLines [
  "usage: darwin-viewer [-h] [--config CONFIG] [--rounds ROUNDS] [--seed SEED]",
  "                     [--count COUNT] [--pause PAUSE] [--cell-size CELL_SIZE]",
  "                     [--max-steps MAX_STEPS]",
  "                     [species ...]"]

def details : String := Text.ofLines [
  "Watch a Darwin simulation in a pygame window",
  "",
  "positional arguments:",
  "  species               Species files (bundled names such as Rover work too)",
  "",
  "options:",
  "  -h, --help            show this help message and exit",
  "  --config CONFIG       YAML configuration file",
  "  --rounds ROUNDS",
  "  --seed SEED",
  "  --count COUNT         Creatures per species",
  "  --pause PAUSE         Seconds to wait between rounds",
  "  --cell-size CELL_SIZE",
  "  --max-steps MAX_STEPS"]

def command : Options.Command where
  name := "darwin-viewer"
  usage := usage
  details := details
  options := [
    ⟨["-h", "--help"], .help⟩, ⟨["--config"], .word⟩, ⟨["--rounds"], .whole⟩,
    ⟨["--seed"], .whole⟩, ⟨["--count"], .whole⟩, ⟨["--pause"], .fraction⟩,
    ⟨["--cell-size"], .whole⟩, ⟨["--max-steps"], .whole⟩]

end Vivarium.Window
