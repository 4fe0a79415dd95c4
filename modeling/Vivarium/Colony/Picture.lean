import Vivarium.Colony.Census
import Vivarium.Json.Writer

/-!
# Pictures of a colony

A picture shows a colony to a client: its last report, where its creatures stand, and what its
species look like. It is sent as JSON, with its fields in a fixed order.
-/

namespace Vivarium

structure Figure where
  id : Int
  position : Position
  direction : Direction
  species : String
  glyph : Char
  color : String
  counter : Int
deriving DecidableEq, Repr

structure Badge where
  label : String
  glyph : Char
  color : String
deriving DecidableEq, Repr

structure Picture where
  round : Int
  report : Option Report
  figures : List Figure
  width : Value
  height : Value
  seed : Value
  version : Value
  badges : List Badge

namespace Colony

variable {κ : Type}

/-- The figure of a creature. A species that is not in the roster is shown by its name. -/
def figure (labels : List String) (c : Creature) : Figure where
  id := c.id
  position := c.position
  direction := c.direction
  species := labels[c.lineage.number]?.getD c.species.name
  glyph := c.species.glyph
  color := c.species.color
  counter := c.counter

def picture (c : Colony κ) (round : Int) : Picture where
  round := round
  report := c.reports.back?
  figures := c.board.creatures.toList.map (figure c.labels)
  width := c.settings.width
  height := c.settings.height
  seed := c.board.coin.generator.seed
  version := c.settings.version
  badges := (c.labels.zip c.roster.toList).map fun (label, s) => ⟨label, s.glyph, s.color⟩

end Colony

/-! ## Pictures as values -/

def Value.fields (entries : List (String × Value)) : Value :=
  .map (entries.map fun entry => (.text entry.1, entry.2))

def Value.char (c : Char) : Value := .text (String.singleton c)

def Report.toValue (r : Report) : Value :=
  .fields
    [("round", .int r.round), ("population", .int r.population),
      ("species_counts", r.counts.toValue), ("infections", .int r.infections),
      ("moves", .int r.moves), ("turns", .int r.turns), ("actions", r.actions.toValue),
      ("round_duration_ms", .float (Decimal.nearest false ⟨r.milliseconds, 1⟩))]

def Figure.toValue (f : Figure) : Value :=
  .fields
    [("id", .int f.id), ("x", .int f.position.x), ("y", .int f.position.y),
      ("direction", .text f.direction.name), ("species", .text f.species),
      ("glyph", .char f.glyph), ("color", .text f.color), ("next_instruction", .int f.counter)]

def Badge.toValue (b : Badge) : Value :=
  .fields [("name", .text b.label), ("glyph", .char b.glyph), ("color", .text b.color)]

namespace Picture

def toValue (p : Picture) : Value :=
  .fields
    [("round", .int p.round), ("metrics", (p.report.map Report.toValue).getD .null),
      ("creatures", .list (p.figures.map Figure.toValue)),
      ("world", .fields [("width", p.width), ("height", p.height)]),
      ("metadata",
        .fields
          [("seed", p.seed), ("config_version", p.version),
            ("species", .list (p.badges.map Badge.toValue))])]

def message (p : Picture) : Value :=
  .fields [("type", .text "snapshot"), ("round", .int p.round), ("payload", p.toValue)]

def text (p : Picture) : String := Json.write Json.spaced p.message

end Picture

end Vivarium
