import Vivarium.Proofs.Station.Command

/-!
# Which pictures can be sent

A broadcast supposes that the message of its picture has a text. All of a message has one but two values
of the settings, unless a number is too long: the seed, which may be bytes or have too many digits, and the
version, which may be of any kind.

1. `Picture.fault?_message`: what keeps a message from having a text.
2. `fault?_picture`: whether pictures can be sent does not change while a station is at work.
-/

namespace Vivarium

namespace Picture

variable {p : Picture}

/-- All that is counted in a picture has a text. -/
structure IsShort (p : Picture) : Prop where
  round : (Value.int p.round).isWritable = true
  report : ∀ r, p.report = some r → Json.fault? r.toValue = none
  figures : ∀ f ∈ p.figures, Json.fault? f.toValue = none
  width : Json.fault? p.width = none
  height : Json.fault? p.height = none

/-- A list has a text if its items have. -/
theorem itemFault?_eq_none {items : List Value} (each : ∀ v ∈ items, Json.fault? v = none) :
    Json.itemFault? items = none := by
  induction items with
  | nil => rfl
  | cons item rest ih =>
    obtain ⟨first, others⟩ := List.forall_mem_cons.1 each
    rw [Json.itemFault?, first, ih others]
    rfl

/-- Only the seed and the version can keep the message of a picture from having a text. -/
theorem fault?_message (short : p.IsShort) :
    Json.fault? p.message = (Json.fault? p.seed).or (Json.fault? p.version) := by
  have report : Json.fault? ((p.report.map Report.toValue).getD .null) = none := by
    cases known : p.report with
    | none => rfl
    | some r => exact short.report r known
  have figures : Json.itemFault? (p.figures.map Figure.toValue) = none :=
    itemFault?_eq_none (List.forall_mem_map.2 short.figures)
  have badges : Json.itemFault? (p.badges.map Badge.toValue) = none :=
    itemFault?_eq_none (List.forall_mem_map.2 fun b _ => rfl)
  simp [message, toValue, Value.fields, Json.fault?, Json.entryFault?, Json.keyFault?, short.round,
    short.width, short.height, report, figures, badges]

end Picture

namespace Station

open Colony

variable {c : Colony} {s : Station}

/-- The seed and the version in the picture of a station are those of its settings. -/
theorem Regular.seed_and_version (regular : Regular c s) :
    s.picture.seed = c.settings.seed ∧ s.picture.version = c.settings.version := by
  obtain ⟨folder, settings, entropy, created, -⟩ := regular.founded
  obtain ⟨-, roster, journal, empty, -, founded, done⟩ := create_eq_ok_iff.1 created
  have twin := (inhabit_settles empty).twin
  rw [done] at twin
  have whole := twin.trans regular.twin
  obtain ⟨generator, grid, seeded, -, rfl⟩ := made_of_unpopulated founded
  obtain ⟨origin, rfl, -⟩ := Generator.exists_origin seeded
  have seed : s.picture.seed = settings.seed := whole.seed
  have version : s.picture.version = settings.version := congrArg Settings.version whole.settings
  have same : c.settings = settings := twin.settings
  exact ⟨by rw [seed, same], by rw [version, same]⟩

/-- Whether the pictures of a station have a text depends on its settings, whatever it is told. -/
theorem fault?_picture {folder : Folder} {settings : Settings} {interval : Int} {entropy : Entropy}
    (created : create folder settings interval entropy = .ok s)
    (lasting : Lasting folder settings ({ entropy := entropy } : Founding)) (commands : List Command)
    (short : (s.obeyAll commands).picture.IsShort) :
    Json.fault? (s.obeyAll commands).picture.message =
      (Json.fault? settings.seed).or (Json.fault? settings.version) := by
  obtain ⟨founded, -⟩ := create_eq_ok created
  obtain ⟨-, same, -⟩ := settled_of_created founded
  obtain ⟨seed, version⟩ := ((regular_of_created created lasting).obeyAll commands).seed_and_version
  rw [Picture.fault?_message short, seed, version, same]

end Station

end Vivarium
