import Vivarium.Proofs.Settings.Validation
import Vivarium.Settings.Reader

/-!
# What settings a map gives

A map of settings has maps for its sections and texts for its species. Any of its keys may be missing.

1. `Sections.ofEntries_eq`: such a map is read by checking its keys, section by section. If all of them
   are known (`Known`), the settings are the values that are given, and the usual ones for the others
   (`filled`).
2. `ofValue_accepts`: it gives settings if all keys are known and the figures satisfy the rules, and
   what is wrong otherwise; but a number that is too long is not told of.
-/

namespace Vivarium.Settings

variable {fault : Fault} {entries world population : List (Value × Value)} {files : List String}

/-! ## Keys -/

/-- Every key is one of the names. -/
def KnownKeys (names : List String) (entries : List (Value × Value)) : Prop :=
  ∀ entry ∈ entries, ∃ key ∈ names, entry.1 = .text key

theorem keyFault?_eq_none_iff {section_ key : String} {known : List String}
    (free : takenKey ∉ known) : keyFault? section_ known (.text key) = none ↔ key ∈ known := by
  rw [keyFault?]
  by_cases taken : key = takenKey
  · subst taken
    rw [if_pos rfl]
    exact ⟨fun none => (nomatch none), fun listed => absurd listed free⟩
  · rw [if_neg taken]
    split
    · next listed => exact ⟨fun _ => listed, fun _ => rfl⟩
    · next strange => exact ⟨fun none => (nomatch none), fun listed => absurd listed strange⟩

theorem checkKeys_cases (section_ : String) (known : List String) (entries : List (Value × Value)) :
    checkKeys section_ known entries = .ok () ∨
      ∃ cause, checkKeys section_ known entries = .error (.badSettings cause) := by
  rw [checkKeys]
  split
  · exact .inr ⟨_, rfl⟩
  · split
    · exact .inr ⟨_, rfl⟩
    · exact .inl rfl

/-- The keys of a section are checked one by one. -/
theorem checkKeys_eq_ok_iff {section_ : String} {known : List String} (free : takenKey ∉ known) :
    checkKeys section_ known entries = .ok () ↔ KnownKeys known entries := by
  rw [checkKeys]
  split
  · next strange =>
    refine ⟨fun passed => (nomatch passed), fun all => ?_⟩
    obtain ⟨entry, listed, other⟩ := List.any_eq_true.1 strange
    obtain ⟨key, -, same⟩ := all entry listed
    rw [same] at other
    cases other
  · next texts =>
    have text (entry : Value × Value) (listed : entry ∈ entries) : ∃ key, entry.1 = .text key := by
      by_contra other
      refine texts (List.any_eq_true.2 ⟨entry, listed, ?_⟩)
      cases key : entry.1 with
      | text key' => exact absurd ⟨key', key⟩ other
      | _ => rfl
    split
    · next cause found =>
      refine ⟨fun passed => (nomatch passed), fun all => ?_⟩
      obtain ⟨entry, listed, faulty⟩ := List.exists_of_findSome?_eq_some found
      obtain ⟨key, known, same⟩ := all entry listed
      rw [same, (keyFault?_eq_none_iff free).2 known] at faulty
      cases faulty
    · next fine =>
      refine ⟨fun _ entry listed => ?_, fun _ => rfl⟩
      obtain ⟨key, same⟩ := text entry listed
      have passed := List.findSome?_eq_none_iff.1 fine entry listed
      rw [same] at passed
      exact ⟨key, (keyFault?_eq_none_iff free).1 passed, same⟩

/-- What is looked up under a name is not changed by taking other names out. -/
theorem lookup_filter {key : String} {names : List String} (other : key ∉ names)
    (entries : List (Value × Value)) :
    Value.lookup key (entries.filter fun entry => !isOneOf names entry.1) = Value.lookup key entries := by
  induction entries with
  | nil => rfl
  | cons entry rest ih =>
    obtain ⟨k, v⟩ := entry
    cases k with
    | text k =>
      by_cases out : k ∈ names
      · have apart : k ≠ key := fun same => other (same ▸ out)
        rw [List.filter_cons_of_neg (by simp [isOneOf, out]), ih, Value.lookup, if_neg apart]
      · rw [List.filter_cons_of_pos (by simp [isOneOf, out]), Value.lookup, Value.lookup, ih]
    | _ => exact ih

/-- The keys of a map are known if those outside of some names are. -/
theorem knownKeys_filter_iff {names known : List String} :
    KnownKeys known (entries.filter fun entry => !isOneOf names entry.1) ↔
      KnownKeys (names ++ known) entries := by
  constructor
  · intro all entry listed
    by_cases out : isOneOf names entry.1 = true
    · cases key : entry.1 with
      | text k =>
        rw [key] at out
        exact ⟨k, List.mem_append_left known (of_decide_eq_true out), rfl⟩
      | _ =>
        rw [key] at out
        cases out
    · obtain ⟨key, listed', same⟩ := all entry (List.mem_filter.2 ⟨listed, by simpa using out⟩)
      exact ⟨key, List.mem_append_right names listed', same⟩
  · intro all entry listed
    obtain ⟨listed, inside⟩ := List.mem_filter.1 listed
    obtain ⟨key, either, same⟩ := all entry listed
    refine ⟨key, (List.mem_append.1 either).resolve_left fun out => ?_, same⟩
    rw [same, isOneOf, decide_eq_true out] at inside
    cases inside

/-! ## Maps of settings -/

/-- A map of settings: its sections are maps, which may be missing, and its species are texts. -/
structure Sections (entries world population : List (Value × Value)) (files : List String) : Prop where
  inWorld : section? "world" entries = .map world
  inPopulation : section? "population" entries = .map population
  species : (Value.lookup "species_files" population).getD (.list []) = .list (files.map .text)

/-- All keys of a map of settings are known. -/
structure Known (entries world population : List (Value × Value)) : Prop where
  plain : KnownKeys (["world", "population"] ++ plainKeys) entries
  inWorld : KnownKeys worldKeys world
  inPopulation : KnownKeys (["species_files"] ++ populationKeys) population

def given (key : String) (entries : List (Value × Value)) (usual : Value) : Value :=
  (Value.lookup key entries).getD usual

/-- The settings of a map, with the usual values where it has none. -/
def filled (entries world population : List (Value × Value)) (files : List String) : Settings where
  seed := given "seed" entries default.seed
  rounds := given "rounds" entries default.rounds
  pause := given "pause_seconds" entries default.pause
  turnLimit := given "max_steps_per_turn" entries default.turnLimit
  version := given "config_version" entries default.version
  width := given "width" world default.width
  height := given "height" world default.height
  count := given "creatures_per_species" population default.count
  speciesFiles := files

/-- Texts are written as they are. -/
theorem mapM_written (files : List String) :
    (files.map Value.text).mapM Value.written = .ok files := by
  induction files with
  | nil => rfl
  | cons file rest ih =>
    rw [List.map_cons, List.mapM_cons, ih]
    rfl

namespace Sections

variable (sections : Sections entries world population files)
include sections

theorem worldEntries_eq : worldEntries (section? "world" entries) = (do
    checkKeys "WorldConfig" worldKeys world
    return world) := by
  rw [sections.inWorld]
  rfl

theorem populationEntries_eq : populationEntries (section? "population" entries) = (do
    let rest := population.filter fun entry => !isOneOf ["species_files"] entry.1
    checkKeys "PopulationConfig" populationKeys rest
    return (files, rest)) := by
  have opened : entriesOf (.map population) = .ok population := rfl
  have items : itemsOf (.list (files.map .text)) = .ok (files.map .text) := rfl
  rw [populationEntries, sections.inPopulation, opened]
  simp only [bind, Except.bind, sections.species, items, mapM_written]

/-- A map of settings is read by checking the keys of its sections, then its own. -/
theorem ofEntries_eq : ofEntries entries = (do
    checkKeys "WorldConfig" worldKeys world
    checkKeys "PopulationConfig" populationKeys
      (population.filter fun entry => !isOneOf ["species_files"] entry.1)
    checkKeys "SimulationConfig" plainKeys
      (entries.filter fun entry => !isOneOf ["world", "population"] entry.1)
    return filled entries world population files) := by
  simp only [ofEntries, sections.worldEntries_eq, sections.populationEntries_eq, bind_assoc, pure_bind,
    filled, given]
  rw [lookup_filter (by decide), lookup_filter (by decide), lookup_filter (by decide),
    lookup_filter (by decide), lookup_filter (by decide), lookup_filter (by decide)]

/-- A map of settings with known keys is filled in. -/
theorem ofEntries_of_known (known : Known entries world population) :
    ofEntries entries = .ok (filled entries world population files) := by
  rw [sections.ofEntries_eq, (checkKeys_eq_ok_iff (by decide)).2 known.inWorld,
    (checkKeys_eq_ok_iff (by decide)).2 (knownKeys_filter_iff.2 known.inPopulation),
    (checkKeys_eq_ok_iff (by decide)).2 (knownKeys_filter_iff.2 known.plain)]
  rfl

/-- Any other is refused, for a key. -/
theorem ofEntries_of_unknown (unknown : ¬Known entries world population) :
    ∃ cause, ofEntries entries = .error (.badSettings cause) := by
  rw [sections.ofEntries_eq]
  rcases checkKeys_cases "WorldConfig" worldKeys world with inWorld | ⟨cause, failed⟩
  · rcases checkKeys_cases "PopulationConfig" populationKeys
      (population.filter fun entry => !isOneOf ["species_files"] entry.1) with
      inPopulation | ⟨cause, failed⟩
    · rcases checkKeys_cases "SimulationConfig" plainKeys
        (entries.filter fun entry => !isOneOf ["world", "population"] entry.1) with
        plain | ⟨cause, failed⟩
      · refine absurd ⟨?_, ?_, ?_⟩ unknown
        · exact knownKeys_filter_iff.1 ((checkKeys_eq_ok_iff (by decide)).1 plain)
        · exact (checkKeys_eq_ok_iff (by decide)).1 inWorld
        · exact knownKeys_filter_iff.1 ((checkKeys_eq_ok_iff (by decide)).1 inPopulation)
      · rw [inWorld, inPopulation, failed]
        exact ⟨cause, rfl⟩
    · rw [inWorld, failed]
      exact ⟨cause, rfl⟩
  · rw [failed]
    exact ⟨cause, rfl⟩

end Sections

/-! ## Maps with whole numbers -/

section Planned

variable {s t : Settings} {p : Plan}

/-- Settings are given as they are, if they pass validation. -/
def validated (s : Settings) : Except Fault Settings := do
  s.validate
  return s

theorem validated_eq_ok_iff : s.validated = .ok t ↔ s.validate = .ok () ∧ t = s := by
  constructor
  · intro passed
    obtain ⟨_, valid, same⟩ := Fault.exists_of_bind_eq_ok passed
    exact ⟨valid, (Except.ok.inj same).symm⟩
  · rintro ⟨valid, rfl⟩
    rw [validated, valid]
    rfl

theorem validated_eq_error_iff : s.validated = .error fault ↔ s.validate = .error fault := by
  constructor
  · intro failed
    rcases Fault.cases_of_bind_eq_error failed with invalid | ⟨_, _, done⟩
    · exact invalid
    · cases done
  · intro invalid
    rw [validated, invalid]
    rfl

theorem Planned.validated_iff (planned : s.Planned p) : s.validated = .ok t ↔ p.Fits ∧ t = s := by
  rw [validated_eq_ok_iff, planned.validate_iff]

theorem Planned.validated_eq_error (planned : s.Planned p) (failed : s.validated = .error fault) :
    fault.isConfiguration = true ∨ fault = .unwritable ∧ ∃ v ∈ s.told, v.isWritable = false :=
  planned.validate_eq_error (validated_eq_error_iff.1 failed)

/-- A map is read, and then validated. -/
theorem ofValue_of_opened {v : Value} (opened : v.opened = .map entries) :
    ofValue v = ofEntries entries >>= validated := by
  rw [ofValue, opened]
  rfl

/-- What a map of settings with whole numbers gives. -/
theorem Sections.ofValue_iff (sections : Sections entries world population files)
    (planned : (filled entries world population files).Planned p) : ofValue (.map entries) = .ok t ↔
      Known entries world population ∧ p.Fits ∧ t = filled entries world population files := by
  rw [ofValue_of_opened rfl]
  by_cases known : Known entries world population
  · rw [sections.ofEntries_of_known known]
    exact planned.validated_iff.trans (and_iff_right known).symm
  · obtain ⟨cause, refused⟩ := sections.ofEntries_of_unknown known
    rw [refused]
    exact ⟨fun done => (nomatch done), fun all => absurd all.1 known⟩

theorem Sections.ofValue_eq_error (sections : Sections entries world population files)
    (planned : (filled entries world population files).Planned p)
    (failed : ofValue (.map entries) = .error fault) :
    fault.isConfiguration = true ∨
      fault = .unwritable ∧
        ∃ v ∈ (filled entries world population files).told, v.isWritable = false := by
  rw [ofValue_of_opened rfl] at failed
  by_cases known : Known entries world population
  · rw [sections.ofEntries_of_known known] at failed
    exact planned.validated_eq_error failed
  · obtain ⟨cause, refused⟩ := sections.ofEntries_of_unknown known
    rw [refused] at failed
    cases failed
    exact .inl rfl

/-- A map of settings with whole numbers gives settings if its keys are known and its figures satisfy
the rules. These are then its own values, and the usual ones where it has none. Otherwise the fault
says what is wrong, unless it would tell of a number that is too long to be written. -/
theorem ofValue_accepts (sections : Sections entries world population files)
    (planned : (filled entries world population files).Planned p) :
    (∀ s, ofValue (.map entries) = .ok s ↔
      Known entries world population ∧ p.Fits ∧ s = filled entries world population files) ∧
    ∀ fault, ofValue (.map entries) = .error fault →
      fault.isConfiguration = true ∨
        fault = .unwritable ∧
          ∃ v ∈ (filled entries world population files).told, v.isWritable = false :=
  ⟨fun _ => sections.ofValue_iff planned, fun _ failed => sections.ofValue_eq_error planned failed⟩

/-- A map of settings in which most keys are missing. -/
def laneEntries : List (Value × Value) :=
  [(.text "rounds", .int 7), (.text "world", .map [(.text "height", .int 1)]),
    (.text "population", .map [(.text "species_files", .list [.text "Rover"])])]

/-- What is given stands, and the usual values with it. -/
theorem laneEntries_accepted : ∃ s, ofValue (.map laneEntries) = .ok s ∧ s.rounds.whole? = some 7 ∧
    s.width.whole? = some 15 ∧ s.height.whole? = some 1 := by
  have sections : Sections laneEntries [(.text "height", .int 1)]
      [(.text "species_files", .list [.text "Rover"])] ["Rover"] := ⟨rfl, rfl, rfl⟩
  have known : Known laneEntries [(.text "height", .int 1)]
      [(.text "species_files", .list [.text "Rover"])] := by
    constructor <;> simp [KnownKeys, laneEntries, plainKeys, worldKeys, populationKeys]
  let p : Plan := ⟨15, 1, 7, .double (Decimal.nearest false ⟨1, 2⟩), none, 10, 1⟩
  have fits : p.Fits := ⟨by decide, by decide, by decide, usualPause_nonneg, nofun, by decide, by decide⟩
  refine ⟨_, ((ofValue_accepts sections (p := p) ⟨rfl, rfl, rfl, rfl, rfl, rfl, rfl⟩).1 _).2
    ⟨known, fits, rfl⟩, rfl, rfl, rfl⟩

/-- A section that asks for so many creatures of each of two species. -/
def crowd (count : Nat) : List (Value × Value) :=
  [(.text "creatures_per_species", .int count),
    (.text "species_files", .list [.text "Hop", .text "Food"])]

def crowdEntries (count : Nat) : List (Value × Value) := [(.text "population", .map (crowd count))]

theorem crowd_sections (count : Nat) : Sections (crowdEntries count) [] (crowd count) ["Hop", "Food"] :=
  ⟨rfl, rfl, rfl⟩

theorem crowd_known (count : Nat) : Known (crowdEntries count) [] (crowd count) := by
  constructor <;> simp [KnownKeys, crowdEntries, crowd, populationKeys]

/-- Twice as many creatures as there is no room for, and as cannot be told. -/
theorem ofValue_crowdEntries {count : Nat} (more : 225 < 2 * count)
    (long : (Value.int (count * 2)).isWritable = false) :
    ofValue (.map (crowdEntries count)) = .error .unwritable := by
  let crowded : Settings := filled (crowdEntries count) [] (crowd count) ["Hop", "Food"]
  have counted : (Value.int count).lt (.int 0) = .ok false :=
    (Value.lt_zero_iff rfl).2 (Int.natCast_nonneg count)
  have compared : (Value.int (count * 2)).gt (.int (15 * 15)) = .ok true := by
    rw [Value.gt_of_whole rfl rfl, decide_eq_true (by omega)]
  have untold : Value.untold? [.int (count * 2), .int 15, .int 15] = some .unwritable := by
    rw [Value.untold?, List.findSome?_cons, Value.roomToTell, Value.flaw?_of_number rfl, long]
    rfl
  have lapse : crowded.Lapse .unwritable :=
    .crowded (forall_figures_iff.2 ⟨rfl, rfl, rfl, rfl, .inl rfl, counted⟩) rfl rfl compared untold
  rw [ofValue_of_opened rfl, (crowd_sections count).ofEntries_of_known (crowd_known count)]
  exact validated_eq_error_iff.2 (lapse_iff.1 lapse).1

/-- The longest number of creatures that can be told, of each of two species: there is no room for them,
but that is not what the fault says. -/
theorem crowd_untold :
    let count := Nat.pow 10 4300 - 1
    Sections (crowdEntries count) [] (crowd count) ["Hop", "Food"] ∧
      Known (crowdEntries count) [] (crowd count) ∧
      ofValue (.map (crowdEntries count)) = .error .unwritable ∧
      Fault.unwritable.isConfiguration = false :=
  ⟨crowd_sections _, crowd_known _, ofValue_crowdEntries (by decide +kernel) (by decide +kernel), rfl⟩

end Planned

end Vivarium.Settings
