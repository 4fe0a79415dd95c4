import Vivarium.Proofs.Settings.Reading
import Vivarium.Settings.File

/-!
# Settings from a file and from the run

A run takes its settings from a file, if it has one, and replaces some of them by its own values. The
settings of the file must satisfy the rules by themselves, before anything is replaced.

1. `load_of_holds`: a file that holds a map of settings gives what the map gives.
2. `build_accepts`: when a run gets settings, which ones, and how it fails.
3. `stalledFile_not_rescued`: values of the run do not make up for a file that breaks a rule.
-/

namespace Vivarium.Settings

variable {folder : Folder} {path : Path} {entries : List (Value × Value)} {read : DocumentReader}

/-- The file at a path holds a map of settings, as a reader of documents has it. A file without content
holds the empty map. -/
def Holds (read : DocumentReader) (folder : Folder) (path : Path) (entries : List (Value × Value)) :
    Prop :=
  ∃ text value, folder.readText path = .ok text ∧ read text = .ok value ∧
    (if value.isEmpty then .map [] else value) = .map entries

theorem load_of_holds (holds : Holds read folder path entries) :
    load folder path read = ofValue (.map entries) := by
  obtain ⟨text, value, opened, known, map⟩ := holds
  rw [load, opened]
  show ofText text read = _
  rw [ofText, known, ← map]
  rfl

/-- With a file that holds a map of settings, its keys known and its figures whole numbers, and with
whole numbers of its own, a run gets settings if the file's satisfy the rules, and so do those in which
the run's values stand in for the file's; and it gets the latter. Without a file, only those count that
the run has put its values in. Otherwise the fault says what is wrong, unless it would tell of a number
that is too long to be written. How documents are read does not matter. -/
theorem build_accepts :
    (∀ (read : DocumentReader) (folder : Folder) (path : Path)
      (entries world population : List (Value × Value)) (files : List String) (o : Overrides)
      (p q : Plan), Holds read folder path entries →
      Sections entries world population files → Known entries world population →
      (filled entries world population files).Planned p →
      (o.apply (filled entries world population files)).Planned q →
      (∀ s, build folder (some path) o read = .ok s ↔
        p.Fits ∧ q.Fits ∧ s = o.apply (filled entries world population files)) ∧
      ∀ fault, build folder (some path) o read = .error fault →
        fault.isConfiguration = true ∨
          fault = .unwritable ∧ ∃ v ∈ (filled entries world population files).told ++
            (o.apply (filled entries world population files)).told, v.isWritable = false) ∧
    ∀ (read : DocumentReader) (folder : Folder) (o : Overrides) (q : Plan),
      (o.apply unpaused).Planned q →
      (∀ s, build folder none o read = .ok s ↔ q.Fits ∧ s = o.apply unpaused) ∧
      ∀ fault, build folder none o read = .error fault →
        fault.isConfiguration = true ∨
          fault = .unwritable ∧ ∃ v ∈ (o.apply unpaused).told, v.isWritable = false := by
  constructor
  · intro read folder path entries world population files o p q holds sections known planned merged
    have built : build folder (some path) o read = ofValue (.map entries) >>= override o := by
      rw [build, ← load_of_holds holds]
    rw [built]
    constructor
    · intro s
      constructor
      · intro given
        obtain ⟨base, loaded, given⟩ := Fault.exists_of_bind_eq_ok given
        obtain ⟨-, fits, rfl⟩ := (sections.ofValue_iff planned).1 loaded
        obtain ⟨fits', same⟩ := merged.validated_iff.1 given
        exact ⟨fits, fits', same⟩
      · rintro ⟨fits, fits', same⟩
        rw [(sections.ofValue_iff planned).2 ⟨known, fits, rfl⟩]
        exact merged.validated_iff.2 ⟨fits', same⟩
    · intro fault failed
      rcases Fault.cases_of_bind_eq_error failed with unloaded | ⟨base, loaded, failed⟩
      · refine (sections.ofValue_eq_error planned unloaded).imp id fun ⟨same, v, told, long⟩ => ?_
        exact ⟨same, v, List.mem_append_left _ told, long⟩
      · obtain ⟨-, -, rfl⟩ := (sections.ofValue_iff planned).1 loaded
        refine (merged.validated_eq_error failed).imp id fun ⟨same, v, told, long⟩ => ?_
        exact ⟨same, v, List.mem_append_right _ told, long⟩
  · intro _ folder o q merged
    exact ⟨fun s => merged.validated_iff, fun fault failed => merged.validated_eq_error failed⟩

/-! ## Files that set the number of rounds -/

/-- A document that sets the number of rounds, of one digit. -/
def roundsText (digit : Char) : List Char := "rounds: ".toList ++ [digit, '\n']

def roundsFolder (digit : Char) : Folder :=
  Folder.empty.put ⟨.above 0, ["run.yaml"]⟩ (.file (String.ofList (roundsText digit)).toUTF8)

def roundsPath : Path := .ofText "run.yaml"

def roundsEntries (n : Int) : List (Value × Value) := [(.text "rounds", .int n)]

/-- Whether a document was read that has this in it. -/
def isRounds (n : Int) : Except Fault Value → Bool
  | .ok (.map [(.text key, .int m)]) => key == "rounds" && m == n
  | _ => false

theorem eq_of_isRounds {n : Int} {result : Except Fault Value} (checked : isRounds n result = true) :
    result = .ok (.map (roundsEntries n)) := by
  unfold isRounds at checked
  split at checked
  · rw [Bool.and_eq_true, beq_iff_eq, beq_iff_eq] at checked
    rw [checked.1, checked.2]
    rfl
  · cases checked

theorem roundsEntries_sections (n : Int) : Sections (roundsEntries n) [] [] [] := ⟨rfl, rfl, rfl⟩

theorem roundsEntries_known (n : Int) : Known (roundsEntries n) [] [] := by
  constructor <;> simp [KnownKeys, roundsEntries, plainKeys]

/-- The plan of the settings in such a file. -/
def roundsPlan (n : Int) : Plan where
  width := 15
  height := 15
  rounds := n
  pause := .double (Decimal.nearest false ⟨1, 2⟩)
  turnLimit := none
  count := 10
  species := 0

theorem roundsEntries_planned (n : Int) :
    (filled (roundsEntries n) [] [] []).Planned (roundsPlan n) :=
  ⟨rfl, rfl, rfl, rfl, rfl, rfl, rfl⟩

theorem roundsPlan_fits {n : Int} (positive : 0 < n) : (roundsPlan n).Fits where
  width := Int.natCast_pos.2 (Nat.succ_pos 14)
  height := Int.natCast_pos.2 (Nat.succ_pos 14)
  rounds := positive
  pause := usualPause_nonneg
  turnLimit _ set := nomatch set
  count := Int.natCast_nonneg 10
  room := Int.natCast_nonneg 225

/-- A run of three rounds by its file, on a row of seven squares by its own values. -/
theorem roundsFile_replaced :
    ∃ s, build (roundsFolder '3') (some roundsPath) { width := some (.int 7), height := some (.int 1) } =
      .ok s ∧ s.rounds = .int 3 ∧ s.width = .int 7 := by
  have holds : Holds Document.read (roundsFolder '3') roundsPath (roundsEntries 3) :=
    ⟨roundsText '3', _, rfl, eq_of_isRounds (by decide +kernel), rfl⟩
  have fits : ({ roundsPlan 3 with width := 7, height := 1 } : Plan).Fits :=
    { roundsPlan_fits (n := 3) (by decide) with
      width := by decide
      height := by decide
      room := by decide }
  obtain ⟨accepted, -⟩ := build_accepts.1 _ _ _ _ _ _ _
    { width := some (.int 7), height := some (.int 1) } _ { roundsPlan 3 with width := 7, height := 1 }
    holds (roundsEntries_sections 3) (roundsEntries_known 3) (roundsEntries_planned 3)
    ⟨rfl, rfl, rfl, rfl, rfl, rfl, rfl⟩
  exact ⟨_, (accepted _).2 ⟨roundsPlan_fits (by decide), fits, rfl⟩, rfl, rfl⟩

/-- A file without rounds is refused, although with the number of rounds that the run gives instead the
settings satisfy the rules. -/
theorem stalledFile_not_rescued :
    Holds Document.read (roundsFolder '0') roundsPath (roundsEntries 0) ∧
      (Overrides.apply { rounds := some (.int 5) } (filled (roundsEntries 0) [] [] [])).validate =
        .ok () ∧
      build (roundsFolder '0') (some roundsPath) { rounds := some (.int 5) } =
        .error (.badRounds (.int 0)) := by
  have holds : Holds Document.read (roundsFolder '0') roundsPath (roundsEntries 0) :=
    ⟨roundsText '0', _, rfl, eq_of_isRounds (by decide +kernel), rfl⟩
  have merged : (Overrides.apply { rounds := some (.int 5) }
      (filled (roundsEntries 0) [] [] [])).Planned (roundsPlan 5) := ⟨rfl, rfl, rfl, rfl, rfl, rfl, rfl⟩
  refine ⟨holds, merged.validate_iff.2 (roundsPlan_fits (by decide)), ?_⟩
  have told : Fault.telling (.badRounds (.int 0)) [.int 0] = .badRounds (.int 0) :=
    Fault.telling_of_told _ (by decide +kernel)
  have checked : (filled (roundsEntries 0) [] [] []).checkRounds = .error (.badRounds (.int 0)) :=
    congrArg Except.error told
  have invalid : (filled (roundsEntries 0) [] [] []).validated = .error (.badRounds (.int 0)) := by
    rw [validated, validate, checked]
    rfl
  have loaded : load (roundsFolder '0') roundsPath = .error (.badRounds (.int 0)) := by
    rw [load_of_holds holds, ofValue_of_opened rfl,
      (roundsEntries_sections 0).ofEntries_of_known (roundsEntries_known 0)]
    exact invalid
  rw [build, loaded]
  rfl

end Vivarium.Settings
