import Mathlib.Data.List.Forall2
import Vivarium.Proofs.Species.Grammar
import Vivarium.Proofs.Text.Numeral
import Vivarium.Species.Printer

/-!
# Printed species are read back

1. `spells_text`: an instruction is what its text spells, if its target is not too long.
2. `Printable`: the species whose text is read back. `printable_of_read`: all that are read from some text are
   among them.
3. `printed_is_read_back`: to print a species and to read it again gives the same species.
-/

namespace Vivarium.Species

variable {s : Species} {step : Instruction} {source : Option String} {text : List Char}

/-! ## Instructions -/

theorem means_mnemonic (opcode : Opcode) : Means opcode.mnemonic.toList opcode := by
  unfold Means
  rcases opcode with action | condition
  · cases action <;> rfl
  · cases condition <;> rfl

theorem isBlank_mnemonic (opcode : Opcode) : ∀ c ∈ opcode.mnemonic.toList, Text.isBlank c = false := by
  intro c listed
  obtain ⟨low, high, -⟩ := plain_mnemonic opcode c listed
  exact Text.isBlank_of_le (by omega) (by omega)

theorem mnemonic_ne_nil (opcode : Opcode) : opcode.mnemonic.toList ≠ [] := by
  rcases opcode with action | condition
  · cases action <;> decide
  · cases condition <;> decide

theorem isBlank_toDigits (n : Nat) : ∀ c ∈ Nat.toDigits 10 n, Text.isBlank c = false := by
  intro c listed
  obtain ⟨low, high⟩ := Text.toNat_of_isDigit (Nat.isDigit_of_mem_toDigits (by decide) (by decide) listed)
  exact Text.isBlank_of_le (by omega) (by omega)

theorem toList_text_jump (condition : Condition) (target : Nat) (target_pos : 0 < target) :
    (Instruction.jump condition target target_pos).text.toList =
      condition.mnemonic.toList ++ ' ' :: Nat.toDigits 10 target := by
  have parts : (Instruction.jump condition target target_pos).text =
      condition.mnemonic ++ " " ++ target.repr := rfl
  rw [parts, String.toList_append, String.toList_append, Nat.toList_repr, List.append_assoc]
  rfl

/-- The only blank in the text of an instruction is a space. -/
theorem unbroken_text (step : Instruction) : ∀ c ∈ step.text.toList, Text.isLineBreak c = false := by
  intro c listed
  cases step with
  | act action => exact Text.isLineBreak_of_not_isBlank (isBlank_mnemonic (.act action) c listed)
  | jump condition target target_pos =>
    rw [toList_text_jump, List.mem_append, List.mem_cons] at listed
    rcases listed with front | rfl | digit
    · exact Text.isLineBreak_of_not_isBlank (isBlank_mnemonic (.jump condition) c front)
    · decide
    · exact Text.isLineBreak_of_not_isBlank (isBlank_toDigits target c digit)

/-- The target has not more digits than are read. -/
def IsShort (step : Instruction) : Prop :=
  ∀ target, step.target? = some target → (Nat.toDigits 10 target).length ≤ Text.digitLimit

/-- The text of an instruction spells it. -/
theorem spells_text (short : IsShort step) : Spells step.text.toList step := by
  cases step with
  | act action =>
    have words := Text.words_of_solid (mnemonic_ne_nil (.act action)) (isBlank_mnemonic (.act action))
    exact .act words (means_mnemonic (.act action))
  | jump condition target target_pos =>
    refine .jump target_pos ?_ (means_mnemonic (.jump condition)) (Text.readInt_toDigits (short target rfl))
    have address := Text.words_of_solid Nat.toDigits_ne_nil (isBlank_toDigits target)
    have words := Text.words_append (mnemonic_ne_nil (.jump condition)) (isBlank_mnemonic (.jump condition))
      (rfl : Text.continuesWord (' ' :: Nat.toDigits 10 target) = false)
    rw [toList_text_jump]
    refine words.trans ?_
    rw [Text.words, if_pos (by decide), address]

/-! ## Species -/

/-- The text can stand on a line of its own. -/
structure IsLine (text : String) : Prop where
  ne_empty : text ≠ ""
  trimmed : Text.IsTrimmed text.toList
  unbroken : ∀ c ∈ text.toList, Text.isLineBreak c = false

/-- The name and the colour can stand on a line each, and the targets have not more digits than are read. -/
structure Printable (s : Species) : Prop where
  name : IsLine s.name
  color : IsLine s.color
  short : ∀ step ∈ s.program.toList, IsShort step

/-- What is left of a line without the blanks at its ends can stand on a line. -/
theorem isLine_strip {line : List Char} (listed : line ∈ Text.splitLines text) (written : ¬ Blank line) :
    IsLine (String.ofList (Text.strip line)) where
  ne_empty := mt ofList_strip_eq_empty_iff.1 written
  trimmed := by
    rw [String.toList_ofList]
    exact Text.isTrimmed_strip line
  unbroken c inside := by
    rw [String.toList_ofList] at inside
    exact Text.not_isLineBreak_of_mem_splitLines listed (Text.mem_of_mem_strip inside)

theorem Spells.isShort {line : List Char} (spells : Spells line step) : IsShort step := by
  rintro target has
  cases spells with
  | act => cases has
  | jump _ _ _ read =>
    cases has
    exact Text.length_toDigits_of_readInt read

theorem isShort_of_spelled {written : List (List Char)} {steps : List Instruction}
    (spelled : List.Forall₂ Spells written steps) : ∀ step ∈ steps, IsShort step := by
  induction spelled with
  | nil => simp
  | cons spells _ ih => exact List.forall_mem_cons.2 ⟨spells.isShort, ih⟩

/-- Whatever is read can be printed. -/
theorem printable_of_read (reads : read source text = .ok s) : Printable s := by
  have verdict := read_eq_iff.1 reads
  generalize lines : Text.splitLines text = lines at verdict
  cases verdict with
  | @species name color written later _ called painted named colored spelled _ =>
    have first : name ∈ Text.splitLines text := lines ▸ List.mem_cons_self
    have second : color ∈ Text.splitLines text := lines ▸ List.mem_cons_of_mem _ List.mem_cons_self
    exact ⟨called ▸ isLine_strip first named, painted ▸ isLine_strip second colored,
      isShort_of_spelled spelled⟩

/-! ## Reading again -/

theorem IsLine.not_blank {text : String} (line : IsLine text) : ¬ Blank text.toList := by
  rw [Blank, ← Text.strip_eq_nil_iff, Text.strip_eq_self_iff.2 line.trimmed]
  simpa using line.ne_empty

theorem IsLine.strip_eq {text : String} (line : IsLine text) :
    text = String.ofList (Text.strip text.toList) := by
  rw [Text.strip_eq_self_iff.2 line.trimmed, String.ofList_toList]

theorem text_ne_nil (step : Instruction) : step.text.toList ≠ [] := by
  cases step with
  | act action => exact mnemonic_ne_nil (.act action)
  | jump condition target target_pos => simp [toList_text_jump]

theorem toList_lines (s : Species) : s.lines.map String.toList =
    s.name.toList :: s.color.toList :: s.program.toList.map (·.text.toList) := by
  simp [lines, Function.comp_def]

namespace Printable

/-- The lines of a species are what the species is read from. -/
theorem verdict (printable : Printable s) (source : Option String) :
    Verdict source (s.lines.map String.toList) (.ok s) := by
  have spelled : List.Forall₂ Spells (s.program.toList.map (·.text.toList)) s.program.toList :=
    List.forall₂_map_left_iff.2 (List.forall₂_same.2 fun step listed => spells_text (printable.short step listed))
  have ends : Ends [] := by simp [Ends]
  have species : Verdict source _ _ := .species printable.name.strip_eq printable.color.strip_eq
    printable.name.not_blank printable.color.not_blank spelled ends
  rwa [List.append_nil, ← toList_lines] at species

theorem unbroken (printable : Printable s) :
    ∀ line ∈ s.lines.map String.toList, ∀ c ∈ line, Text.isLineBreak c = false := by
  rw [toList_lines, List.forall_mem_cons, List.forall_mem_cons, List.forall_mem_map]
  exact ⟨printable.name.unbroken, printable.color.unbroken, fun step _ => unbroken_text step⟩

theorem filled (printable : Printable s) : ∀ line ∈ s.lines.map String.toList, line ≠ [] := by
  rw [toList_lines, List.forall_mem_cons, List.forall_mem_cons, List.forall_mem_map]
  exact ⟨by simpa using printable.name.ne_empty, by simpa using printable.color.ne_empty,
    fun step _ => text_ne_nil step⟩

theorem read_text (printable : Printable s) (source : Option String) :
    read source s.text.toList = .ok s := by
  have whole : s.text.toList = (s.lines.map String.toList).flatMap (· ++ ['\n']) := by
    rw [text, String.toList_join, List.flatMap_map, List.flatMap_map]
    simp
  rw [read_eq_iff, whole, Text.splitLines_flatMap printable.unbroken]
  exact printable.verdict source

theorem read_intercalate (printable : Printable s) (source : Option String) :
    read source ("\n".intercalate s.lines).toList = .ok s := by
  have whole : ("\n".intercalate s.lines).toList = ['\n'].intercalate (s.lines.map String.toList) :=
    String.toList_intercalate
  rw [read_eq_iff, whole, Text.splitLines_intercalate printable.unbroken printable.filled]
  exact printable.verdict source

end Printable

/-- A species whose name and colour can stand on a line each and whose targets are not too long is read back from
its text, with or without a line feed at the end. These are all the species that are read from any text, so what
is read from a text, printed and read again is the same species. -/
theorem printed_is_read_back :
    (∀ s : Species, Printable s → ∀ source, read source s.text.toList = .ok s ∧
      read source ("\n".intercalate s.lines).toList = .ok s) ∧
    ∀ source text (s : Species), read source text = .ok s → Printable s ∧
      ∀ source', read source' s.text.toList = .ok s ∧
        read source' ("\n".intercalate s.lines).toList = .ok s := by
  have back (s : Species) (printable : Printable s) (source : Option String) :
      read source s.text.toList = .ok s ∧ read source ("\n".intercalate s.lines).toList = .ok s :=
    ⟨printable.read_text source, printable.read_intercalate source⟩
  exact ⟨back, fun _ _ s reads => ⟨printable_of_read reads, back s (printable_of_read reads)⟩⟩

/-- A species that was written in another way than it is printed. -/
theorem rover_read_back :
    ∃ s : Species, read none " Röver\r\nred\x0cGO  ١_٢ \n\thoP\n\nleft".toList = .ok s ∧
      s.text = "Röver\nred\ngo 12\nhop\n" ∧ Printable s ∧ read none s.text.toList = .ok s := by
  obtain ⟨-, back⟩ := printed_is_read_back
  let rover : Species :=
    ⟨"Röver", "red", ⟨#[.jump .always 12 (by decide), .act .hop], by decide⟩, by decide⟩
  have reads : read none " Röver\r\nred\x0cGO  ١_٢ \n\thoP\n\nleft".toList = .ok rover := by rfl
  obtain ⟨printable, again⟩ := back _ _ rover reads
  exact ⟨rover, reads, by decide, printable, (again none).1⟩

end Vivarium.Species
