import Vivarium.Proofs.Text.Layout
import Vivarium.Species.Reader

/-!
# The grammar of species texts

A species text is a name line, a colour line, and lines with an instruction each up to the first blank line or
the end. What is not such a text is blamed on its first bad line.

1. `Spells`, `Blames`: the lines that are instructions, and what is wrong with the others.
   `exists_blames_iff`: a line is blamed exactly if it is neither blank nor an instruction.
2. `Blames.kind_eq_unknownMnemonic_iff`, `Blames.kind_eq_missingJumpTarget_iff`: of which kind the blame is.
3. `readSteps_append`, `exists_instructions`: what stands below the header, and what is read of it.
4. `Verdict`: what a text is. `read_eq_iff_verdict`: what is read from a text is its verdict.
-/

namespace Vivarium.Species

variable {line word : List Char} {rest : List (List Char)} {opcode : Opcode} {step : Instruction}
  {cause : ProgramFault.Cause}

/-! ## Words -/

/-- The word is the mnemonic of an opcode, in any letter case. -/
def Means (word : List Char) (opcode : Opcode) : Prop :=
  word.map Char.toLower = opcode.mnemonic.toList

instance : Decidable (Means word opcode) := inferInstanceAs (Decidable (_ = _))

theorem plain_mnemonic (opcode : Opcode) : ∀ c ∈ opcode.mnemonic.toList, Text.IsPlainSmall c := by
  intro c listed
  have all : opcode.mnemonic.toList.all (fun c => 97 ≤ c.toNat && c.toNat ≤ 122 && c != 'k') = true := by
    rcases opcode with action | condition
    · cases action <;> rfl
    · cases condition <;> rfl
  simpa [Text.IsPlainSmall, and_assoc] using List.all_eq_true.1 all c listed

theorem ofMnemonic?_eq_some_iff {name : String} :
    Opcode.ofMnemonic? name = some opcode ↔ name = opcode.mnemonic := by
  constructor
  · intro found
    have same : (opcode.mnemonic == name) = true := by simpa using List.find?_some found
    exact (beq_iff_eq.1 same).symm
  · rintro rfl
    exact Opcode.ofMnemonic?_mnemonic opcode

theorem ofMnemonic?_lower_eq_some_iff :
    Opcode.ofMnemonic? (String.ofList (Text.lower word)) = some opcode ↔ Means word opcode := by
  rw [ofMnemonic?_eq_some_iff, Means, ← Text.lower_eq_iff (plain_mnemonic opcode), String.ext_iff,
    String.toList_ofList]

theorem ofMnemonic?_lower_eq_none_iff :
    Opcode.ofMnemonic? (String.ofList (Text.lower word)) = none ↔ ∀ opcode, ¬ Means word opcode := by
  simp only [← ofMnemonic?_lower_eq_some_iff, Option.eq_none_iff_forall_ne_some, ne_eq]

/-! ## Lines -/

/-- There are only blanks on the line. -/
def Blank (line : List Char) : Prop := ∀ c ∈ line, Text.isBlank c = true

inductive Spells (line : List Char) : Instruction → Prop
  | act {word : List Char} {action : Action} :
      Text.words line = [word] → Means word (.act action) → Spells line (.act action)
  | jump {word address : List Char} {condition : Condition} {target : Nat} (target_pos : 0 < target) :
      Text.words line = [word, address] → Means word (.jump condition) → Text.readInt address = .ok target →
      Spells line (.jump condition target target_pos)

/-- What is wrong with a line that is neither blank nor an instruction. What is further left goes first, except that
words behind the target of a jump go before the target itself if it is a whole number. -/
inductive Blames (line : List Char) : ProgramFault.Cause → Prop
  | unknown {word : List Char} {rest : List (List Char)} :
      Text.words line = word :: rest → (∀ opcode, ¬ Means word opcode) →
      Blames line (.unknownMnemonic (String.ofList word))
  | afterAction {word : List Char} {extra : List (List Char)} {action : Action} :
      Text.words line = word :: extra → Means word (.act action) → extra ≠ [] →
      Blames line (.extraWords action.mnemonic (extra.map String.ofList))
  | noAddress {word : List Char} {condition : Condition} :
      Text.words line = [word] → Means word (.jump condition) → Blames line (.missingAddress condition.mnemonic)
  | noNumber {word address : List Char} {rest : List (List Char)} {condition : Condition} :
      Text.words line = word :: address :: rest → Means word (.jump condition) →
      (∀ target, Text.readInt address ≠ .ok target) →
      Blames line (.badAddress condition.mnemonic (String.ofList address))
  | afterAddress {word address : List Char} {extra : List (List Char)} {condition : Condition} {target : Int} :
      Text.words line = word :: address :: extra → Means word (.jump condition) →
      Text.readInt address = .ok target → extra ≠ [] →
      Blames line (.extraWords condition.mnemonic (extra.map String.ofList))
  | notPositive {word address : List Char} {condition : Condition} {target : Int} :
      Text.words line = [word, address] → Means word (.jump condition) →
      Text.readInt address = .ok target → target < 1 →
      Blames line (.targetNotPositive condition.mnemonic target)

/-- A line with a word on it is an instruction or blamed, and that is what is read from it. -/
theorem readInstruction_cases (words : Text.words line = word :: rest) :
    (∃ step, Spells line step ∧ readInstruction word rest = .ok step) ∨
      ∃ cause, Blames line cause ∧ readInstruction word rest = .error cause := by
  rw [readInstruction]
  cases meant : Opcode.ofMnemonic? (String.ofList (Text.lower word)) with
  | none => exact .inr ⟨_, .unknown words (ofMnemonic?_lower_eq_none_iff.1 meant), rfl⟩
  | some opcode =>
    have means := ofMnemonic?_lower_eq_some_iff.1 meant
    rcases opcode with action | condition
    · rcases rest with _ | ⟨first, later⟩
      · exact .inl ⟨_, .act words means, rfl⟩
      · exact .inr ⟨_, .afterAction words means (List.cons_ne_nil _ _), rfl⟩
    · rcases rest with _ | ⟨address, more⟩
      · exact .inr ⟨_, .noAddress words means, rfl⟩
      · cases read : Text.readInt address with
        | error fault => exact .inr ⟨_, .noNumber words means (by simp [read]), by simp [read]⟩
        | ok target =>
          rcases more with _ | ⟨first, later⟩
          · simp only [read, Instruction.jumpTo]
            split
            · next positive =>
              have whole : (target.toNat : Int) = target := by omega
              exact .inl ⟨_, .jump positive words means (whole ▸ read), rfl⟩
            · next negative => exact .inr ⟨_, .notPositive words means read (by omega), rfl⟩
          · exact .inr ⟨_, .afterAddress words means read (List.cons_ne_nil _ _), by simp [read]⟩

theorem Spells.readInstruction_eq (spells : Spells line step) (words : Text.words line = word :: rest) :
    readInstruction word rest = .ok step := by
  cases spells with
  | act alone means =>
    cases alone.symm.trans words
    rw [readInstruction, ofMnemonic?_lower_eq_some_iff.2 means]
  | jump target_pos pair means read =>
    cases pair.symm.trans words
    simp only [readInstruction, ofMnemonic?_lower_eq_some_iff.2 means, read, Instruction.jumpTo]
    exact dif_pos target_pos

theorem Blames.readInstruction_eq (blames : Blames line cause) (words : Text.words line = word :: rest) :
    readInstruction word rest = .error cause := by
  cases blames with
  | unknown found meaningless =>
    cases found.symm.trans words
    simp only [readInstruction, ofMnemonic?_lower_eq_none_iff.2 meaningless]
  | afterAction found means more =>
    cases found.symm.trans words
    obtain ⟨first, later, rfl⟩ := List.exists_cons_of_ne_nil more
    simp only [readInstruction, ofMnemonic?_lower_eq_some_iff.2 means]
  | noAddress found means =>
    cases found.symm.trans words
    simp only [readInstruction, ofMnemonic?_lower_eq_some_iff.2 means]
  | @noNumber _ address _ _ found means unread =>
    cases found.symm.trans words
    simp only [readInstruction, ofMnemonic?_lower_eq_some_iff.2 means]
    cases read : Text.readInt address with
    | error fault => rfl
    | ok target => exact absurd read (unread target)
  | afterAddress found means read more =>
    cases found.symm.trans words
    obtain ⟨first, later, rfl⟩ := List.exists_cons_of_ne_nil more
    simp only [readInstruction, ofMnemonic?_lower_eq_some_iff.2 means, read]
  | notPositive found means read small =>
    cases found.symm.trans words
    simp only [readInstruction, ofMnemonic?_lower_eq_some_iff.2 means, read, Instruction.jumpTo]
    exact dif_neg (by omega)

theorem blank_iff : Blank line ↔ Text.words line = [] := Text.words_eq_nil_iff.symm

instance : Decidable (Blank line) := decidable_of_iff _ blank_iff.symm

theorem Spells.not_blank (spells : Spells line step) : ¬ Blank line := by
  rw [blank_iff]
  cases spells <;> simp [*]

theorem Blames.not_blank (blames : Blames line cause) : ¬ Blank line := by
  rw [blank_iff]
  cases blames <;> simp [*]

/-- A line is blamed exactly if it is neither blank nor an instruction. -/
theorem exists_blames_iff : (∃ cause, Blames line cause) ↔ ¬ Blank line ∧ ∀ step, ¬ Spells line step := by
  constructor
  · rintro ⟨cause, blames⟩
    refine ⟨blames.not_blank, fun step spells => ?_⟩
    obtain ⟨word, rest, words⟩ := List.exists_cons_of_ne_nil (mt blank_iff.2 blames.not_blank)
    cases (blames.readInstruction_eq words).symm.trans (spells.readInstruction_eq words)
  · rintro ⟨written, meaningless⟩
    obtain ⟨word, rest, words⟩ := List.exists_cons_of_ne_nil (mt blank_iff.2 written)
    rcases readInstruction_cases words with ⟨step, spells, -⟩ | ⟨cause, blames, -⟩
    · exact absurd spells (meaningless step)
    · exact ⟨cause, blames⟩

/-! ## Kinds of blame -/

/-- The first word is no mnemonic. -/
def Unknown (line : List Char) : Prop :=
  ∃ word rest, Text.words line = word :: rest ∧ ∀ opcode, ¬ Means word opcode

/-- A jump without an address, with one that is no whole number, or with one below one and no further word. -/
def Untargeted (line : List Char) : Prop :=
  ∃ word rest condition, Text.words line = word :: rest ∧ Means word (.jump condition) ∧
    (rest = [] ∨ (∃ address more, rest = address :: more ∧ ∀ target, Text.readInt address ≠ .ok target) ∨
      ∃ address target, rest = [address] ∧ Text.readInt address = .ok target ∧ target < 1)

theorem Means.unique {other : Opcode} (means : Means word opcode) (means' : Means word other) :
    opcode = other :=
  Option.some.inj ((ofMnemonic?_lower_eq_some_iff.2 means).symm.trans (ofMnemonic?_lower_eq_some_iff.2 means'))

/-- The blame is of an unknown mnemonic exactly if the first word is none. -/
theorem Blames.kind_eq_unknownMnemonic_iff (blames : Blames line cause) :
    cause.kind = .unknownMnemonic ↔ Unknown line := by
  cases blames with
  | unknown found meaningless => exact iff_of_true rfl ⟨_, _, found, meaningless⟩
  | afterAction found means | noAddress found means | noNumber found means | afterAddress found means
  | notPositive found means =>
    refine iff_of_false (by rintro ⟨⟩) ?_
    rintro ⟨word, rest, found', meaningless⟩
    cases found.symm.trans found'
    exact meaningless _ means

theorem Blames.kind_eq_missingJumpTarget_iff (blames : Blames line cause) :
    cause.kind = .missingJumpTarget ↔ Untargeted line := by
  cases blames with
  | unknown found meaningless =>
    refine iff_of_false (by rintro ⟨⟩) ?_
    rintro ⟨word, rest, condition, found', means, -⟩
    cases found.symm.trans found'
    exact meaningless _ means
  | noAddress found means => exact iff_of_true rfl ⟨_, _, _, found, means, .inl rfl⟩
  | noNumber found means unread => exact iff_of_true rfl ⟨_, _, _, found, means, .inr (.inl ⟨_, _, rfl, unread⟩)⟩
  | notPositive found means read small =>
    exact iff_of_true rfl ⟨_, _, _, found, means, .inr (.inr ⟨_, _, rfl, read, small⟩)⟩
  | afterAction found means more =>
    refine iff_of_false (by rintro ⟨⟩) ?_
    rintro ⟨word, rest, condition, found', means', -⟩
    cases found.symm.trans found'
    cases means.unique means'
  | afterAddress found means read more =>
    -- The further words are blamed before a target below one is.
    refine iff_of_false (by rintro ⟨⟩) ?_
    rintro ⟨word, rest, condition, found', -,
      meaningless | ⟨address, later, ⟨⟩, unread⟩ | ⟨address, target, ⟨⟩, -⟩⟩
    · cases found.symm.trans found'
      cases meaningless
    · cases found.symm.trans found'
      exact unread _ read
    · cases found.symm.trans found'
      exact more rfl

/-! ## Lines below the header -/

/-- There are no lines, or a blank one is next. -/
def Ends (lines : List (List Char)) : Prop := ∀ line ∈ lines.head?, Blank line

variable {lines written : List (List Char)} {steps : List Instruction}

/-- Instructions are read one by one. -/
theorem readSteps_append (spelled : List.Forall₂ Spells written steps) (number : Nat)
    (rest : List (List Char)) :
    readSteps number (written ++ rest) = (readSteps (number + written.length) rest).map (steps ++ ·) := by
  -- Along the written lines: only after an instruction is the next line looked at.
  induction spelled generalizing number with
  | nil => cases read : readSteps number rest <;> simp [read, Except.map]
  | @cons line step written steps spells _ ih =>
    obtain ⟨word, words, found⟩ := List.exists_cons_of_ne_nil (mt blank_iff.2 spells.not_blank)
    have one := spells.readInstruction_eq found
    rw [List.cons_append, readSteps, found]
    simp only [one, ih]
    rw [List.length_cons, Nat.add_right_comm, Nat.add_assoc]
    cases readSteps (number + (written.length + 1)) rest <;> rfl

theorem readSteps_of_ends (ends : Ends lines) (number : Nat) : readSteps number lines = .ok [] := by
  rcases lines with _ | ⟨line, rest⟩
  · rfl
  · rw [readSteps, blank_iff.1 (ends line rfl)]

theorem readSteps_of_blames (blames : Blames line cause) (number : Nat) (rest : List (List Char)) :
    readSteps number (line :: rest) = .error (cause, number) := by
  obtain ⟨word, words, found⟩ := List.exists_cons_of_ne_nil (mt blank_iff.2 blames.not_blank)
  rw [readSteps, found]
  simp only [blames.readInstruction_eq found]

/-- Below the header stand some instructions and then the end, a blank line or a line to blame. -/
theorem exists_instructions (lines : List (List Char)) :
    ∃ written steps rest, lines = written ++ rest ∧ List.Forall₂ Spells written steps ∧
      (Ends rest ∨ ∃ line later cause, rest = line :: later ∧ Blames line cause) := by
  induction lines with
  | nil => exact ⟨[], [], [], rfl, .nil, .inl (by simp [Ends])⟩
  | cons line lines ih =>
    by_cases blank : Blank line
    · exact ⟨[], [], line :: lines, rfl, .nil, .inl (by simpa [Ends] using blank)⟩
    · by_cases spelled : ∃ step, Spells line step
      · obtain ⟨step, spells⟩ := spelled
        obtain ⟨written, steps, rest, rfl, spelled, ends⟩ := ih
        exact ⟨line :: written, step :: steps, rest, rfl, .cons spells spelled, ends⟩
      · obtain ⟨cause, blames⟩ := exists_blames_iff.2 ⟨blank, not_exists.1 spelled⟩
        exact ⟨[], [], line :: lines, rfl, .nil, .inr ⟨line, lines, cause, rfl, blames⟩⟩

/-! ## Texts -/

/-- What the text on some lines is. The number of a line to blame is counted from one. -/
inductive Verdict (source : Option String) : List (List Char) → Except ProgramFault Species → Prop
  | short {lines : List (List Char)} :
      lines.length < 2 → Verdict source lines (.error ⟨.missingHeader, source, none⟩)
  | blankName {name color : List Char} {rest : List (List Char)} :
      Blank name → Verdict source (name :: color :: rest) (.error ⟨.blankName, source, some 1⟩)
  | blankColor {name color : List Char} {rest : List (List Char)} :
      ¬ Blank name → Blank color →
      Verdict source (name :: color :: rest) (.error ⟨.blankColor, source, some 2⟩)
  | faulty {name color line : List Char} {written later : List (List Char)} {steps : List Instruction}
      {cause : ProgramFault.Cause} :
      ¬ Blank name → ¬ Blank color → List.Forall₂ Spells written steps → Blames line cause →
      Verdict source (name :: color :: (written ++ line :: later))
        (.error ⟨cause, source, some (3 + written.length)⟩)
  | empty {name color : List Char} {later : List (List Char)} :
      ¬ Blank name → ¬ Blank color → Ends later →
      Verdict source (name :: color :: later) (.error ⟨.noInstruction, source, none⟩)
  | species {name color : List Char} {written later : List (List Char)} {s : Species} :
      s.name = String.ofList (Text.strip name) → s.color = String.ofList (Text.strip color) →
      ¬ Blank name → ¬ Blank color → List.Forall₂ Spells written s.program.toList → Ends later →
      Verdict source (name :: color :: (written ++ later)) (.ok s)

theorem ofList_strip_eq_empty_iff : String.ofList (Text.strip line) = "" ↔ Blank line := by
  rw [Blank, ← Text.strip_eq_nil_iff, String.ext_iff, String.toList_ofList]
  rfl

theorem ofLines_of_header {name color : List Char} (named : ¬ Blank name) (colored : ¬ Blank color)
    (rest : List (List Char)) :
    ofLines (name :: color :: rest) =
      match readSteps 3 rest with
      | .error (cause, line) => .error (cause, some line)
      | .ok steps =>
        match Program.ofList? steps with
        | none => .error (.noInstruction, none)
        | some program => .ok ⟨String.ofList (Text.strip name), String.ofList (Text.strip color), program,
            mt ofList_strip_eq_empty_iff.1 named⟩ := by
  rw [ofLines]
  exact (dif_neg (mt ofList_strip_eq_empty_iff.1 named)).trans (if_neg (mt Text.strip_eq_nil_iff.1 colored))

theorem ofList?_toList (program : Program) : Program.ofList? program.toList = some program := by
  have positive : 0 < program.steps.toList.toArray.size := by simpa using program.size_pos
  rw [Program.ofList?, Program.toList, dif_pos positive]

theorem Verdict.read_eq {source : Option String} {text : List Char} {result : Except ProgramFault Species}
    (verdict : Verdict source (Text.splitLines text) result) : read source text = result := by
  rw [read]
  generalize Text.splitLines text = lines at verdict
  cases verdict with
  | short few =>
    match lines, few with
    | [], _ | [_], _ => rfl
  | blankName blank =>
    rw [ofLines, dif_pos (ofList_strip_eq_empty_iff.2 blank)]
  | blankColor named blank =>
    rw [ofLines, dif_neg (mt ofList_strip_eq_empty_iff.1 named), if_pos (Text.strip_eq_nil_iff.2 blank)]
  | faulty named colored spelled blames =>
    rw [ofLines_of_header named colored, readSteps_append spelled, readSteps_of_blames blames]
    rfl
  | empty named colored ends =>
    rw [ofLines_of_header named colored, readSteps_of_ends ends]
    rfl
  | @species name color written later s called painted named colored spelled ends =>
    rw [ofLines_of_header named colored, readSteps_append spelled, readSteps_of_ends ends]
    simp only [Except.map, List.append_nil, ofList?_toList, ← called, ← painted]

theorem exists_verdict (source : Option String) (lines : List (List Char)) :
    ∃ result, Verdict source lines result := by
  rcases lines with _ | ⟨name, _ | ⟨color, lines⟩⟩
  · exact ⟨_, .short (by decide)⟩
  · exact ⟨_, .short (by simp)⟩
  · by_cases named : Blank name
    · exact ⟨_, .blankName named⟩
    by_cases colored : Blank color
    · exact ⟨_, .blankColor named colored⟩
    obtain ⟨written, steps, rest, rfl, spelled, ends | ⟨line, later, cause, rfl, blames⟩⟩ :=
      exists_instructions lines
    · -- A text without instructions is no species, though none of its lines is to blame.
      rcases steps with _ | ⟨step, steps⟩
      · cases spelled
        exact ⟨_, .empty named colored ends⟩
      · let program : Program := ⟨(step :: steps).toArray, by simp⟩
        let s : Species := ⟨String.ofList (Text.strip name), String.ofList (Text.strip color), program,
          mt ofList_strip_eq_empty_iff.1 named⟩
        exact ⟨.ok s, .species rfl rfl named colored spelled ends⟩
    · exact ⟨_, .faulty named colored spelled blames⟩

theorem read_eq_iff {source : Option String} {text : List Char} {result : Except ProgramFault Species} :
    read source text = result ↔ Verdict source (Text.splitLines text) result := by
  refine ⟨?_, Verdict.read_eq⟩
  rintro rfl
  obtain ⟨result, verdict⟩ := exists_verdict source (Text.splitLines text)
  exact verdict.read_eq ▸ verdict

/-- What is read from a text is what the text is. Its faults have the name of the text, and the number of the first
line that is not as it should be. -/
theorem read_eq_iff_verdict (source : Option String) (text : List Char) (result : Except ProgramFault Species) :
    (read source text = result ↔ Verdict source (Text.splitLines text) result) ∧
    -- A line below the header is one of three: blank, an instruction, or blamed.
    (∀ line, (∃ cause, Blames line cause) ↔ ¬ Blank line ∧ ∀ step, ¬ Spells line step) ∧
    (∀ line step, Spells line step → ¬ Blank line) ∧
    -- Blames of lines are of one of two kinds or of neither, and the other faults are of neither.
    (∀ line cause, Blames line cause →
      (cause.kind = .unknownMnemonic ↔ Unknown line) ∧ (cause.kind = .missingJumpTarget ↔ Untargeted line)) ∧
    ∀ cause ∈ [ProgramFault.Cause.missingHeader, .blankName, .blankColor, .noInstruction],
      cause.kind = .other := by
  refine ⟨read_eq_iff, fun _ => exists_blames_iff, fun _ _ => Spells.not_blank,
    fun _ _ blames => ⟨blames.kind_eq_unknownMnemonic_iff, blames.kind_eq_missingJumpTarget_iff⟩, ?_⟩
  simp [ProgramFault.Cause.kind]

/-- The second instruction of a text is a jump to nowhere. -/
theorem rover_blamed :
    read (some "rover") "Rover\nred\nHOP\n go  0\n\nleft".toList =
      .error ⟨.targetNotPositive "go" 0, some "rover", some 4⟩ := by
  obtain ⟨⟨-, reads⟩, -⟩ := read_eq_iff_verdict (some "rover") "Rover\nred\nHOP\n go  0\n\nleft".toList
    (.error ⟨.targetNotPositive "go" 0, some "rover", some 4⟩)
  refine reads ?_
  have lines : Text.splitLines "Rover\nred\nHOP\n go  0\n\nleft".toList =
      "Rover".toList :: "red".toList :: (["HOP".toList] ++ " go  0".toList :: ["".toList, "left".toList]) := rfl
  have spells : Spells "HOP".toList (.act .hop) := .act rfl rfl
  have blames : Blames " go  0".toList (.targetNotPositive "go" 0) :=
    @Blames.notPositive _ _ _ .always 0 rfl rfl rfl (by decide)
  rw [lines]
  exact .faulty (by decide) (by decide) (.cons spells .nil) blames

end Vivarium.Species
