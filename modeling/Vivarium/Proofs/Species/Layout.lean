import Mathlib.Logic.Relation
import Vivarium.Proofs.Species.Grammar
import Vivarium.Proofs.Text.Spacing

/-!
# The layout of species texts

How a species text is laid out does not matter: its breaks, the blanks at the ends of lines and between words, the
letter case of mnemonics, and what stands below the first blank line.

1. `SameContent`: what lines must have in common. `read_congr`: what is read depends on nothing else.
2. `Relaid`: the ways to lay a text out anew. `Relaid.sameContent`: each of them keeps the content.
3. `read_relaid`: so what is read is the same, after any number of them.
-/

namespace Vivarium.Species

variable {word word' line line' : List Char} {lines lines' rest rest' : List (List Char)}

/-! ## What counts of a fault -/

def finding (result : Except ProgramFault Species) : Except (ProgramFault.Kind × Option Nat) Species :=
  result.mapError fun fault => (fault.cause.kind, fault.line)

/-- Results that count the same are the same, or faults that count the same. -/
theorem mapError_eq_cases {ε δ α : Type} {f : ε → δ} {result result' : Except ε α}
    (same : result'.mapError f = result.mapError f) :
    (∃ fault fault', result = .error fault ∧ result' = .error fault' ∧ f fault' = f fault) ∨
      ∃ found, result = .ok found ∧ result' = .ok found := by
  cases result with
  | error fault =>
    cases result' with
    | error fault' => exact .inl ⟨fault, fault', rfl, rfl, Except.error.inj same⟩
    | ok found => cases same
  | ok found =>
    cases result' with
    | error fault' => cases same
    | ok found' =>
      cases same
      exact .inr ⟨found, rfl, rfl⟩

/-! ## Lines with the same content -/

/-- The same words, but for the case of ASCII letters in the first one. -/
inductive SameWords : List (List Char) → List (List Char) → Prop
  | none : SameWords [] []
  | some {word word' : List Char} (rest : List (List Char)) :
      word'.map Char.toLower = word.map Char.toLower → SameWords (word :: rest) (word' :: rest)

/-- Lines below the header with the same words on them, up to a blank line or the end. -/
inductive SameSteps : List (List Char) → List (List Char) → Prop
  | ended {lines lines' : List (List Char)} : Ends lines → Ends lines' → SameSteps lines lines'
  | next {line line' : List Char} {rest rest' : List (List Char)} :
      SameWords (Text.words line) (Text.words line') → SameSteps rest rest' →
      SameSteps (line :: rest) (line' :: rest')

/-- Lines with the same name, the same colour and the same instructions on them. -/
inductive SameContent : List (List Char) → List (List Char) → Prop
  | intro {name name' color color' : List Char} {rest rest' : List (List Char)} :
      Text.strip name' = Text.strip name → Text.strip color' = Text.strip color → SameSteps rest rest' →
      SameContent (name :: color :: rest) (name' :: color' :: rest')

theorem SameWords.refl (words : List (List Char)) : SameWords words words := by
  cases words with
  | nil => exact .none
  | cons word rest => exact .some rest rfl

theorem SameSteps.refl (lines : List (List Char)) : SameSteps lines lines := by
  induction lines with
  | nil => exact .ended (by simp [Ends]) (by simp [Ends])
  | cons line rest ih => exact .next (.refl _) ih

theorem SameSteps.append (same : SameSteps rest rest') (lines : List (List Char)) :
    SameSteps (lines ++ rest) (lines ++ rest') := by
  induction lines with
  | nil => exact same
  | cons line lines ih => exact .next (.refl _) ih

/-- Below the header other lines may differ in all but their words. -/
theorem SameContent.of_below (below : 2 ≤ lines.length) (same : SameSteps rest rest') :
    SameContent (lines ++ rest) (lines ++ rest') := by
  match lines, below with
  | name :: color :: lines, _ => exact .intro rfl rfl (same.append lines)

/-- A line may differ in the blanks around it, wherever it stands. -/
theorem SameContent.of_line (header : 2 ≤ (lines ++ line :: rest).length)
    (trimmed : Text.strip line' = Text.strip line) (words : Text.words line' = Text.words line) :
    SameContent (lines ++ line :: rest) (lines ++ line' :: rest) := by
  match lines, header with
  | [], header =>
    match rest, header with
    | color :: rest, _ => exact .intro trimmed rfl (.refl rest)
  | [name], _ => exact .intro rfl trimmed (.refl rest)
  | name :: color :: lines, _ => exact .intro rfl rfl (.append (.next (words ▸ .refl _) (.refl rest)) lines)

theorem SameContent.refl (header : 2 ≤ lines.length) : SameContent lines lines := by
  have same := SameContent.of_below header (SameSteps.refl [])
  rwa [List.append_nil] at same

/-! ## What is read of them -/

/-- The letter case of a mnemonic does not matter. -/
theorem readInstruction_congr (same : word'.map Char.toLower = word.map Char.toLower)
    (rest : List (List Char)) :
    (readInstruction word' rest).mapError ProgramFault.Cause.kind =
      (readInstruction word rest).mapError ProgramFault.Cause.kind := by
  have meaning : Opcode.ofMnemonic? (String.ofList (Text.lower word')) =
      Opcode.ofMnemonic? (String.ofList (Text.lower word)) := by
    refine Option.ext fun opcode => ?_
    rw [ofMnemonic?_lower_eq_some_iff, ofMnemonic?_lower_eq_some_iff, Means, Means, same]
  rw [readInstruction, readInstruction, meaning]
  -- Where the word is shown in a fault, it is no mnemonic.
  cases Opcode.ofMnemonic? (String.ofList (Text.lower word)) with
  | none => rfl
  | some opcode => cases opcode <;> rfl

/-- What counts of what is read below the header: the instructions, or the kind of the fault and its line. -/
def below (result : Except (ProgramFault.Cause × Nat) (List Instruction)) :
    Except (ProgramFault.Kind × Nat) (List Instruction) :=
  result.mapError fun fault => (fault.1.kind, fault.2)

theorem below_map (result : Except (ProgramFault.Cause × Nat) (List Instruction)) (step : Instruction) :
    below (result.map (step :: ·)) = (below result).map (step :: ·) := by
  cases result <;> rfl

theorem readSteps_congr (same : SameSteps lines lines') (number : Nat) :
    below (readSteps number lines') = below (readSteps number lines) := by
  induction same generalizing number with
  | ended ends ends' => rw [readSteps_of_ends ends, readSteps_of_ends ends']
  | @next line line' rest rest' words _ ih =>
    rw [readSteps, readSteps]
    generalize Text.words line = found at words
    generalize Text.words line' = found' at words
    cases words with
    | none => rfl
    | @some word word' more same =>
      dsimp only
      rcases mapError_eq_cases (readInstruction_congr same more) with
        ⟨cause, cause', read, read', kinds⟩ | ⟨step, read, read'⟩
      · rw [read, read']
        exact congrArg (fun kind => Except.error (kind, number)) kinds
      · rw [read, read']
        exact (below_map _ step).trans ((congrArg _ (ih (number + 1))).trans (below_map _ step).symm)

/-- What is read of lines depends on their content only. -/
theorem read_congr {text text' : List Char} (same : SameContent (Text.splitLines text) (Text.splitLines text'))
    (source : Option String) : finding (read source text') = finding (read source text) := by
  rw [read, read]
  generalize Text.splitLines text = lines at same
  generalize Text.splitLines text' = lines' at same
  cases same with
  | @intro name name' color color' rest rest' named colored steps =>
    rw [ofLines, ofLines]
    simp only [named, colored]
    by_cases unnamed : String.ofList (Text.strip name) = ""
    · rw [dif_pos unnamed, dif_pos unnamed]
    rw [dif_neg unnamed, dif_neg unnamed]
    by_cases blank : Text.strip color = []
    · rw [if_pos blank, if_pos blank]
    rw [if_neg blank, if_neg blank]
    rcases mapError_eq_cases (readSteps_congr steps 3) with
      ⟨blamed, blamed', read, read', same⟩ | ⟨found, read, read'⟩
    · rw [read, read']
      obtain ⟨kinds, numbers⟩ := Prod.mk.inj same
      show Except.error (blamed'.1.kind, some blamed'.2) = Except.error (blamed.1.kind, some blamed.2)
      rw [kinds, numbers]
    · rw [read, read']

/-! ## Laying a text out anew -/

/-- Spaces and tabs. -/
def IsGap (cs : List Char) : Prop := ∀ c ∈ cs, c = ' ' ∨ c = '\t'

instance (gap : List Char) : Decidable (IsGap gap) :=
  decidable_of_iff ((gap.all fun c => c = ' ' || c = '\t') = true) (by simp [IsGap])

/-- The ways to lay a text out anew. -/
inductive Relaid : List Char → List Char → Prop
  /-- All line feeds, carriage returns and pairs of them become the same one of the three. -/
  | breaks (b : Text.Break) (text : List Char) : Relaid text (Text.withBreaks b text)
  /-- Spaces or tabs are added at the ends of a line. -/
  | padded {before line after left right : List Char} (placed : Text.IsLineOf before line after)
      (gap : IsGap left) (gap' : IsGap right) :
      Relaid (before ++ line ++ after) (before ++ (left ++ line ++ right) ++ after)
  /-- The first word of a line below the header gets ASCII letters of another case. -/
  | recased {before indent word word' rest after : List Char}
      (placed : Text.IsLineOf before (indent ++ word ++ rest) after)
      (below : 2 ≤ (Text.splitLines before).length) (blank : Blank indent)
      (filled : word ≠ []) (solid : ∀ c ∈ word, Text.isBlank c = false)
      (ends : Text.continuesWord rest = false) (same : word'.map Char.toLower = word.map Char.toLower) :
      Relaid (before ++ (indent ++ word ++ rest) ++ after) (before ++ (indent ++ word' ++ rest) ++ after)
  /-- Spaces or tabs on a line below the header are replaced by others, not by none. -/
  | respaced {before left gap gap' right after : List Char}
      (placed : Text.IsLineOf before (left ++ gap ++ right) after)
      (below : 2 ≤ (Text.splitLines before).length) (filled : gap ≠ []) (filled' : gap' ≠ [])
      (spaces : IsGap gap) (spaces' : IsGap gap') :
      Relaid (before ++ (left ++ gap ++ right) ++ after) (before ++ (left ++ gap' ++ right) ++ after)
  /-- What stands after a blank line below the header, behind the break that ends it, is replaced. -/
  | recommented {before blank rest : List Char} {c : Char} (placed : Text.IsLineOf before blank (c :: rest))
      (below : 2 ≤ (Text.splitLines before).length) (empty : Blank blank) (rest' : List Char) :
      Relaid (before ++ blank ++ c :: rest) (before ++ blank ++ c :: rest')
  /-- Two line feeds and any text are put after the text. -/
  | appended (text comment : List Char) : Relaid text (text ++ '\n' :: '\n' :: comment)

theorem IsGap.isBlank {gap : List Char} (spaces : IsGap gap) : ∀ c ∈ gap, Text.isBlank c = true := by
  intro c listed
  rcases spaces c listed with rfl | rfl <;> rfl

theorem IsGap.unbroken {gap : List Char} (spaces : IsGap gap) : ∀ c ∈ gap, Text.isLineBreak c = false := by
  intro c listed
  rcases spaces c listed with rfl | rfl <;> rfl

/-- A line that keeps its parts but for one is without breaks if the new part is. -/
theorem unbroken_middle {left middle middle' right : List Char}
    (unbroken : ∀ c ∈ left ++ middle ++ right, Text.isLineBreak c = false)
    (unbroken' : ∀ c ∈ middle', Text.isLineBreak c = false) :
    ∀ c ∈ left ++ middle' ++ right, Text.isLineBreak c = false := by
  simp only [List.forall_mem_append] at unbroken ⊢
  exact ⟨⟨unbroken.1.1, unbroken'⟩, unbroken.2⟩

namespace Relaid

variable {text text' : List Char}

/-- A text that is laid out anew has the same content. -/
theorem sameContent (relaid : Relaid text text') (header : 2 ≤ (Text.splitLines text).length) :
    SameContent (Text.splitLines text) (Text.splitLines text') := by
  cases relaid with
  | breaks b =>
    rw [Text.splitLines_withBreaks]
    exact .refl header
  | @padded before line after left right placed gap gap' =>
    obtain ⟨later, lines⟩ := Text.exists_splitLines_eq placed.ends before
    have placed' : Text.IsLineOf before (left ++ line ++ right) after := by
      refine placed.replace ?_ fun empty => ?_
      · simp only [List.forall_mem_append]
        exact ⟨⟨gap.unbroken, placed.unbroken⟩, gap'.unbroken⟩
      · exact (List.append_eq_nil_iff.1 (List.append_eq_nil_iff.1 empty).1).2
    rw [lines line placed] at header ⊢
    rw [lines _ placed']
    exact .of_line header (Text.strip_pad gap.isBlank gap'.isBlank line)
      (Text.words_pad gap.isBlank gap'.isBlank line)
  | @recased before indent word word' rest after placed below blank filled solid ends same =>
    obtain ⟨later, lines⟩ := Text.exists_splitLines_eq placed.ends before
    have solid' := Text.solid_of_map_toLower same solid
    have filled' : word' ≠ [] := by
      rintro rfl
      exact filled (List.map_eq_nil_iff.1 same.symm)
    have placed' : Text.IsLineOf before (indent ++ word' ++ rest) after :=
      placed.replace (unbroken_middle placed.unbroken fun c listed =>
        Text.isLineBreak_of_not_isBlank (solid' c listed)) (by simp [filled'])
    have found {word : List Char} (filled : word ≠ []) (solid : ∀ c ∈ word, Text.isBlank c = false) :
        Text.words (indent ++ word ++ rest) = word :: Text.words rest := by
      rw [List.append_assoc, Text.words_blank_append blank, Text.words_append filled solid ends]
    rw [lines _ placed, lines _ placed']
    refine .of_below below (.next ?_ (.refl later))
    rw [found filled solid, found filled' solid']
    exact .some _ same
  | @respaced before left gap gap' right after placed below filled filled' spaces spaces' =>
    obtain ⟨later, lines⟩ := Text.exists_splitLines_eq placed.ends before
    have placed' : Text.IsLineOf before (left ++ gap' ++ right) after :=
      placed.replace (unbroken_middle placed.unbroken spaces'.unbroken) (by simp [filled'])
    rw [lines _ placed, lines _ placed']
    refine .of_below below (.next ?_ (.refl later))
    rw [Text.words_gap filled spaces.isBlank, Text.words_gap filled' spaces'.isBlank]
    exact .refl _
  | @recommented before blank rest c placed below empty rest' =>
    have placed' : Text.IsLineOf before blank (c :: rest') := by
      refine ⟨⟨placed.begins, fun last => ?_⟩, placed.unbroken, placed.ends, by simp⟩
      have whole := placed.whole last
      cases blank <;> exact whole
    obtain ⟨later, lines⟩ := Text.exists_splitLines_eq placed.ends before
    obtain ⟨later', lines'⟩ := Text.exists_splitLines_eq placed'.ends before
    rw [lines _ placed, lines' _ placed']
    exact .of_below below (.ended (by simpa [Ends] using empty) (by simpa [Ends] using empty))
  | appended _ comment =>
    obtain ⟨later, lines⟩ := Text.exists_splitLines_appended text comment
    rw [lines]
    have ended : SameSteps [] ([] :: later) := .ended (by simp [Ends]) (by simp [Ends, Blank])
    have same := SameContent.of_below header ended
    rwa [List.append_nil] at same

end Relaid

theorem SameContent.header (same : SameContent lines lines') : 2 ≤ lines'.length := by
  cases same
  simp

/-- What is read from a text with a header is the same, or is wrong in the same way on the same line, after the
text was laid out anew, in any of the ways and any number of times. Every line of a text below its header, and
every other one, can be laid out anew. -/
theorem read_relaid {text text' : List Char} (header : 2 ≤ (Text.splitLines text).length)
    (relaid : Relation.ReflTransGen Relaid text text') (source : Option String) :
    finding (read source text') = finding (read source text) ∧
    ∀ n line, (Text.splitLines text')[n]? = some line →
      ∃ before after, text' = before ++ line ++ after ∧ Text.IsLineOf before line after ∧
        (Text.splitLines before).length = n := by
  refine ⟨?_, fun n line listed => Text.exists_isLineOf listed⟩
  have both : finding (read source text') = finding (read source text) ∧
      2 ≤ (Text.splitLines text').length := by
    induction relaid with
    | refl => exact ⟨rfl, header⟩
    | tail _ last ih =>
      have same := last.sameContent ih.2
      exact ⟨(read_congr same source).trans ih.1, same.header⟩
  exact both.1

/-- A text with a faulty line, laid out anew in each of the ways, one after the other. -/
theorem rover_relaid :
    finding (read none "Rover\r\n\tred \r\nhoP\r\n go\t0\r\n\r\nright\n\nwrong".toList) =
      finding (read none "Rover\nred\nHOP\n go  0\n\nleft".toList) := by
  have broken : Relaid "Rover\nred\nHOP\n go  0\n\nleft".toList
      "Rover\r\nred\r\nHOP\r\n go  0\r\n\r\nleft".toList := .breaks .pair _
  have padded : Relaid "Rover\r\nred\r\nHOP\r\n go  0\r\n\r\nleft".toList
      "Rover\r\n\tred \r\nHOP\r\n go  0\r\n\r\nleft".toList :=
    @Relaid.padded "Rover\r\n".toList "red".toList "\r\nHOP\r\n go  0\r\n\r\nleft".toList ['\t'] [' ']
      (by decide +kernel) (by decide +kernel) (by decide +kernel)
  have solid : ∀ c ∈ "HOP".toList, Text.isBlank c = false := by
    have all : "HOP".toList.all (fun c => !Text.isBlank c) = true := rfl
    simpa using all
  have recased : Relaid "Rover\r\n\tred \r\nHOP\r\n go  0\r\n\r\nleft".toList
      "Rover\r\n\tred \r\nhoP\r\n go  0\r\n\r\nleft".toList :=
    @Relaid.recased "Rover\r\n\tred \r\n".toList [] "HOP".toList "hoP".toList []
      "\r\n go  0\r\n\r\nleft".toList (by decide +kernel)
      (by decide +kernel) (by decide +kernel) (by decide +kernel) solid rfl rfl
  have respaced : Relaid "Rover\r\n\tred \r\nhoP\r\n go  0\r\n\r\nleft".toList
      "Rover\r\n\tred \r\nhoP\r\n go\t0\r\n\r\nleft".toList :=
    @Relaid.respaced "Rover\r\n\tred \r\nhoP\r\n".toList " go".toList "  ".toList ['\t'] "0".toList
      "\r\n\r\nleft".toList (by decide +kernel)
      (by decide +kernel) (by decide +kernel) (by decide +kernel) (by decide +kernel) (by decide +kernel)
  have recommented : Relaid "Rover\r\n\tred \r\nhoP\r\n go\t0\r\n\r\nleft".toList
      "Rover\r\n\tred \r\nhoP\r\n go\t0\r\n\r\nright".toList :=
    @Relaid.recommented "Rover\r\n\tred \r\nhoP\r\n go\t0\r\n".toList [] "\nleft".toList '\r'
      (by decide +kernel) (by decide +kernel) (by decide +kernel) "\nright".toList
  have appended : Relaid "Rover\r\n\tred \r\nhoP\r\n go\t0\r\n\r\nright".toList
      "Rover\r\n\tred \r\nhoP\r\n go\t0\r\n\r\nright\n\nwrong".toList := .appended _ "wrong".toList
  have all := ((((Relation.ReflTransGen.single broken).tail padded).tail recased).tail respaced).tail recommented
  exact (read_relaid (by decide +kernel) (all.tail appended) none).1

end Vivarium.Species
