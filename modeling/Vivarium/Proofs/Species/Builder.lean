import Vivarium.Proofs.Species.Grammar
import Vivarium.Proofs.Text.Spacing

/-!
# The two ways to build a program

A program is built from instruction texts, or read with its species from the lines below a header. Texts of one or
two words give the same program on both ways, or are refused on both.

1. `Agree`: what it means that two results correspond.
2. `ofWords_agree`: those of one instruction do. Its number is read before the mnemonic or after it, and the operand
   of an action is refused as a target or as a further word.
3. `mapM_agree`: those of many instructions do, one after the other.
4. `ofTexts_agree`: so the programs are the same.
-/

namespace Vivarium.Species

/-! ## Results that agree -/

/-- The faults of words that are no number or no mnemonic, and of programs. -/
def isUnfit : Fault → Bool
  | .badInt .. | .longInt _ | .badOpcode _ | .program _ => true
  | _ => false

/-- Both results are there and correspond, or neither is, and a word or the program is to blame. -/
inductive Agree {α β δ : Type} (corresponds : α → β → Prop) : Except Fault α → Except δ β → Prop
  | built {a : α} {b : β} : corresponds a b → Agree corresponds (.ok a) (.ok b)
  | refused {fault : Fault} {blame : δ} : isUnfit fault = true → Agree corresponds (.error fault) (.error blame)

theorem Agree.eq_cases {α δ : Type} {result : Except Fault α} {result' : Except δ α}
    (agree : Agree Eq result result') : (∃ a, result = .ok a ∧ result' = .ok a) ∨
      ∃ fault blame, result = .error fault ∧ result' = .error blame ∧ isUnfit fault = true := by
  cases agree with
  | @built a _ same =>
    subst same
    exact .inl ⟨a, rfl, rfl⟩
  | @refused fault blame unfit => exact .inr ⟨fault, blame, rfl, rfl, unfit⟩

/-! ## Instructions -/

variable {word : List Char} {rest : List (List Char)} {target : Value} {opcode : Opcode} {fault : Fault}

theorem ofWords_of_error (bad : Instruction.targetOfWords rest = .error fault) :
    Instruction.ofWords (word :: rest) = .error fault := by
  rw [Instruction.ofWords, bad]
  rfl

theorem ofWords_of_none (found : Instruction.targetOfWords rest = .ok target)
    (unknown : Opcode.ofMnemonic? (String.ofList (Text.lower word)) = none) :
    Instruction.ofWords (word :: rest) = .error (.badOpcode (.text (String.ofList (Text.lower word)))) := by
  simp only [Instruction.ofWords, found, bind, Except.bind, unknown]

theorem ofWords_of_some (found : Instruction.targetOfWords rest = .ok target)
    (meant : Opcode.ofMnemonic? (String.ofList (Text.lower word)) = some opcode) :
    Instruction.ofWords (word :: rest) = (Instruction.make opcode target).mapError Fault.ofCause := by
  simp only [Instruction.ofWords, found, bind, Except.bind, meant]
  cases Instruction.make opcode target <;> rfl

theorem isUnfit_of_targetOfWords (bad : Instruction.targetOfWords rest = .error fault) : isUnfit fault = true := by
  cases rest with
  | nil => cases bad
  | cons address more =>
    rw [Instruction.targetOfWords, Text.toInt] at bad
    cases read : Text.readInt address with
    | ok target => simp [read, Except.map] at bad
    | error reason =>
      rw [read] at bad
      cases reason <;> cases bad <;> rfl

/-- A jump is made of its condition and its target, in one way or the other. -/
theorem make_agree (condition : Condition) (target : Int) :
    Agree Eq ((Instruction.make (.jump condition) (.int target)).mapError Fault.ofCause)
      (Instruction.jumpTo condition target) := by
  rw [Instruction.make]
  cases Instruction.jumpTo condition target with
  | error cause => exact .refused rfl
  | ok step => exact .built rfl

/-- One or two words give the same instruction on both ways. -/
theorem ofWords_agree (word : List Char) (short : rest.length ≤ 1) :
    Agree Eq (Instruction.ofWords (word :: rest)) (readInstruction word rest) := by
  match rest, short with
  | [], _ =>
    have found : Instruction.targetOfWords [] = .ok .null := rfl
    cases meant : Opcode.ofMnemonic? (String.ofList (Text.lower word)) with
    | none =>
      simp only [ofWords_of_none found meant, readInstruction, meant]
      exact .refused rfl
    | some opcode =>
      simp only [ofWords_of_some found meant, readInstruction, meant]
      cases opcode with
      | act action => exact .built rfl
      | jump condition => exact .refused rfl
  | [address], _ =>
    cases read : Text.readInt address with
    | error reason =>
      -- Without a number there is an instruction on neither way, whatever the first word means.
      obtain ⟨cause, refused⟩ : ∃ cause, readInstruction word [address] = .error cause := by
        rw [readInstruction]
        cases Opcode.ofMnemonic? (String.ofList (Text.lower word)) with
        | none => exact ⟨_, rfl⟩
        | some opcode =>
          cases opcode with
          | act action => exact ⟨_, rfl⟩
          | jump condition =>
            simp only [read]
            exact ⟨_, rfl⟩
      obtain ⟨fault, bad⟩ : ∃ fault, Instruction.targetOfWords [address] = .error fault := by
        rw [Instruction.targetOfWords, Text.toInt, read]
        cases reason <;> exact ⟨_, rfl⟩
      rw [ofWords_of_error bad, refused]
      exact .refused (isUnfit_of_targetOfWords bad)
    | ok number =>
      have found : Instruction.targetOfWords [address] = .ok (.int number) := by
        rw [Instruction.targetOfWords, Text.toInt, read]
        rfl
      cases meant : Opcode.ofMnemonic? (String.ofList (Text.lower word)) with
      | none =>
        simp only [ofWords_of_none found meant, readInstruction, meant]
        exact .refused rfl
      | some opcode =>
        simp only [ofWords_of_some found meant, readInstruction, meant, read]
        cases opcode with
        | act action => exact .refused rfl
        | jump condition => exact make_agree condition number

/-! ## Programs -/

/-- The text has one or two words, and no break in it. -/
structure IsShortLine (text : String) : Prop where
  words : (Text.words text.toList).length = 1 ∨ (Text.words text.toList).length = 2
  unbroken : ∀ c ∈ text.toList, Text.isLineBreak c = false

/-- The instructions are the same, those of texts and those of lines below a header. -/
theorem mapM_agree {texts : List String} (short : ∀ text ∈ texts, IsShortLine text) (number : Nat) :
    Agree Eq (texts.mapM fun text => Instruction.ofWords (Text.words text.toList))
      (readSteps number (texts.map String.toList)) := by
  induction texts generalizing number with
  | nil => exact .built rfl
  | cons text texts ih =>
    obtain ⟨first, others⟩ := List.forall_mem_cons.1 short
    obtain ⟨word, rest, found⟩ : ∃ word rest, Text.words text.toList = word :: rest := by
      refine List.exists_cons_of_ne_nil fun wordless => ?_
      have words := first.words
      simp [wordless] at words
    have atMost : rest.length ≤ 1 := by
      have words := first.words
      simp only [found, List.length_cons] at words
      omega
    rw [List.mapM_cons, List.map_cons, readSteps, found]
    rcases (ofWords_agree word atMost).eq_cases with
      ⟨step, built, read⟩ | ⟨fault, blame, built, read, unfit⟩
    · rcases (ih others (number + 1)).eq_cases with
        ⟨steps, built', read'⟩ | ⟨fault, blame, built', read', unfit⟩
      · simp only [built, read, built', read']
        exact .built rfl
      · simp only [built, read, built', read']
        exact .refused unfit
    · simp only [built, read]
      exact .refused unfit

/-- Instruction texts of one or two words give the program that is read from lines with them below a name and a
colour, and no program exactly if none is read. There are texts with such lines. -/
theorem ofTexts_agree {texts : List String} (short : ∀ text ∈ texts, IsShortLine text) {name color : List Char}
    (named : ¬ Blank name) (colored : ¬ Blank color)
    (unbroken : ∀ c ∈ name ++ color, Text.isLineBreak c = false) :
    (∃ text, Text.splitLines text = name :: color :: texts.map String.toList) ∧
    ∀ text, Text.splitLines text = name :: color :: texts.map String.toList → ∀ source,
      Agree (fun program (s : Species) => s.program = program) (Program.ofTexts texts) (read source text) := by
  constructor
  · have whole : ∀ line ∈ name :: color :: texts.map String.toList, ∀ c ∈ line,
        Text.isLineBreak c = false := by
      rw [List.forall_mem_append] at unbroken
      rw [List.forall_mem_cons, List.forall_mem_cons, List.forall_mem_map]
      exact ⟨unbroken.1, unbroken.2, fun text listed => (short text listed).unbroken⟩
    exact ⟨_, Text.splitLines_flatMap whole⟩
  · intro text lines source
    rw [read, lines, ofLines_of_header named colored, Program.ofTexts]
    rcases (mapM_agree short 3).eq_cases with ⟨steps, built, read⟩ | ⟨fault, blame, built, read, unfit⟩
    · simp only [built, read, bind, Except.bind]
      cases Program.ofList? steps with
      | none => exact .refused rfl
      | some program => exact .built rfl
    · simp only [built, read]
      exact .refused unfit

/-- A jump that is written in an odd way. -/
theorem rover_built :
    Agree (fun program (s : Species) => s.program = program) (Program.ofTexts ["GO +1_0", "\tleft "])
      (read none "Rover\r\nred\r\nGO +1_0\r\n\tleft ".toList) := by
  have short : ∀ text ∈ ["GO +1_0", "\tleft "], IsShortLine text := by
    simp only [List.forall_mem_cons, List.not_mem_nil, false_imp_iff, implies_true, and_true]
    exact ⟨⟨.inr rfl, Text.isUnbroken_iff.1 rfl⟩, ⟨.inl rfl, Text.isUnbroken_iff.1 rfl⟩⟩
  have named : ¬ Blank "Rover".toList := by decide +kernel
  have colored : ¬ Blank "red".toList := by decide +kernel
  obtain ⟨-, agree⟩ := ofTexts_agree short named colored (Text.isUnbroken_iff.1 rfl)
  exact agree _ rfl none

end Vivarium.Species
