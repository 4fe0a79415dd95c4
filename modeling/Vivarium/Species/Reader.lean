import Vivarium.Program.Builder
import Vivarium.Species.Basic
import Vivarium.Text.Lines

/-!
# Reading a species

A species text has a name line, a colour line, and a line for each instruction up to the first
blank line or the end; what follows a blank line is commentary. A fault names the text and the line
it was found on.
-/

namespace Vivarium.Species

/-- The instruction on a line with at least one word. A word that is no mnemonic, a jump without an
address, an address that is no number, further words, and a target below one are refused, in this
order. -/
def readInstruction (word : List Char) (rest : List (List Char)) :
    Except ProgramFault.Cause Instruction :=
  let extra (mnemonic : String) (words : List (List Char)) : ProgramFault.Cause :=
    .extraWords mnemonic (words.map String.ofList)
  match Opcode.ofMnemonic? (String.ofList (Text.lower word)) with
  | none => .error (.unknownMnemonic (String.ofList word))
  | some (.act action) =>
    match rest with
    | [] => .ok (.act action)
    | _ => .error (extra action.mnemonic rest)
  | some (.jump condition) =>
    match rest with
    | [] => .error (.missingAddress condition.mnemonic)
    | address :: more =>
      match Text.readInt address with
      | .error _ => .error (.badAddress condition.mnemonic (String.ofList address))
      | .ok target =>
        match more with
        | [] => Instruction.jumpTo condition target
        | _ => .error (extra condition.mnemonic more)

/-- The instructions on the lines up to the first blank one; `number` is the number of the first
line. A fault carries its line. -/
def readSteps (number : Nat) :
    List (List Char) → Except (ProgramFault.Cause × Nat) (List Instruction)
  | [] => .ok []
  | line :: rest =>
    match Text.words line with
    | [] => .ok []
    | word :: words =>
      match readInstruction word words with
      | .error cause => .error (cause, number)
      | .ok step => (readSteps (number + 1) rest).map (step :: ·)

/-- The species on a list of lines; a fault carries its line, if there is one to blame. -/
def ofLines : List (List Char) → Except (ProgramFault.Cause × Option Nat) Species
  | nameLine :: colorLine :: rest =>
    let name := String.ofList (Text.strip nameLine)
    let color := Text.strip colorLine
    if h : name = "" then .error (.blankName, some 1)
    else if color = [] then .error (.blankColor, some 2)
    else
      match readSteps 3 rest with
      | .error (cause, line) => .error (cause, some line)
      | .ok steps =>
        match Program.ofList? steps with
        | none => .error (.noInstruction, none)
        | some program => .ok ⟨name, String.ofList color, program, h⟩
  | _ => .error (.missingHeader, none)

/-- The species that a text describes; `source` names the text in a fault, if it has a name. -/
def read (source : Option String) (text : List Char) : Except ProgramFault Species :=
  match ofLines (Text.splitLines text) with
  | .ok species => .ok species
  | .error (cause, line) => .error ⟨cause, source, line⟩

end Vivarium.Species
