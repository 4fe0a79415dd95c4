import Vivarium.Program.Basic
import Vivarium.Text.Lowercase
import Vivarium.Text.Numeral

/-!
# Programs from instruction texts

A program is built from texts such as `hop` or `go 1`. The first word is a mnemonic in any letter
case, the second the target; further words are not looked at.
-/

namespace Vivarium

/-- The whole number that a text is. -/
def Text.toInt (s : List Char) : Except Fault Int :=
  match Text.readInt s with
  | .ok n => .ok n
  | .error .malformed => .error (.badInt 10 (String.ofList s))
  | .error (.tooLong digits) => .error (.longInt digits)

/-- The target that the words after a mnemonic give: the second word's number, or nothing. -/
def Instruction.targetOfWords : List (List Char) → Except Fault Value
  | [] => .ok .null
  | word :: _ => (Text.toInt word).map .int

/-- The instruction that a list of words gives. The number is read before the mnemonic. -/
def Instruction.ofWords : List (List Char) → Except Fault Instruction
  | [] => .error .noSuchItem
  | word :: rest => do
    let target ← Instruction.targetOfWords rest
    let name := String.ofList (Text.lower word)
    match Opcode.ofMnemonic? name with
    | none => .error (.badOpcode (.text name))
    | some opcode =>
      match Instruction.make opcode target with
      | .ok step => .ok step
      | .error cause => .error (.ofCause cause)

def Program.ofTexts (texts : List String) : Except Fault Program := do
  let steps ← texts.mapM fun s => Instruction.ofWords (Text.words s.toList)
  match Program.ofList? steps with
  | some program => .ok program
  | none => .error (.ofCause .noInstruction)

end Vivarium
