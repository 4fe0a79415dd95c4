import Vivarium.Fault

/-!
# Instructions

An instruction is an action, which ends a turn, or a jump, which moves on to its target when its
condition holds and to the next instruction otherwise. Targets are positive.
-/

namespace Vivarium

/-! ## Opcodes -/

/-- What a creature can do with its turn. -/
inductive Action where
  | hop
  | left
  | right
  | infect
deriving DecidableEq, Repr

/-- What a jump depends on: what lies ahead, a coin, or nothing. -/
inductive Condition where
  | empty
  | wall
  | same
  | enemy
  | random
  | always
deriving DecidableEq, Repr

inductive Opcode where
  | act (action : Action)
  | jump (condition : Condition)
deriving DecidableEq, Repr

def Action.mnemonic : Action → String
  | hop => "hop"
  | left => "left"
  | right => "right"
  | infect => "infect"

/-- The word for a jump on a condition. -/
def Condition.mnemonic : Condition → String
  | empty => "ifempty"
  | wall => "ifwall"
  | same => "ifsame"
  | enemy => "ifenemy"
  | random => "ifrandom"
  | always => "go"

namespace Opcode

def mnemonic : Opcode → String
  | act action => action.mnemonic
  | jump condition => condition.mnemonic

def all : List Opcode :=
  [act .hop, act .left, act .right, act .infect, jump .empty, jump .wall, jump .same, jump .enemy,
    jump .random, jump .always]

def ofMnemonic? (word : String) : Option Opcode :=
  all.find? fun opcode => opcode.mnemonic == word

@[simp] theorem ofMnemonic?_mnemonic (opcode : Opcode) :
    ofMnemonic? opcode.mnemonic = some opcode := by
  rcases opcode with action | condition
  · cases action <;> decide
  · cases condition <;> decide

end Opcode

/-! ## Instructions -/

inductive Instruction where
  | act (action : Action)
  | jump (condition : Condition) (target : Nat) (target_pos : 0 < target)
deriving DecidableEq, Repr

namespace Instruction

def opcode : Instruction → Opcode
  | act action => .act action
  | jump condition .. => .jump condition

def target? : Instruction → Option Nat
  | act _ => none
  | jump _ target _ => some target

def text : Instruction → String
  | act action => action.mnemonic
  | jump condition target _ => s!"{condition.mnemonic} {target}"

/-- The jump on a condition to a target, which must be positive. -/
def jumpTo (condition : Condition) (target : Int) : Except ProgramFault.Cause Instruction :=
  if h : 0 < target.toNat then .ok (.jump condition target.toNat h)
  else .error (.targetNotPositive condition.mnemonic target)

/-- The instruction of an opcode and a target of any kind. A jump must have a whole number, an
action must have nothing. -/
def make : Opcode → Value → Except ProgramFault.Cause Instruction
  | .jump condition, .int target => jumpTo condition target
  | .jump condition, _ => .error (.targetNotWhole condition.mnemonic)
  | .act action, .null => .ok (.act action)
  | .act action, target => .error (.targetOfAction action.mnemonic target)

end Instruction

end Vivarium
