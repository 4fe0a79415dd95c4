import Vivarium.Program.Instruction
import Vivarium.Value.Number

/-!
# Programs

A program is a list of at least one instruction, addressed from one. A counter outside the
addresses stands for the first address, so a program has an instruction for every counter.
-/

namespace Vivarium

structure Program where
  steps : Array Instruction
  size_pos : 0 < steps.size
deriving DecidableEq, Repr

namespace Program

def size (p : Program) : Nat := p.steps.size

/-- The program of a list of instructions, if there are any. -/
def ofList? (steps : List Instruction) : Option Program :=
  if h : 0 < steps.toArray.size then some ⟨steps.toArray, h⟩ else none

def toList (p : Program) : List Instruction := p.steps.toList

/-! ## Addresses -/

/-- The instruction at an address, which must be one of the program's. -/
def fetch (p : Program) (address : Int) : Except Fault Instruction :=
  if h : 1 ≤ address ∧ address ≤ p.steps.size then
    have : (address - 1).toNat < p.steps.size := by omega
    .ok p.steps[(address - 1).toNat]
  else .error (.telling (.badAddress address p.size) [.int address])

/-- The address that a counter stands for: itself, or the first one when it lies outside. -/
def wrap (p : Program) (counter : Int) : Int :=
  if counter < 1 ∨ p.size < counter then 1 else counter

def instructionAt (p : Program) (counter : Int) : Instruction :=
  if h : 1 ≤ counter ∧ counter ≤ p.steps.size then
    have : (counter - 1).toNat < p.steps.size := by omega
    p.steps[(counter - 1).toNat]
  else
    have := p.size_pos
    p.steps[0]

theorem wrap_pos (p : Program) (counter : Int) : 1 ≤ p.wrap counter := by
  rw [wrap]
  split <;> omega

theorem wrap_le_size (p : Program) (counter : Int) : p.wrap counter ≤ p.size := by
  have := p.size_pos
  rw [wrap]
  split
  · rw [size]
    omega
  · omega

theorem wrap_wrap (p : Program) (counter : Int) : p.wrap (p.wrap counter) = p.wrap counter := by
  have low := p.wrap_pos counter
  have high := p.wrap_le_size counter
  rw [wrap, if_neg (by omega)]

/-- What a counter stands for is what is fetched at its address. -/
theorem fetch_wrap (p : Program) (counter : Int) :
    p.fetch (p.wrap counter) = .ok (p.instructionAt counter) := by
  have := p.size_pos
  by_cases h : 1 ≤ counter ∧ counter ≤ p.steps.size
  · have same : p.wrap counter = counter := by
      rw [wrap, size, if_neg (by omega)]
    rw [same, fetch, instructionAt, dif_pos h, dif_pos h]
  · have one : p.wrap counter = 1 := by
      rw [wrap, size, if_pos (by omega)]
    rw [one, fetch, instructionAt, dif_neg h, dif_pos (by omega)]
    rfl

/-! ## Texts -/

/-- The lines of a program, each with its address in front. -/
def numbered (address : Nat) : List Instruction → String
  | [] => ""
  | step :: rest => s!"{address}: {step.text}\n" ++ numbered (address + 1) rest

/-- The text of a program: a line for each instruction, with its address. -/
def text (p : Program) : String := numbered 1 p.toList

end Program

end Vivarium
