import Vivarium.Chance.Digest
import Vivarium.Chance.Twister
import Vivarium.Value.Number

/-!
# Seeds

A number, a text and bytes stand for a whole number, and a generator with that seed begins in the
same state every time. Nothing is no seed: then each start has a state of its own, which comes from
outside the program (`Entropy`). A value of another kind is refused.
-/

namespace Vivarium

open Chance

/-- What generators get from outside. -/
structure Entropy where
  /-- The states that generators without a seed begin in, one after the other. -/
  states : Nat → Twister
  /-- What a seed stands for that is a double and no number: it depends on where it is kept. -/
  address : Nat

/-- Stands in where nothing is asked from outside. -/
def Entropy.still : Entropy := ⟨Twister.ofNat, 0⟩

/-- Where a generator begins. -/
inductive Origin where
  /-- In the state of a number, at every start. -/
  | number (n : Nat)
  /-- In a state from outside. Those that are left are given. -/
  | outside (states : Nat → Twister)

namespace Origin

/-- The state at a start, and where the next start is made. -/
def start : Origin → Twister × Origin
  | number n => (.ofNat n, number n)
  | outside states => (states 0, outside fun n => states (n + 1))

/-- The hashes of finite doubles are less than this. -/
def hashBound : Nat := Nat.pow 2 61 - 1

/-- A hash with a sign, as an unsigned number of 64 bits. The hash minus one is not used. -/
def signed (negative : Bool) (hash : Nat) : Nat :=
  if negative ∧ hash ≠ 0 then Nat.pow 2 64 - max 2 hash else hash

/-- The number that a double stands for, as a seed. -/
def ofDouble (address : Nat) (x : Float) : Nat :=
  match Decimal.Parts.ofFloat x with
  | .nan => address
  | .infinite negative => signed negative 314159
  | .finite negative mantissa exponent =>
    signed negative (mantissa * Nat.pow 2 (exponent % 61).toNat % hashBound)

def ofBytes (content : List UInt8) : Nat :=
  Digest.numberOf content * Nat.pow 2 512 + Digest.ofBytes content

/-- Where a seed lets a generator begin. The sign of a whole number does not count. -/
def ofValue (entropy : Entropy) (seed : Value) : Except Fault Origin :=
  match seed with
  | .null => .ok (outside entropy.states)
  | .bool b => .ok (number b.toNat)
  | .int n => .ok (number n.natAbs)
  | .float x => .ok (number (ofDouble entropy.address x))
  | .text s => .ok (number (ofBytes s.toUTF8.toList))
  | .bytes content => .ok (number (ofBytes content))
  | _ => .error .noSeed

end Origin

end Vivarium
