/-!
# Bytes in base sixty-four

Four characters stand for three bytes. Characters outside the alphabet are passed over; the sign
`=` fills up the last four characters and ends the text when they are full.
-/

namespace Vivarium.Text.Base64

/-- The number that a character stands for. -/
def value? (c : Char) : Option Nat :=
  if c.isUpper then some (c.toNat - 65)
  else if c.isLower then some (c.toNat - 97 + 26)
  else if c.isDigit then some (c.toNat - 48 + 52)
  else if c = '+' then some 62
  else if c = '/' then some 63
  else none

/-- How far a group of four characters is read, and what its last character left for the next
byte. -/
structure Group where
  count : Nat
  left : Nat
  /-- The number of filling signs in a row. -/
  fill : Nat

/-- A group without characters. -/
def Group.empty : Group := ⟨0, 0, 0⟩

/-- Adds a number to a group; from the second on each makes a byte. -/
def Group.add (g : Group) (n : Nat) : Option Nat × Group :=
  match g.count with
  | 0 => (none, ⟨1, n, 0⟩)
  | 1 => (some (4 * g.left + n / 16), ⟨2, n % 16, 0⟩)
  | 2 => (some (16 * g.left + n / 4), ⟨3, n % 4, 0⟩)
  | _ => (some (64 * g.left + n), .empty)

/-- The bytes that are left to read after part of a group; none if the last group is not full. -/
def bytesFrom (g : Group) : List Char → Option (List UInt8)
  | [] => if g.count = 0 then some [] else none
  | '=' :: cs =>
    if 2 ≤ g.count then
      if 4 ≤ g.count + g.fill + 1 then some [] else bytesFrom { g with fill := g.fill + 1 } cs
    else bytesFrom g cs
  | c :: cs =>
    match value? c with
    | none => bytesFrom g cs
    | some n =>
      match g.add n with
      | (some byte, next) => (bytesFrom next cs).map (UInt8.ofNat byte :: ·)
      | (none, next) => bytesFrom next cs

def decode? (cs : List Char) : Option (List UInt8) := bytesFrom .empty cs

end Vivarium.Text.Base64
