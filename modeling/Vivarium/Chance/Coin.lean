import Vivarium.Chance.Generator

/-!
# Coins

A coin is flipped by instructions that decide at random. Its state is of any type that says how it
is flipped (`CoinSource`); a coin may be missing. Two coins are given: a script, which repeats a
list of results, and dice, which use another coin if there is one and a generator otherwise.
-/

namespace Vivarium

/-- A way of flipping a coin whose states have the given type. -/
class CoinSource (σ : Type) where
  /-- The result of a flip and the state after it; none when there is no coin. -/
  flip : σ → Option (Bool × σ)
  /-- A bound on the number of states that flips lead to. -/
  states : σ → Nat

/-! ## Scripts -/

/-- A list of results that is repeated for ever, and how many flips were made. -/
structure Script where
  results : List Bool
  flips : Nat
deriving DecidableEq, Repr

namespace Script

def ofList (results : List Bool) : Script := ⟨results, 0⟩

/-- The next result of a script; none of an empty one. -/
def flip (s : Script) : Option (Bool × Script) :=
  s.results[s.flips % s.results.length]?.map fun result => (result, ⟨s.results, s.flips + 1⟩)

end Script

instance : CoinSource Script where
  flip := Script.flip
  states s := s.results.length

/-! ## Dice -/

/-- A generator, and the coin that stands in for it when a coin is flipped. That coin may be of any
type; it is a script where nothing else is said. -/
structure Dice (κ : Type := Script) where
  generator : Generator
  script : Option κ

namespace Dice

variable {κ : Type} [CoinSource κ]

/-- Flips the coin: the one that stands in if it has a result, the generator otherwise. -/
def flip (d : Dice κ) : Bool × Dice κ :=
  match d.script.bind CoinSource.flip with
  | some (result, script) => (result, { d with script := some script })
  | none =>
    let (result, generator) := d.generator.flip
    (result, { d with generator := generator })

end Dice

instance {κ : Type} [CoinSource κ] : CoinSource (Dice κ) where
  flip d := some d.flip
  states d := (d.script.elim 1 fun s => max 1 (CoinSource.states s)) * Chance.Twister.stateCount

end Vivarium
