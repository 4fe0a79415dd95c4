import Vivarium.Chance.Seed

/-!
# The random generator

A generator remembers its seed, flips fair coins and draws whole numbers below a bound. A bounded
number is drawn by rejection: as many bits as the bound has, until they make a number below it.
-/

namespace Vivarium

open Chance

/-- A generator: the seed it was given, where it begins when it is reset, and its state. -/
structure Generator where
  seed : Value
  origin : Origin
  state : Twister

namespace Generator

def startAt (seed : Value) (origin : Origin) : Generator :=
  ⟨seed, origin.start.2, origin.start.1⟩

def ofSeed (seed : Value) (entropy : Entropy) : Except Fault Generator :=
  (Origin.ofValue entropy seed).map (startAt seed)

def reset (g : Generator) : Generator := startAt g.seed g.origin

/-- Two generators that go back to the same start. -/
structure SameStart (g h : Generator) : Prop where
  seed : h.seed = g.seed
  origin : h.origin = g.origin

/-- Flips a coin: heads when the fraction made of two words, 27 and 26 bits of them, is below one
half. -/
def flip (g : Generator) : Bool × Generator :=
  let (a, t) := g.state.draw
  let (b, u) := t.draw
  let fraction := (a.toNat / Nat.pow 2 5) * Nat.pow 2 26 + b.toNat / Nat.pow 2 6
  (decide (fraction < Nat.pow 2 52), { g with state := u })

/-- Draws a number of some words of 32 bits, from the least significant on, and some bits of one
more. -/
def drawBits (bits : Nat) : Nat → Twister → Nat × Twister
  | 0, t =>
    let (w, u) := t.draw
    (w.toNat / Nat.pow 2 (32 - bits), u)
  | words + 1, t =>
    let (w, u) := t.draw
    let (rest, v) := drawBits bits words u
    (w.toNat + Nat.pow 2 32 * rest, v)

/-- Draws as many bits as a bound has until they make a number below it, up to a count of tries. -/
def drawBelow (bound : Nat) : Nat → Twister → Option (Nat × Twister)
  | 0, _ => none
  | tries + 1, t =>
    let drawn := drawBits (bound.log2 % 32 + 1) (bound.log2 / 32) t
    if drawn.1 < bound then some drawn else drawBelow bound tries drawn.2

/-- Draws a number below a bound. The number of tries is that of the generator's states: were none
of so many tries good, none ever would be. -/
def below (g : Generator) (bound : Nat) : Option (Nat × Generator) :=
  (drawBelow bound Twister.stateCount g.state).map fun (n, t) => (n, { g with state := t })

/-- Draws a number below a bound that may be anything. -/
def nextInt (g : Generator) (bound : Int) : Except Fault (Nat × Generator) :=
  if bound ≤ 0 then .error .emptyRange
  else (g.below bound.toNat).elim (.error .endlessDraw) .ok

/-- What a draw gives is below the bound. -/
theorem drawBelow_lt {bound tries n : Nat} {t u : Twister}
    (h : drawBelow bound tries t = some (n, u)) : n < bound := by
  induction tries generalizing t with
  | zero => simp [drawBelow] at h
  | succ tries ih =>
    rw [drawBelow] at h
    split at h
    · rename_i below
      rw [Option.some.inj h] at below
      exact below
    · exact ih h

theorem SameStart.refl (g : Generator) : SameStart g g := ⟨rfl, rfl⟩

theorem SameStart.trans {g h k : Generator} (first : SameStart g h) (second : SameStart h k) :
    SameStart g k :=
  ⟨second.seed.trans first.seed, second.origin.trans first.origin⟩

theorem flip_sameStart (g : Generator) : SameStart g g.flip.2 := ⟨rfl, rfl⟩

theorem below_eq_some {g h : Generator} {bound n : Nat} (drawn : g.below bound = some (n, h)) :
    n < bound ∧ SameStart g h := by
  rw [below, Option.map_eq_some_iff] at drawn
  obtain ⟨⟨m, t⟩, found, same⟩ := drawn
  cases same
  exact ⟨drawBelow_lt found, rfl, rfl⟩

/-- A draw gives a number below the bound and leaves the start where it is. -/
theorem nextInt_eq_ok {g h : Generator} {bound : Int} {n : Nat}
    (drawn : g.nextInt bound = .ok (n, h)) : (n : Int) < bound ∧ SameStart g h := by
  rw [nextInt] at drawn
  split at drawn
  · cases drawn
  · next positive =>
    cases found : g.below bound.toNat with
    | none =>
      rw [found] at drawn
      cases drawn
    | some pair =>
      rw [found] at drawn
      cases drawn
      obtain ⟨below, same⟩ := below_eq_some found
      exact ⟨by omega, same⟩

end Generator

end Vivarium
