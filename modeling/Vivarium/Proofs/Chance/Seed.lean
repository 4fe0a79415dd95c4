import Vivarium.Chance.Generator

/-!
# One start after the other

A generator with a seed begins in the same state at every start. One without a seed begins in the states
that come from outside, one after the other.

1. `Origin.after`, `Entropy.after`: what is left after some starts.
2. `ofValue_after`: a seed leaves the same places to begin as what is left from outside gives it.
3. `Entropy.Alike`, `ofValue_of_alike`: when a seed begins in the same place with other things from outside.
-/

namespace Vivarium

/-- What is left from outside when some states were used. -/
def Entropy.after (entropy : Entropy) (k : Nat) : Entropy :=
  { entropy with states := fun n => entropy.states (n + k) }

namespace Origin

/-- Where a generator begins after some starts. -/
def after : Origin → Nat → Origin
  | number n, _ => number n
  | outside states, k => outside fun n => states (n + k)

theorem after_zero (origin : Origin) : origin.after 0 = origin := by
  cases origin <;> rfl

theorem after_after (origin : Origin) (j k : Nat) : (origin.after j).after k = origin.after (j + k) := by
  cases origin with
  | number n => rfl
  | outside states =>
    simp only [after, outside.injEq]
    funext n
    rw [Nat.add_assoc, Nat.add_comm k j]

/-- A start leaves what is left after it. -/
theorem start_snd (origin : Origin) : origin.start.2 = origin.after 1 := by
  cases origin <;> rfl

/-- A seed lets a generator begin where it begins after as many starts as states from outside were used. -/
theorem ofValue_after (entropy : Entropy) (seed : Value) (k : Nat) :
    ofValue (entropy.after k) seed = (ofValue entropy seed).map fun origin => origin.after k := by
  cases seed <;> rfl

end Origin

/-- What comes from outside is the same as far as it matters to a seed: the states that generators begin
in are the same if there is no seed. -/
structure Entropy.Alike (entropy other : Entropy) (seed : Value) : Prop where
  address : other.address = entropy.address
  states : seed = .null → other.states = entropy.states

/-- To a seed it does not matter how many states were used. -/
theorem Entropy.alike_after (entropy : Entropy) {seed : Value} (given : seed ≠ .null) (k : Nat) :
    entropy.Alike (entropy.after k) seed :=
  ⟨rfl, fun none => absurd none given⟩

theorem Origin.ofValue_of_alike {entropy other : Entropy} {seed : Value}
    (alike : entropy.Alike other seed) : ofValue other seed = ofValue entropy seed := by
  obtain ⟨address, states⟩ := alike
  cases seed with
  | null => rw [ofValue, ofValue, states rfl]
  | float x => rw [ofValue, ofValue, address]
  | _ => rfl

namespace Generator

/-- A generator begins again where it begins after one more start. -/
theorem origin_startAt (seed : Value) (origin : Origin) :
    (startAt seed origin).origin = origin.after 1 := origin.start_snd

/-- A generator at its start, and those that are made later from the same seed. -/
theorem exists_origin {entropy : Entropy} {seed : Value} {g : Generator}
    (seeded : ofSeed seed entropy = .ok g) :
    ∃ origin, g = startAt seed origin ∧
      ∀ k, ofSeed seed (entropy.after k) = .ok (startAt seed (origin.after k)) := by
  rw [ofSeed] at seeded
  cases begun : Origin.ofValue entropy seed with
  | error fault =>
    rw [begun] at seeded
    cases seeded
  | ok origin =>
    rw [begun] at seeded
    refine ⟨origin, (Except.ok.inj seeded).symm, fun k => ?_⟩
    rw [ofSeed, Origin.ofValue_after, begun]
    rfl

end Generator

end Vivarium
