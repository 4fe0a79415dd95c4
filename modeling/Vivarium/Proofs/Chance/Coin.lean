import Mathlib.Data.FinEnum
import Mathlib.Data.Fintype.BigOperators
import Vivarium.Chance.Coin

/-!
# Coins with finitely many states

A coin gives a bound on the number of its states (`CoinSource.states`), and a turn without a limit
relies on it. Here is what it means for the bound to be right, and that it is right for the coins
there are.

1. `Shadow`: a machine with finitely many states that flips as a coin does.
2. `LawfulCoinSource`: every state of a coin has a shadow with no more states than the bound.
3. `Chance.Twister.card_eq`: the generator has as many states as it says.
4. Scripts are lawful, and dice are lawful if the coin that stands in for the generator is.
5. `exists_lawful`: no results are lost by asking for a lawful coin.
-/

namespace Vivarium

/-! ## Shadows -/

/-- A machine with states in `ι` that flips as a coin does, from a state of the coin on. The states
of the coin may be many more: they count flips, say. -/
structure Shadow {σ : Type} [CoinSource σ] (coin : σ) (ι : Type) where
  flip : ι → Option (Bool × ι)
  Follows : σ → ι → Prop
  start : ι
  starts : Follows coin start
  follows : ∀ {s : σ} {i : ι}, Follows s i →
    Option.Rel (fun a b => a.1 = b.1 ∧ Follows a.2 b.2) (CoinSource.flip s) (flip i)

/-- A kind of coin that is right about the number of its states. -/
class LawfulCoinSource (σ : Type) [CoinSource σ] : Prop where
  shadow : ∀ coin : σ, ∃ (ι : Type) (_ : Fintype ι),
    Fintype.card ι ≤ max 1 (CoinSource.states coin) ∧ Nonempty (Shadow coin ι)

/-! ## Scripts -/

/-- The shadow of a script: the place in its list of the next result. -/
def Script.shadow (s : Script) : Shadow s (Fin (max 1 s.results.length)) where
  flip i := s.results[i.val]?.map fun result =>
    (result, ⟨(i.val + 1) % max 1 s.results.length, Nat.mod_lt _ (by omega)⟩)
  Follows t i := t.results = s.results ∧ t.flips % max 1 s.results.length = i
  start := ⟨s.flips % max 1 s.results.length, Nat.mod_lt _ (by omega)⟩
  starts := ⟨rfl, rfl⟩
  follows := by
    rintro ⟨results, flips⟩ i ⟨rfl, place⟩
    have next : (flips + 1) % max 1 s.results.length =
        (i.val + 1) % max 1 s.results.length := by rw [← place, Nat.mod_add_mod]
    have read : s.results[flips % s.results.length]? = s.results[i.val]? := by
      rcases Nat.eq_zero_or_pos s.results.length with empty | filled
      · rw [List.getElem?_eq_none (by omega), List.getElem?_eq_none (by omega)]
      · rw [← place, Nat.max_eq_right filled]
    show Option.Rel _ (Script.flip ⟨s.results, flips⟩) _
    rw [Script.flip, read]
    cases s.results[i.val]? with
    | none => exact .none
    | some result => exact .some ⟨rfl, rfl, next⟩

instance : LawfulCoinSource Script where
  shadow s := ⟨_, inferInstance, Nat.le_of_eq (Fintype.card_fin _), ⟨s.shadow⟩⟩

/-- The results of so many flips, up to one without a coin. -/
def flips {σ : Type} [CoinSource σ] : Nat → σ → List Bool
  | 0, _ => []
  | count + 1, coin =>
    match CoinSource.flip coin with
    | none => []
    | some (result, next) => result :: flips count next

theorem Script.flips_from (results : List Bool) (count i : Nat) (left : i + count = results.length) :
    Vivarium.flips count (⟨results, i⟩ : Script) = results.drop i := by
  induction count generalizing i with
  | zero =>
    rw [List.drop_eq_nil_of_le (by omega)]
    rfl
  | succ count ih =>
    have inside : i < results.length := by omega
    have flipped : CoinSource.flip (⟨results, i⟩ : Script) =
        some (results[i], ⟨results, i + 1⟩) := by
      show Script.flip _ = _
      rw [Script.flip, Nat.mod_eq_of_lt inside, List.getElem?_eq_getElem inside]
      rfl
    rw [Vivarium.flips, flipped, List.drop_eq_getElem_cons inside]
    exact congrArg _ (ih (i + 1) (by omega))

/-- Whatever is flipped for a while, a lawful coin can flip it. A turn that ends flips its coin finitely
often, so to ask for a lawful coin excludes no such turn. -/
theorem exists_lawful (results : List Bool) :
    ∃ (σ : Type) (_ : CoinSource σ) (_ : LawfulCoinSource σ) (coin : σ),
      flips results.length coin = results :=
  ⟨Script, inferInstance, inferInstance, .ofList results,
    Script.flips_from results results.length 0 (Nat.zero_add _)⟩

/-! ## Generators -/

namespace Chance.Twister

/-- A state of the generator by its words and the number of those that were given out. -/
def equivFields : Twister ≃ (Fin 624 → UInt32) × Fin 625 where
  toFun t := (t.words.get, t.used)
  invFun fields := ⟨Vector.ofFn fields.1, fields.2⟩
  left_inv t := by
    have words : Vector.ofFn t.words.get = t.words := by
      ext i inside
      rw [Vector.getElem_ofFn]
      rfl
    exact congrArg (fun words => (⟨words, t.used⟩ : Twister)) words
  right_inv fields := by
    have words : (Vector.ofFn fields.1).get = fields.1 :=
      funext fun i => Vector.getElem_ofFn i.isLt
    exact congrArg (fun words => (words, fields.2)) words

instance : Fintype Twister := Fintype.ofEquiv _ equivFields.symm

theorem stateCount_eq : stateCount = 625 * Nat.pow 2 19968 := by
  unfold stateCount
  exact Eq.refl _

/-- The generator has as many states as it says. -/
theorem card_eq : Fintype.card Twister = stateCount := by
  have word : Fintype.card UInt32 = 2 ^ 32 := FinEnum.card_eq_fintypeCard.symm
  -- The exponents are variables here, so that no power is ever computed.
  have power {bits count all : Nat} (product : bits * count = all) :
      (2 ^ bits) ^ count * 625 = 625 * Nat.pow 2 all := by
    rw [← product, ← Nat.pow_mul, Nat.mul_comm]
    rfl
  have card : Fintype.card Twister = (2 ^ 32) ^ 624 * 625 := by
    rw [Fintype.card_congr equivFields, Fintype.card_prod, Fintype.card_fun, word,
      Fintype.card_fin, Fintype.card_fin]
  exact card.trans ((power (by decide)).trans stateCount_eq.symm)

end Chance.Twister

/-! ## Dice -/

namespace Dice

variable {κ : Type} [CoinSource κ]

def flipOf (t : Chance.Twister) : Bool × Chance.Twister :=
  let flipped := Generator.flip ⟨.null, .number 0, t⟩
  (flipped.1, flipped.2.state)

/-- The shadow of dice without another coin: the state of the generator. -/
def shadowOfGenerator (d : Dice κ) (alone : d.script = none) : Shadow d Chance.Twister where
  flip t := some ((flipOf t).1, (flipOf t).2)
  Follows e t := e.script = none ∧ e.generator.state = t
  start := d.generator.state
  starts := ⟨alone, rfl⟩
  follows := by
    rintro e t ⟨alone, rfl⟩
    show Option.Rel _ (some e.flip) _
    rw [flip, alone]
    exact .some ⟨rfl, rfl, rfl⟩

/-- The shadow of dice with another coin: that of the coin, and the state of the generator, which
is used when the coin has no result. -/
def shadowOfScript (d : Dice κ) {script : κ} (given : d.script = some script) {ι : Type}
    (coin : Shadow script ι) : Shadow d (ι × Chance.Twister) where
  flip state :=
    match coin.flip state.1 with
    | some (result, next) => some (result, (next, state.2))
    | none =>
      some ((flipOf state.2).1, (state.1, (flipOf state.2).2))
  Follows e state := ∃ s, e.script = some s ∧ coin.Follows s state.1 ∧ e.generator.state = state.2
  start := (coin.start, d.generator.state)
  starts := ⟨script, given, coin.starts, rfl⟩
  follows := by
    rintro e ⟨i, t⟩ ⟨s, given, follows, rfl⟩
    have flipped := coin.follows follows
    show Option.Rel _ (some e.flip) _
    rw [flip, given, Option.bind_some]
    dsimp only
    generalize CoinSource.flip s = result at flipped
    generalize coin.flip i = shadowed at flipped
    cases flipped with
    | none => exact .some ⟨rfl, s, rfl, follows, rfl⟩
    | some same => exact .some ⟨same.1, _, rfl, same.2, rfl⟩

/-- Dice are right about the number of their states if the coin that stands in is. -/
instance [LawfulCoinSource κ] : LawfulCoinSource (Dice κ) where
  shadow d := by
    have states : CoinSource.states d =
        (d.script.elim 1 fun s => max 1 (CoinSource.states s)) * Chance.Twister.stateCount := rfl
    cases given : d.script with
    | none =>
      refine ⟨Chance.Twister, inferInstance, ?_, ⟨d.shadowOfGenerator given⟩⟩
      rw [states, given, Chance.Twister.card_eq, Option.elim_none, Nat.one_mul]
      exact Nat.le_max_right _ _
    | some script =>
      obtain ⟨ι, _, card, ⟨coin⟩⟩ := LawfulCoinSource.shadow script
      refine ⟨ι × Chance.Twister, inferInstance, ?_, ⟨d.shadowOfScript given coin⟩⟩
      rw [states, given, Fintype.card_prod, Chance.Twister.card_eq, Option.elim_some]
      exact Nat.le_trans (Nat.mul_le_mul_right _ card) (Nat.le_max_right _ _)

end Dice

end Vivarium
