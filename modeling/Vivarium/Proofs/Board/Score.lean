import Mathlib.Algebra.GroupWithZero.Nat
import Vivarium.Proofs.Board.Turn

/-!
# What a turn adds to the scores

A creature counts its moves and its infections. A turn adds at most one to the moves of all creatures,
and then its creature has left its square by a hop; and at most one to the infections of all, and then
some creature has another species.

`Turned.moves_eq` and `Turned.infections_eq` say what a turn adds, and the action that it then ended
with.
-/

namespace Vivarium.Board

variable {σ : Type} {b after : Board σ} {slot : Nat} {c d : Creature}

def total (f : Creature → Nat) (b : Board σ) : Nat := (b.creatures.toList.map f).sum

/-- Whether the creature in a slot stands somewhere else on another board. -/
def displaced (b after : Board σ) (slot : Nat) : Bool :=
  (after.creatures[slot]?).map Creature.position != (b.creatures[slot]?).map Creature.position

/-- Whether some creature is of another species on another board. -/
def converts (b after : Board σ) : Bool :=
  after.creatures.toList.map Creature.lineage != b.creatures.toList.map Creature.lineage

/-! ## Sums of scores -/

theorem sum_set_add {scores : List Nat} {i score : Nat} (there : scores[i]? = some score)
    (new : Nat) : (scores.set i new).sum + score = scores.sum + new := by
  induction scores generalizing i with
  | nil => simp at there
  | cons first rest ih =>
    cases i with
    | zero =>
      simp only [List.getElem?_cons_zero, Option.some.injEq] at there
      simp only [List.set_cons_zero, List.sum_cons]
      omega
    | succ i =>
      have later := ih there
      simp only [List.set_cons_succ, List.sum_cons]
      omega

theorem total_put (f : Creature → Nat) (here : b.creatures[slot]? = some c) (d : Creature) :
    (b.put slot d).total f + f c = b.total f + f d := by
  have there : (b.creatures.toList.map f)[slot]? = some (f c) := by
    rw [List.getElem?_map, Array.getElem?_toList, here]
    rfl
  rw [total, toList_map_put]
  exact sum_set_add there (f d)

theorem total_put_of_eq (f : Creature → Nat) (here : b.creatures[slot]? = some c)
    (same : f d = f c) : (b.put slot d).total f = b.total f := by
  have sum := total_put f here d
  omega

theorem total_paused (f : Creature → Nat) (here : b.creatures[slot]? = some c) {counter : Int}
    {coin : σ} (same : f { c with counter := counter } = f c) :
    (b.paused slot counter coin).total f = b.total f := by
  rw [paused, setCounter, update_eq_put here]
  exact total_put_of_eq f here same

/-- What a turn adds to a score if it does not do what the score counts. -/
theorem score_of_not {before after : Nat} {counted : Bool} {P : Prop} (still : counted = false)
    (same : after = before) :
    after = before + counted.toNat ∧ (counted = true → P) := by
  rw [still, same]
  exact ⟨rfl, fun counted => by cases counted⟩

theorem displaced_of_map_eq (same : (after.creatures[slot]?).map Creature.position =
    (b.creatures[slot]?).map Creature.position) : b.displaced after slot = false := by
  rw [displaced, same, bne_self_eq_false]

theorem converts_of_map_eq (same : after.creatures.toList.map Creature.lineage =
    b.creatures.toList.map Creature.lineage) : b.converts after = false := by
  rw [converts, same, bne_self_eq_false]

/-! ## Turns -/

section Turns

variable [CoinSource σ] {address : Int} {coin : σ} {result : Except Fault Action}

/-- A turn moves no creature but its own. -/
theorem Turned.position_of_ne (turned : Turned b slot c address coin result after)
    (here : b.creatures[slot]? = some c) {i : Nat} (other : slot ≠ i) :
    (after.creatures[i]?).map Creature.position = (b.creatures[i]?).map Creature.position := by
  cases turned with
  | hopped | left | right => exact congrArg _ (getElem?_put_of_ne other _)
  | @infected victim rival fetched held there apart enemy =>
    have there' := (getElem?_put_of_ne apart (c.afterInfection (address + 1))).trans there
    exact (map_put (d := rival.converted c) there' rfl i).trans
      (map_put (d := c.afterInfection (address + 1)) here rfl i)
  | blocked | spared | capped | endless | coinless =>
    exact congrArg _ (getElem?_paused_of_ne other _ _)

/-- A turn adds a move if its creature has left its square, and none otherwise. -/
theorem Turned.moves_eq (turned : Turned b slot c address coin result after)
    (here : b.creatures[slot]? = some c) :
    after.total Creature.moves = b.total Creature.moves + (b.displaced after slot).toNat ∧
      (b.displaced after slot = true → result = .ok .hop) := by
  have paused (next : Int) (coin : σ) :
      ((b.paused slot next coin).creatures[slot]?).map Creature.position =
        (b.creatures[slot]?).map Creature.position := by
    rw [getElem?_paused_self here, here]
    rfl
  cases turned with
  | hopped fetched inside free =>
    let gone := b.put slot (c.afterHop (address + 1))
    have sum : gone.total Creature.moves + c.moves = b.total Creature.moves + (c.moves + 1) :=
      total_put Creature.moves here (c.afterHop (address + 1))
    have away : b.displaced gone slot = true := by
      rw [displaced, bne_iff_ne, ne_eq, here, getElem?_put_self here, Option.map_some,
        Option.map_some, Option.some.injEq]
      exact Position.adjacent_ne c.position c.direction
    refine ⟨?_, fun _ => rfl⟩
    show gone.total Creature.moves = b.total Creature.moves + (b.displaced gone slot).toNat
    rw [away, Bool.toNat_true]
    omega
  | left fetched =>
    refine score_of_not (displaced_of_map_eq ?_) (total_put_of_eq _ here rfl)
    exact map_put (d := c.afterFacing (address + 1) c.direction.left) here rfl slot
  | right fetched =>
    refine score_of_not (displaced_of_map_eq ?_) (total_put_of_eq _ here rfl)
    exact map_put (d := c.afterFacing (address + 1) c.direction.right) here rfl slot
  | @infected victim other fetched held there apart enemy =>
    have there' := (getElem?_put_of_ne apart (c.afterInfection (address + 1))).trans there
    refine score_of_not (displaced_of_map_eq ?_) ?_
    · exact (map_put (d := other.converted c) there' rfl slot).trans
        (map_put (d := c.afterInfection (address + 1)) here rfl slot)
    · exact (total_put_of_eq (d := other.converted c) Creature.moves there' rfl).trans
        (total_put_of_eq (d := c.afterInfection (address + 1)) Creature.moves here rfl)
  | blocked | spared | capped | endless | coinless =>
    exact score_of_not (displaced_of_map_eq (paused _ _)) (total_paused _ here rfl)

/-- A turn adds an infection if some creature has another species after it, and none otherwise. -/
theorem Turned.infections_eq (turned : Turned b slot c address coin result after)
    (here : b.creatures[slot]? = some c) :
    after.total Creature.infections = b.total Creature.infections + (b.converts after).toNat ∧
      (b.converts after = true → result = .ok .infect) := by
  have paused (next : Int) (coin : σ) :
      (b.paused slot next coin).creatures.toList.map Creature.lineage =
        b.creatures.toList.map Creature.lineage := by
    rw [Board.paused, setCounter, update_eq_put here]
    exact toList_map_put_of_eq here rfl
  cases turned with
  | hopped | left | right =>
    exact score_of_not (converts_of_map_eq (toList_map_put_of_eq here rfl))
      (total_put_of_eq _ here rfl)
  | @infected victim other fetched held there apart enemy =>
    let acted := b.put slot (c.afterInfection (address + 1))
    have there' : acted.creatures[victim]? = some other := (getElem?_put_of_ne apart _).trans there
    have attacker : acted.total Creature.infections + c.infections =
        b.total Creature.infections + (c.infections + 1) :=
      total_put Creature.infections here (c.afterInfection (address + 1))
    have spread : (acted.put victim (other.converted c)).total Creature.infections =
        acted.total Creature.infections := total_put_of_eq Creature.infections there' rfl
    -- The victim's species has another number now, so the species are not those of before.
    have changed : b.converts (acted.put victim (other.converted c)) = true := by
      rw [converts, bne_iff_ne]
      intro same
      have was : (b.creatures.toList.map Creature.lineage)[victim]? = some other.lineage := by
        rw [List.getElem?_map, Array.getElem?_toList, there]
        rfl
      rw [← same, List.getElem?_map, Array.getElem?_toList, getElem?_put_self there'] at was
      have number : c.lineage.number = other.lineage.number :=
        congrArg Lineage.number (Option.some.inj was)
      exact beq_eq_false_iff_ne.1 enemy number.symm
    refine ⟨?_, fun _ => rfl⟩
    show (acted.put victim (other.converted c)).total Creature.infections =
      b.total Creature.infections + (b.converts (acted.put victim (other.converted c))).toNat
    rw [changed, spread, Bool.toNat_true]
    omega
  | blocked | spared | capped | endless | coinless =>
    exact score_of_not (converts_of_map_eq (paused _ _)) (total_paused _ here rfl)

end Turns

end Vivarium.Board
