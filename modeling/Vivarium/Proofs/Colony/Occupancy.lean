import Vivarium.Proofs.Board.Turn
import Vivarium.Proofs.Colony.Operation

/-!
# Who stands where in a colony

The squares and the creatures of a colony agree on who stands where, whatever operations were
performed and whichever of them failed.

1. `Colony.Orderly`: the invariant. Besides the agreement it says that creatures are numbered as they
   came and have the limit that the settings give.
2. `Change.orderly`: every change keeps it.
3. `reachable_occupants`: what it means for who is found where in a reachable colony.
-/

namespace Vivarium.Colony

variable {κ : Type}

/-! ## The invariant -/

/-- A colony whose squares and creatures agree, and whose creatures are numbered as they came. -/
structure Orderly (c : Colony κ) : Prop where
  agrees : c.board.Agrees
  numbered : ∀ {slot : Nat} {d : Creature}, c.board.creatures[slot]? = some d → d.id = slot
  next : c.nextId = c.population
  limited : ∀ {slot : Nat} {d : Creature}, c.board.creatures[slot]? = some d →
    TurnLimit.ofValue c.settings.turnLimit = .ok d.limit

namespace Orderly

variable {c d : Colony κ}

/-- What else changes does not matter. -/
theorem of_same (orderly : c.Orderly) (settings : d.settings = c.settings)
    (grid : d.board.grid = c.board.grid) (creatures : d.board.creatures = c.board.creatures)
    (next : d.nextId = c.nextId) : d.Orderly where
  agrees := orderly.agrees.of_positions grid fun i => by rw [creatures]
  numbered here := orderly.numbered (creatures ▸ here)
  next := by rw [next, orderly.next, population, population, creatures]
  limited here := settings ▸ orderly.limited (creatures ▸ here)

/-- Creatures may change but for their numbers and limits, as long as they and the squares agree. -/
theorem withBoard (orderly : c.Orderly) {after : Board (Dice κ)} (agrees : after.Agrees)
    (same : ∀ i : Nat, (after.creatures[i]?).map (fun d => (d.id, d.limit)) =
      (c.board.creatures[i]?).map fun d => (d.id, d.limit))
    (size : after.creatures.size = c.board.creatures.size) : (c.withBoard after).Orderly := by
  have before {slot : Nat} {d : Creature} (here : after.creatures[slot]? = some d) :
      ∃ e, c.board.creatures[slot]? = some e ∧ e.id = d.id ∧ e.limit = d.limit := by
    have there := same slot
    rw [here, Option.map_some] at there
    obtain ⟨e, found, alike⟩ := Option.map_eq_some_iff.1 there.symm
    exact ⟨e, found, congrArg Prod.fst alike, congrArg Prod.snd alike⟩
  refine ⟨agrees, ?_, ?_, ?_⟩
  · intro slot d here
    obtain ⟨e, found, id, -⟩ := before here
    rw [← id]
    exact orderly.numbered found
  · exact orderly.next.trans size.symm
  · intro slot d here
    obtain ⟨e, found, -, limit⟩ := before here
    rw [← limit]
    exact orderly.limited found

/-- A newcomer is the last creature. -/
theorem insert (orderly : c.Orderly) {d : Creature} (newcomer : c.Newcomer d) :
    Orderly { c with board := c.board.insert d, nextId := c.nextId + 1 } := by
  have creatures : (c.board.insert d).creatures = c.board.creatures.push d := by
    rw [Board.insert, Board.draw_eq]
  have found (slot : Nat) : (c.board.insert d).creatures[slot]? =
      if slot = c.population then some d else c.board.creatures[slot]? := by
    rw [creatures]
    exact Array.getElem?_push
  refine ⟨orderly.agrees.insert newcomer.inside newcomer.free, ?_, ?_, ?_⟩
  · intro slot e here
    rw [found] at here
    split at here
    · next last =>
      cases here
      rw [newcomer.id, orderly.next, last]
    · exact orderly.numbered here
  · show c.nextId + 1 = (c.board.insert d).creatures.size
    rw [creatures, Array.size_push, orderly.next, population]
  · intro slot e here
    rw [found] at here
    split at here
    · cases here
      exact newcomer.limited
    · exact orderly.limited here

/-- An empty colony is orderly. -/
theorem of_empty (vacant : ∀ p, c.board.grid.get? p = none) (empty : c.board.creatures = #[])
    (next : c.nextId = 0) : c.Orderly where
  agrees := Board.agrees_of_empty vacant empty
  numbered here := by simp [empty] at here
  next := by rw [next, population, empty]; rfl
  limited here := by simp [empty] at here

/-- The creature whose turn it is in a round is there. -/
theorem exists_creature (orderly : c.Orderly) {board : Board (Dice κ)}
    (orderly' : (c.withBoard board).Orderly) {slot : Nat} (inside : slot < c.population) :
    ∃ d, board.creatures[slot]? = some d := by
  have size : c.population = board.creatures.size := orderly.next.symm.trans orderly'.next
  rw [size] at inside
  exact ⟨_, Array.getElem?_eq_getElem inside⟩

/-- A limit is given only where one was set. -/
theorem limit_set (orderly : c.Orderly) {slot : Nat} {d : Creature}
    (here : c.board.creatures[slot]? = some d) {limit : TurnLimit} (limited : d.limit = some limit) :
    c.settings.turnLimit ≠ .null := by
  intro unset
  have given := orderly.limited here
  rw [unset, limited] at given
  cases given

end Orderly

/-! ## What keeps it -/

theorem Bare.get?_eq_none {c : Colony κ} (bare : c.Bare) (p : Position) : c.board.grid.get? p = none := by
  rw [← bare.grid]
  exact Grid.get?_clear _ p

/-- A colony in which nobody lives is orderly. -/
theorem Bare.orderly {c : Colony κ} (bare : c.Bare) : c.Orderly :=
  .of_empty bare.get?_eq_none bare.creatures bare.nextId

theorem unpopulated_orderly {settings : Settings} {founding : Founding κ} {roster : List Species}
    {journal : Array Journal.Entry} {c : Colony κ}
    (founded : unpopulated settings founding roster journal = .ok c) : c.Orderly :=
  (unpopulated_eq_ok founded).2.2.2.orderly

/-- Every change keeps a colony orderly. -/
theorem Change.orderly [CoinSource κ] {c d : Colony κ} (change : Change c d)
    (orderly : c.Orderly) : d.Orderly := by
  cases change with
  | noted | drew | enlisted | reported | rested => exact orderly.of_same rfl rfl rfl rfl
  | placed newcomer => exact orderly.insert newcomer
  | @faced slot d here direction =>
    have there := Board.getElem?_put_self here { d with direction := direction }
    rw [Board.update_eq_put here, Board.redraw_eq there]
    exact orderly.withBoard (orderly.agrees.of_positions rfl (Board.map_put here rfl))
      (Board.map_put here rfl) Array.size_setIfInBounds
  | @turned slot d here =>
    -- No turn changes a creature's number or its limit, and none is added or lost.
    obtain ⟨address, coin, -, turned⟩ := Board.turn_turned orderly.agrees here
    exact orderly.withBoard (turned.agrees orderly.agrees here)
      (turned.map_eq here (fun _ => rfl) (fun _ => rfl) (fun _ _ => rfl) (fun _ => rfl) fun _ => rfl)
      turned.size_eq
  | cleared => exact c.bare_cleared.orderly

theorem Plays.orderly [CoinSource κ] {c d : Colony κ} (chain : Plays c d) (orderly : c.Orderly) :
    d.Orderly :=
  chain.changes.keeps Change.orderly orderly

theorem perform_orderly [CoinSource κ] {c : Colony κ} (orderly : c.Orderly) (operation : Operation) :
    (c.perform operation).2.Orderly :=
  (perform_changes c operation).keeps Change.orderly orderly

theorem Reachable.orderly [CoinSource κ] {c : Colony κ} (reached : Reachable c) : c.Orderly :=
  reached.invariant unpopulated_orderly Change.orderly

/-! ## Occupants -/

/-- In a reachable colony every creature stands on a square of the grid that holds it and has the
number of its slot; every square that holds something holds a creature that stands there; no two
creatures stand on one square; and the occupants of the grid are exactly the creatures. -/
theorem reachable_occupants [CoinSource κ] {c : Colony κ} (reached : Reachable c) :
    (∀ (slot : Nat) d, c.board.creatures[slot]? = some d →
      c.board.grid.contains d.position = true ∧ c.board.grid.get? d.position = some slot ∧
        d.id = slot) ∧
    (∀ p slot, c.board.grid.get? p = some slot →
      ∃ d, c.board.creatures[slot]? = some d ∧ d.position = p) ∧
    (∀ (i j : Nat) (d e : Creature), c.board.creatures[i]? = some d → c.board.creatures[j]? = some e →
      d.position = e.position → i = j) ∧
    (∀ p slot, (p, slot) ∈ c.board.grid.occupants ↔
      ∃ d, c.board.creatures[slot]? = some d ∧ d.position = p) := by
  have orderly := reached.orderly
  have agrees := orderly.agrees
  refine ⟨?_, ?_, ?_, ?_⟩
  · intro slot d here
    exact ⟨agrees.contains here, agrees.holds here, orderly.numbered here⟩
  · intro p slot held
    exact agrees.stands held
  · intro i j d e hi hj same
    exact agrees.position_injective hi hj same
  · intro p slot
    rw [Grid.mem_occupants]
    constructor
    · exact agrees.stands
    · rintro ⟨d, here, rfl⟩
      exact agrees.holds here

/-- After the hopper came up to the trap and was infected, the occupants are the two of them. -/
theorem huntedLane_occupants :
    Reachable huntedLane ∧ ∀ p slot, (p, slot) ∈ huntedLane.board.grid.occupants ↔
      ∃ d, huntedLane.board.creatures[slot]? = some d ∧ d.position = p :=
  ⟨huntedLane_reachable, (reachable_occupants huntedLane_reachable).2.2.2⟩

end Vivarium.Colony
