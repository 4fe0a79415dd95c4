import Vivarium.Proofs.Board.Turn

/-!
# The effect of an action, square by square and creature by creature

`Board.Effect` says what an action leaves on every square and of every creature, in terms of the board
before it: what the action is for, and that it touches nothing else. `Turned.effect` shows it of
every turn that ends with an action.
-/

namespace Vivarium.Board

variable {σ : Type}

/-! ## What lies ahead -/

def freeAhead (b : Board σ) (c : Creature) : Bool :=
  b.grid.contains c.ahead && (b.grid.get? c.ahead).isNone

/-- The slot of the creature ahead, if there is one and it is of another species. -/
def enemyAhead? (b : Board σ) (c : Creature) : Option Nat :=
  (b.grid.get? c.ahead).filter fun victim =>
    b.creatures[victim]?.any fun other => !other.sameSpecies c

/-! ## What an action leaves -/

/-- What is on a square after an action of the creature `c` in `slot`. Only a hop to a free square
changes squares. -/
def squareAfter (b : Board σ) (slot : Nat) (c : Creature) (action : Action) (p : Position) :
    Option Nat :=
  if action = .hop ∧ b.freeAhead c = true then
    if p = c.ahead then some slot else if p = c.position then none else b.grid.get? p
  else b.grid.get? p

def actorAfter (b : Board σ) (c : Creature) (next : Int) : Action → Creature
  | .hop =>
    if b.freeAhead c then { c with counter := next, position := c.ahead, moves := c.moves + 1 }
    else { c with counter := next }
  | .left => { c with counter := next, direction := c.direction.left }
  | .right => { c with counter := next, direction := c.direction.right }
  | .infect =>
    if (b.enemyAhead? c).isSome then { c with counter := next, infections := c.infections + 1 }
    else { c with counter := next }

/-- What is in a slot after an action of the creature `c` in `slot`. Besides that creature only the
victim of an infection changes. -/
def creatureAfter (b : Board σ) (slot : Nat) (c : Creature) (next : Int) (action : Action) (i : Nat) :
    Option Creature :=
  if i = slot then some (b.actorAfter c next action)
  else if action = .infect ∧ b.enemyAhead? c = some i then
    b.creatures[i]?.map fun other => { other with lineage := c.lineage, counter := 1 }
  else b.creatures[i]?

/-- The effect of an action of the creature `c` in `slot`, whose counter is `next` after it. -/
structure Effect (b : Board σ) (slot : Nat) (c : Creature) (action : Action) (next : Int)
    (after : Board σ) : Prop where
  width : after.grid.width = b.grid.width
  height : after.grid.height = b.grid.height
  squares : ∀ p, after.grid.get? p = b.squareAfter slot c action p
  creatures : ∀ i : Nat, after.creatures[i]? = b.creatureAfter slot c next action i

/-! ## Lemmas -/

variable {b : Board σ} {slot : Nat} {c : Creature}

theorem freeAhead_eq_true : b.freeAhead c = true ↔
    b.grid.contains c.ahead = true ∧ b.grid.get? c.ahead = none := by
  rw [freeAhead, Bool.and_eq_true, Option.isNone_iff_eq_none]

theorem enemyAhead?_eq_some {victim : Nat} : b.enemyAhead? c = some victim ↔
    b.grid.get? c.ahead = some victim ∧
      ∃ other, b.creatures[victim]? = some other ∧ other.sameSpecies c = false := by
  rw [enemyAhead?, Option.filter_eq_some_iff, Option.any_eq_true]
  simp only [Bool.not_eq_true']

theorem enemyAhead?_eq_none : b.enemyAhead? c = none ↔
    ∀ victim other, b.grid.get? c.ahead = some victim → b.creatures[victim]? = some other →
      other.sameSpecies c = true := by
  rw [enemyAhead?, Option.filter_eq_none_iff]
  simp only [Option.any_eq_true, Bool.not_eq_true', not_exists, not_and, Bool.not_eq_false]
  exact ⟨fun h victim other held there => h victim held other there,
    fun h victim held other there => h victim other held there⟩

theorem squareAfter_hop (ahead : b.freeAhead c = true) (slot : Nat) (p : Position) :
    b.squareAfter slot c .hop p =
      if p = c.ahead then some slot else if p = c.position then none else b.grid.get? p :=
  if_pos ⟨rfl, ahead⟩

theorem squareAfter_still {action : Action} (still : ¬(action = .hop ∧ b.freeAhead c = true))
    (slot : Nat) (p : Position) : b.squareAfter slot c action p = b.grid.get? p := if_neg still

theorem creatureAfter_spared {action : Action} (spared : action = .infect → b.enemyAhead? c = none)
    (slot : Nat) (next : Int) (i : Nat) :
    b.creatureAfter slot c next action i =
      if i = slot then some (b.actorAfter c next action) else b.creatures[i]? := by
  rw [creatureAfter]
  split
  · rfl
  · rw [if_neg]
    rintro ⟨infects, victim⟩
    rw [spared infects] at victim
    cases victim

/-- The grid stays, and only the acting creature changes. -/
theorem Effect.of_actor {action : Action} {next : Int} {after : Board σ}
    (grid : after.grid = b.grid)
    (still : ¬(action = .hop ∧ b.freeAhead c = true))
    (spared : action = .infect → b.enemyAhead? c = none)
    (creatures : ∀ i : Nat, after.creatures[i]? =
      if i = slot then some (b.actorAfter c next action) else b.creatures[i]?) :
    b.Effect slot c action next after where
  width := by rw [grid]
  height := by rw [grid]
  squares p := by rw [squareAfter_still still, grid]
  creatures i := by rw [creatures, creatureAfter_spared spared]

/-! ## Every turn that ends with an action -/

/-- A turn that ends with an action has fetched it at the address it came to, and has its effect. -/
theorem Turned.effect [CoinSource σ] {address : Int} {coin : σ} {action : Action}
    {after : Board σ} (turned : Turned b slot c address coin (.ok action) after)
    (agrees : b.Agrees) (here : b.creatures[slot]? = some c) :
    c.program.fetch address = .ok (.act action) ∧ b.Effect slot c action (address + 1) after ∧
      after.coin = coin := by
  have stands := agrees.contains here
  cases turned with
  | hopped fetched inside free =>
    have ahead : b.freeAhead c = true := freeAhead_eq_true.2 ⟨inside, free⟩
    refine ⟨fetched, ⟨?_, ?_, ?_, ?_⟩, rfl⟩
    · simp only [Grid.width_write]
    · simp only [Grid.height_write]
    · intro p
      rw [squareAfter_hop ahead, Grid.get?_write (by rw [Grid.contains_write, inside]),
        Grid.get?_write stands]
    · intro i
      rw [creatureAfter_spared (by simp), actorAfter, if_pos ahead]
      exact getElem?_put here _ i
  | blocked fetched taken =>
    have ahead : ¬b.freeAhead c = true := by
      rw [freeAhead_eq_true]
      rintro ⟨inside, free⟩
      exact taken inside free
    refine ⟨fetched, .of_actor rfl (fun hop => ahead hop.2) (by simp) fun i => ?_, rfl⟩
    rw [actorAfter, if_neg ahead]
    exact getElem?_paused here _ coin i
  | left fetched | right fetched =>
    exact ⟨fetched, .of_actor rfl (by simp) (by simp) (getElem?_put here _), rfl⟩
  | @infected victim other fetched held there apart enemy =>
    have found : b.enemyAhead? c = some victim :=
      enemyAhead?_eq_some.2 ⟨held, other, there, enemy⟩
    have there' := (getElem?_put_of_ne apart (c.afterInfection (address + 1))).trans there
    refine ⟨fetched, ⟨rfl, rfl, ?_, ?_⟩, rfl⟩
    · exact fun p => (squareAfter_still (by simp) slot p).symm
    · intro i
      refine (getElem?_put there' _ i).trans ?_
      rw [creatureAfter, actorAfter, found, getElem?_put here]
      by_cases same : i = slot
      · subst same
        rw [if_neg apart, if_pos rfl, if_pos rfl, Option.isSome_some, if_pos rfl]
        rfl
      · rw [if_neg same, if_neg same]
        by_cases hit : victim = i
        · subst hit
          rw [if_pos rfl, if_pos ⟨rfl, rfl⟩, there]
          rfl
        · rw [if_neg (Ne.symm hit), if_neg fun h => hit (Option.some.inj h.2)]
  | spared fetched harmless =>
    have alone : b.enemyAhead? c = none := enemyAhead?_eq_none.2 harmless
    refine ⟨fetched, .of_actor rfl (by simp) (fun _ => alone) fun i => ?_, rfl⟩
    rw [actorAfter, alone]
    exact getElem?_paused here _ coin i

end Vivarium.Board
