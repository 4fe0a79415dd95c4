import Vivarium.Proofs.Board.Effect
import Vivarium.Proofs.Colony.Occupancy

/-!
# Turns and rounds of a reachable colony

1. `reachable_turn`: what a turn does to a reachable colony. A turn that ends with an action has that
   action's effect and no other; a turn that runs into its limit leaves all but its creature's
   counter and the coin as it was.
2. `takeTurns_eq_error`: a round that fails fails with one of its turns.
3. `reachable_step`: a round of a reachable colony fails only where a turn runs into the limit that
   was set, or does not end.
-/

namespace Vivarium.Colony

variable {κ : Type} [CoinSource κ]

/-! ## One turn -/

/-- A turn in a reachable colony. If it ends with an action, the creature came to that action's
address, its counter is the next one, and squares and creatures are what the action leaves of them.
If it runs into its limit, the creature came to some address, and nothing but its counter and the
coin has changed. In either case the rest of the colony is as it was. -/
theorem reachable_turn {c : Colony κ} (reached : Reachable c) {slot : Nat} {d : Creature}
    (here : c.board.creatures[slot]? = some d) :
    (∀ action after, c.turn slot = (.ok action, after) →
      ∃ address coin, c.board.Comes slot d address coin ∧
        d.program.fetch address = .ok (.act action) ∧
        c.board.Effect slot d action (address + 1) after.board ∧ after.board.coin = coin ∧
        after = c.withBoard after.board) ∧
    (∀ id name limit after, c.turn slot = (.error (.turnLimit id name limit), after) →
      ∃ address coin, c.board.Comes slot d address coin ∧
        after = c.withBoard (c.board.paused slot address coin)) := by
  have agrees := reached.orderly.agrees
  obtain ⟨address, coin, comes, turned⟩ := Board.turn_turned agrees here
  constructor
  · intro action after acted
    obtain ⟨result, left⟩ := Prod.mk.inj acted
    rw [result] at turned
    obtain ⟨fetched, effect, flipped⟩ := turned.effect agrees here
    subst left
    exact ⟨address, coin, comes, fetched, effect, flipped, rfl⟩
  · intro id name limit after capped
    obtain ⟨result, left⟩ := Prod.mk.inj capped
    subst left
    refine ⟨address, coin, comes, ?_⟩
    rw [result] at turned
    show c.withBoard (c.board.turn slot).2 = _
    generalize (c.board.turn slot).2 = board at turned
    cases turned with
    | capped => rfl

/-- The lane after the hopper came up to the trap. -/
def metLane : Colony := (facingLane.performAll [.turn 0]).2

/-- The trap that the hopper came up to. -/
def waitingTrap : Creature where
  id := 1
  lineage := ⟨1, trap⟩
  position := ⟨2, 0⟩
  direction := .west
  counter := 1
  moves := 0
  infections := 0
  limit := some ⟨5, "5"⟩
  drawn := true

/-- The trap's turn ends with an infection, which has that effect. -/
theorem metLane_turn :
    Reachable metLane ∧ metLane.board.creatures[1]? = some waitingTrap ∧
      (metLane.turn 1).1 = .ok .infect ∧
      ∃ address coin, metLane.board.Comes 1 waitingTrap address coin ∧
        waitingTrap.program.fetch address = .ok (.act .infect) ∧
        metLane.board.Effect 1 waitingTrap .infect (address + 1) (metLane.turn 1).2.board := by
  have reached : Reachable metLane := facingLane_reachable.performAll _
  have here : metLane.board.creatures[1]? = some waitingTrap := by decide +kernel
  have infects : (metLane.turn 1).1 = .ok .infect := rfl
  refine ⟨reached, here, infects, ?_⟩
  obtain ⟨address, coin, comes, fetched, effect, -, -⟩ :=
    (reachable_turn reached here).1 .infect (metLane.turn 1).2 (by rw [← infects])
  exact ⟨address, coin, comes, fetched, effect⟩

/-! ## Where a round fails -/

/-- A round that fails has come to a turn that fails, with the same fault and the same board. -/
theorem takeTurns_eq_error {slots : List Nat} {actions : Table String Nat} {b after : Board (Dice κ)}
    {fault : Fault} (failed : takeTurns slots actions b = (.error fault, after)) :
    ∃ done slot rest counted board, slots = done ++ slot :: rest ∧
      takeTurns done actions b = (.ok counted, board) ∧ board.turn slot = (.error fault, after) := by
  induction slots generalizing actions b with
  | nil => cases failed
  | cons slot rest ih =>
    rw [takeTurns] at failed
    cases turned : b.turn slot with
    | mk result left =>
      rw [turned] at failed
      cases result with
      | error cause =>
        cases failed
        exact ⟨[], slot, rest, actions, b, rfl, rfl, turned⟩
      | ok action =>
        obtain ⟨done, next, more, counted, board, split, taken, last⟩ := ih failed
        refine ⟨slot :: done, next, more, counted, board, by rw [split]; rfl, ?_, last⟩
        rw [takeTurns, turned]
        exact taken

/-- In the middle of a round a colony is as orderly as before it. -/
theorem Orderly.takeTurns {c : Colony κ} (orderly : c.Orderly) {done : List Nat}
    {actions counted : Table String Nat} {board : Board (Dice κ)}
    (taken : Colony.takeTurns done actions c.board = (.ok counted, board)) :
    (c.withBoard board).Orderly := by
  have chain := takeTurns_plays done c actions
  rw [taken] at chain
  exact chain.orderly orderly

/-- A round of a reachable colony gives a report; or a turn of it runs into its limit, and a limit
was set; or a turn of a creature without a limit does not end. However far a turn of the round
runs, it never fails: its instructions are fetched, the squares it looks at and moves to are on the
grid, and the coin is there. -/
theorem reachable_step {c : Colony κ} (reached : Reachable c) (round : Int) :
    ((∃ report, (c.step round).1 = .ok report) ∨
      (c.settings.turnLimit ≠ .null ∧
        ∃ id name limit, (c.step round).1 = .error (.turnLimit id name limit)) ∨
      ((c.step round).1 = .error .endlessTurn ∧
        ∃ done slot rest actions board d, List.range c.population = done ++ slot :: rest ∧
          takeTurns done Table.empty c.board = (.ok actions, board) ∧
          board.creatures[slot]? = some d ∧ d.limit = none)) ∧
    ∀ done slot rest actions board, List.range c.population = done ++ slot :: rest →
      takeTurns done Table.empty c.board = (.ok actions, board) →
      ∀ steps fault after, Board.run slot steps board ≠ .failed fault after := by
  have orderly := reached.orderly
  have present {done rest : List Nat} {slot : Nat}
      (split : List.range c.population = done ++ slot :: rest) : slot < c.population := by
    rw [← List.mem_range, split]
    exact List.mem_append_right done List.mem_cons_self
  constructor
  · -- The turn that failed was taken in the middle of the round, where the colony is still orderly.
    rw [step]
    cases played : takeTurns (List.range c.population) Table.empty c.board with
    | mk result after =>
      cases result with
      | ok actions => exact .inl ⟨_, rfl⟩
      | error fault =>
        obtain ⟨done, slot, rest, actions, board, split, taken, failed⟩ := takeTurns_eq_error played
        have orderly' := orderly.takeTurns taken
        obtain ⟨d, here⟩ := orderly.exists_creature orderly' (present split)
        obtain ⟨address, coin, -, turned⟩ := Board.turn_turned orderly'.agrees here
        rw [withBoard, failed] at turned
        cases turned with
        | capped limited => exact .inr (.inl ⟨orderly'.limit_set here limited, _, _, _, rfl⟩)
        | endless unlimited =>
          exact .inr (.inr ⟨rfl, done, slot, rest, actions, board, d, split, taken, here, unlimited⟩)
        | coinless missing => cases missing
  · intro done slot rest actions board split taken steps fault after failed
    have orderly' := orderly.takeTurns taken
    obtain ⟨d, here⟩ := orderly.exists_creature orderly' (present split)
    obtain ⟨address, coin, -, ends⟩ := Board.run_ends orderly'.agrees here steps
    rw [withBoard, failed] at ends
    cases ends with
    | coinless missing => cases missing

/-- In the lane where the hopper was infected, its turn never fails, however far it runs. -/
theorem huntedLane_step :
    Reachable huntedLane ∧
      ∀ steps fault after, Board.run 0 steps huntedLane.board ≠ .failed fault after :=
  ⟨huntedLane_reachable,
    (reachable_step huntedLane_reachable 1).2 [] 0 [1] Table.empty huntedLane.board
      (by decide +kernel) rfl⟩

end Vivarium.Colony
