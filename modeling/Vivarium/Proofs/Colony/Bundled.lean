import Vivarium.Proofs.Colony.Game
import Vivarium.Proofs.Colony.Lineage
import Vivarium.Proofs.Colony.Turn
import Vivarium.Proofs.Species.Bundled

/-!
# The bundled species never hang a round

1. `Prompt.turn`, `Prompt.step`, `Prompt.rounds`: turns and rounds of a colony each of whose species
   comes to an action within so many instructions.
2. `bundled_rounds_end`: rounds of a colony of bundled species, which come to one within five.
-/

namespace Vivarium.Colony

variable {κ : Type}

/-! ## Colonies of prompt species -/

/-- Every species of the roster comes to an action within so many instructions. -/
def Prompt (c : Colony κ) (steps : Nat) : Prop := ∀ s ∈ c.roster, s.program.isPrompt steps = true

/-- The limit that is set, if any, allows so many instructions. -/
def Allows (c : Colony κ) (steps : Nat) : Prop :=
  ∀ limit, TurnLimit.ofValue c.settings.turnLimit = .ok (some limit) → steps ≤ limit.steps

variable [CoinSource κ] {c : Colony κ} {steps : Nat}

/-- The coin of a colony is always there: it is the generator's if there is no other. -/
theorem flip_ne_none (coin : Dice κ) : CoinSource.flip coin ≠ none := Option.some_ne_none _

/-- A turn in the middle of a round. -/
theorem Prompt.turn (prompt : c.Prompt steps) (reached : Reachable c) {done : List Nat}
    {actions : Table String Nat} {board : Board (Dice κ)}
    (taken : takeTurns done Table.empty c.board = (.ok actions, board)) {slot : Nat} {d : Creature}
    (here : board.creatures[slot]? = some d) :
    ∃ m ≤ steps, ∃ action after, Board.Acts slot m board action after ∧
      (c.Allows steps → board.turn slot = (.ok action, after)) := by
  have orderly := reached.orderly.takeTurns taken
  have chain := takeTurns_plays done c Table.empty
  rw [taken] at chain
  have both : (c.withBoard board).Orderly ∧ (c.withBoard board).Enrolled :=
    chain.keeps (P := fun e => e.Orderly ∧ e.Enrolled)
      (fun play known => ⟨play.change.orderly known.1, play.enrolled known.1 known.2⟩)
      ⟨reached.orderly, reached.enrolled⟩
  have here' : (c.withBoard board).board.creatures[slot]? = some d := here
  have listed : c.roster[d.lineage.number]? = some d.species :=
    (lineage?_eq_some_iff.1 (both.2 d.lineage (lineage_mem here'))).2
  obtain ⟨m, within, action, after, acts, ends⟩ := Board.turn_of_prompt flip_ne_none here
    (orderly.agrees.contains here') (prompt d.species (Array.mem_of_getElem? listed))
  refine ⟨m, within, action, after, acts, fun allows => ends fun limit limited => ?_⟩
  have given := orderly.limited here'
  rw [limited] at given
  exact allows limit given

/-- A round. -/
theorem Prompt.step (prompt : c.Prompt steps) (reached : Reachable c) (allows : c.Allows steps)
    (round : Int) : ∃ r, (c.step round).1 = .ok r := by
  rw [Colony.step]
  cases played : takeTurns (List.range c.population) Table.empty c.board with
  | mk result after =>
    cases result with
    | ok actions => exact ⟨_, rfl⟩
    | error fault =>
      obtain ⟨done, slot, rest, actions, board, split, taken, failed⟩ := takeTurns_eq_error played
      have inside : slot < c.population := by
        rw [← List.mem_range, split]
        exact List.mem_append_right done List.mem_cons_self
      obtain ⟨d, here⟩ := reached.orderly.exists_creature (reached.orderly.takeTurns taken) inside
      obtain ⟨-, -, action, left, -, ends⟩ := prompt.turn reached taken here
      rw [ends allows] at failed
      cases failed

/-- Rounds one after the other. -/
theorem Prompt.rounds (prompt : c.Prompt steps) (reached : Reachable c) (allows : c.Allows steps)
    (rounds : List Int) :
    ∀ result ∈ (c.performAll (rounds.map .step)).1, ∃ r, result = .ok (.reported [r]) := by
  induction rounds generalizing c with
  | nil =>
    intro result present
    cases present
  | cons round rest ih =>
    have chain := step_plays c round
    have roster := chain.roster_eq
    have prompt' : (c.step round).2.Prompt steps := by
      rw [Prompt, roster]
      exact prompt
    have allows' : (c.step round).2.Allows steps := by
      rw [Allows, chain.settings_eq]
      exact allows
    have more := ih prompt' (reached.operated (.step round)) allows'
    obtain ⟨r, reported⟩ := prompt.step reached allows round
    refine List.forall_mem_cons.2 ⟨⟨r, ?_⟩, more⟩
    rw [perform, answered, reported]
    rfl

/-! ## Colonies of bundled species -/

/-- Rounds of a colony whose species are all bundled ones, some of them perhaps more than once,
however the colony was founded and populated and whatever was done in it before.

In each of the rounds, also in one that fails later, every creature comes to the action of its turn
within five instructions, whatever the limit. So if there is no limit, or one of five instructions or
more, every turn ends with an action and every round is reported. -/
theorem bundled_rounds_end (reached : Reachable c) (known : ∀ s ∈ c.roster, s.Bundled)
    (rounds : List Int) :
    (∀ done actions board, takeTurns done Table.empty (c.performAll (rounds.map .step)).2.board =
        (.ok actions, board) →
      ∀ (slot : Nat) d, board.creatures[slot]? = some d →
        ∃ m ≤ 5, ∃ action after, Board.Acts slot m board action after ∧
          ((∀ limit, TurnLimit.ofValue c.settings.turnLimit = .ok (some limit) → 5 ≤ limit.steps) →
            board.turn slot = (.ok action, after))) ∧
    ((∀ limit, TurnLimit.ofValue c.settings.turnLimit = .ok (some limit) → 5 ≤ limit.steps) →
      ∀ result ∈ (c.performAll (rounds.map .step)).1, ∃ r, result = .ok (.reported [r])) := by
  have prompt : c.Prompt 5 := fun s listed => (known s listed).prompt
  refine ⟨fun done actions board taken slot d here => ?_, fun allows =>
    prompt.rounds reached allows rounds⟩
  have plays : ∀ operation ∈ rounds.map Operation.step, operation.plays = true := by
    intro operation asked
    obtain ⟨round, -, rfl⟩ := List.mem_map.1 asked
    rfl
  have chain := performAll_plays (c := c) plays
  have roster := chain.roster_eq
  have prompt' : (c.performAll (rounds.map .step)).2.Prompt 5 := by
    rw [Prompt, roster]
    exact prompt
  have ends := prompt'.turn (reached.performAll _) taken here
  rw [Allows, chain.settings_eq] at ends
  exact ends

def emptyRoverLane : Colony := { emptyLane with roster := #[Species.rover, Species.rover] }

/-- Two rovers in the lane that are enemies, as their places in the roster are different. -/
def roverLane : Colony :=
  (emptyRoverLane.performAll
    [.add (.listed 0) (some ⟨0, 0⟩) (.int 1), .add (.listed 1) (some ⟨2, 0⟩) (.int 3)]).2

/-- Its limit of five instructions is just enough for them. -/
theorem roverLane_rounds_end :
    Reachable roverLane ∧ (∀ s ∈ roverLane.roster, s.Bundled) ∧
      ∀ result ∈ (roverLane.performAll [.step 0, .step 1, .step 2]).1,
        ∃ r, result = .ok (.reported [r]) := by
  have created : (create .empty lane
      { roster := some [Species.rover, Species.rover], populates := false : Founding }).1 =
      .ok emptyRoverLane := rfl
  have reached : Reachable roverLane := (Reachable.founded created).performAll _
  have known : ∀ s ∈ roverLane.roster, s.Bundled := by
    have roster : roverLane.roster = #[Species.rover, Species.rover] := rfl
    rw [roster]
    simp [Species.rover_bundled]
  refine ⟨reached, known, (bundled_rounds_end reached known [0, 1, 2]).2 fun limit given => ?_⟩
  cases given
  decide

end Vivarium.Colony
