import Vivarium.Proofs.Board.Guarded
import Vivarium.Proofs.Colony.Account
import Vivarium.Proofs.Colony.Bundled

/-!
# The bundled species waste no infection

Between turns no creature with a guarded program is at an infection: it begins its program elsewhere,
and it goes on after an action. A turn that is stopped may leave it there, so this is about colonies in
which no turn was stopped since they were founded or reset.

1. `Advance.forall_mem`, `takeTurns_keeps`: what turns keep, a colony keeps while it plays on.
2. `conquers_of_takeTurns`: in a round of creatures with guarded programs that are not at infections,
   each infection is a conquest. So the report has as many infections as actions that infect
   (`wastesNone_of_step`).
3. `Thrifty`: what operations keep.
4. `bundled_infections_convert`: all this for creatures of bundled species.
-/

namespace Vivarium

def Report.WastesNone (r : Report) : Prop :=
  r.infections = (r.actions.get? Action.infect.mnemonic).getD 0

namespace Colony

variable {κ : Type} {c d : Colony κ}

/-! ## What turns keep -/

section Turns

variable [CoinSource κ]

/-- What every turn that ends with an action keeps, the turns of a round keep. -/
theorem takeTurns_keeps {P : Board (Dice κ) → Prop}
    (turn : ∀ {b after : Board (Dice κ)} {slot : Nat} {d : Creature} {address : Int} {coin : Dice κ}
      {action : Action}, b.creatures[slot]? = some d →
      Board.Turned b slot d address coin (.ok action) after → P b → P after)
    {slots : List Nat} {actions counted : Table String Nat} {b after : Board (Dice κ)}
    (agrees : b.Agrees) (start : P b) (taken : takeTurns slots actions b = (.ok counted, after)) :
    after.Agrees ∧ P after := by
  induction slots generalizing actions b with
  | nil =>
    cases taken
    exact ⟨agrees, start⟩
  | cons slot rest ih =>
    rw [takeTurns] at taken
    cases acted : b.turn slot with
    | mk result mid =>
      rw [acted] at taken
      cases result with
      | error fault => cases taken
      | ok action =>
        cases here : b.creatures[slot]? with
        | none =>
          rw [Board.turn, here] at acted
          cases acted
        | some d =>
          obtain ⟨address, coin, -, turned⟩ := Board.turn_turned agrees here
          rw [acted] at turned
          exact ih (turned.agrees agrees here) (turn here turned start) taken

/-- What all creatures have whichever way they face, and every turn that ends with an action keeps, all
creatures have while a colony plays on. -/
theorem Advance.forall_mem {P : Creature → Prop} {interludes : Bool}
    (facing : ∀ (e : Creature) (direction : Direction), P e → P { e with direction := direction })
    (turn : ∀ {b after : Board (Dice κ)} {slot : Nat} {d : Creature} {address : Int} {coin : Dice κ}
      {action : Action}, b.creatures[slot]? = some d →
      Board.Turned b slot d address coin (.ok action) after →
      (∀ e ∈ b.creatures, P e) → ∀ e ∈ after.creatures, P e)
    (advance : Advance interludes c d) (orderly : c.Orderly) (all : ∀ e ∈ c.board.creatures, P e) :
    ∀ e ∈ d.board.creatures, P e := by
  cases advance with
  | noted => exact all
  | faced slot direction =>
    rw [face, Board.face, Board.creature]
    cases here : c.board.creatures[slot]? with
    | none => exact all
    | some e =>
      cases asked : direction.toDirection with
      | error fault => exact all
      | ok direction =>
        have there := Board.getElem?_put_self here { e with direction := direction }
        simp only [bind, Except.bind, pure, Except.pure]
        rw [Board.update_eq_put here, Board.redraw_eq there]
        exact Board.forall_mem_put slot all (facing e direction (all e (Array.mem_of_getElem? here)))
  | @turned _ slot action _ acted =>
    obtain ⟨result, left⟩ := Prod.mk.inj acted
    subst left
    cases here : c.board.creatures[slot]? with
    | none =>
      rw [Board.turn, here] at result
      cases result
    | some e =>
      obtain ⟨address, coin, -, turned⟩ := Board.turn_turned orderly.agrees here
      rw [result] at turned
      exact turn here turned all
  | played stepped =>
    obtain ⟨actions, board, taken, -, rfl⟩ := step_eq_ok stepped
    exact (takeTurns_keeps (P := fun b => ∀ e ∈ b.creatures, P e) turn orderly.agrees all taken).2
  | rested clock delay =>
    rw [sleep]
    split <;> exact all

variable {interludes : Bool}

theorem Advance.composed (advance : Advance interludes c d) (orderly : c.Orderly)
    (composed : c.board.Composed) : d.board.Composed :=
  advance.forall_mem (fun _ _ kept => kept) (fun here turned => turned.composed here) orderly composed

theorem Advance.guarded (advance : Advance interludes c d) (orderly : c.Orderly)
    (guarded : c.board.Guarded) : d.board.Guarded :=
  advance.forall_mem (fun _ _ kept => kept) (fun here turned => turned.guarded here) orderly guarded

/-! ## Rounds -/

/-- The turns of a round after some of them: every infection is a conquest. -/
theorem conquers_of_takeTurns {slots : List Nat} {actions counted : Table String Nat}
    {b board after : Board (Dice κ)} (agrees : b.Agrees) (guarded : b.Guarded) (composed : b.Composed)
    (taken : takeTurns slots actions b = (.ok counted, board)) {slot : Nat}
    (infects : board.turn slot = (.ok .infect, after)) : board.Conquers slot after := by
  obtain ⟨agrees', guarded', composed'⟩ :=
    takeTurns_keeps (P := fun b => b.Guarded ∧ b.Composed)
      (fun here turned kept => ⟨turned.guarded here kept.1, turned.composed here kept.2⟩)
      agrees ⟨guarded, composed⟩ taken
  exact Board.conquers_of_infect agrees' guarded' composed' infects

/-- The first turns of a round that is reported. -/
theorem takeTurns_range_le {b mid : Board (Dice κ)} {n m : Nat} (fewer : m ≤ n)
    {counted : Table String Nat}
    (taken : takeTurns (List.range n) Table.empty b = (.ok counted, mid)) :
    ∃ actions, takeTurns (List.range m) Table.empty b = (.ok actions, boardAt b m) := by
  obtain ⟨more, rfl⟩ := Nat.exists_eq_add_of_le fewer
  rw [List.range_add, takeTurns_append] at taken
  rw [boardAt]
  cases first : takeTurns (List.range m) Table.empty b with
  | mk result board =>
    rw [first] at taken
    cases result with
    | ok actions => exact ⟨actions, rfl⟩
    | error fault => cases taken

/-- A round of creatures with guarded programs that are not at infections. -/
theorem wastesNone_of_step (orderly : c.Orderly) (guarded : c.board.Guarded)
    (composed : c.board.Composed) {round : Int} {r : Report}
    (stepped : c.step round = (.ok r, d)) : r.WastesNone := by
  obtain ⟨accounts, -, -⟩ := step_accounts orderly stepped
  obtain ⟨actions, board, taken, -, -⟩ := step_eq_ok stepped
  have tallied := takeTurns_tallied orderly.agrees (Nat.le_refl _) taken
  rw [Report.WastesNone, accounts.infections, accounts.actions]
  refine List.countP_congr fun slot listed => ?_
  have inside := List.mem_range.1 listed
  rw [decide_eq_true_iff]
  refine ⟨tallied.infected slot inside, fun ended => ?_⟩
  obtain ⟨early, before⟩ := takeTurns_range_le (Nat.le_of_lt inside) taken
  cases acted : (boardAt c.board slot).turn slot with
  | mk result after =>
    rw [ending, acted] at ended
    cases result with
    | error fault => cases ended
    | ok action =>
      cases ended
      rw [spreads, acted]
      exact (conquers_of_takeTurns orderly.agrees guarded composed before acted).converts

end Turns

/-! ## Operations -/

/-- No creature with a guarded program is at an infection, and no reported round wasted any. -/
structure Thrifty (c : Colony κ) : Prop where
  composed : c.board.Composed
  reports : ∀ r ∈ c.reports, r.WastesNone

namespace Thrifty

theorem settles (chain : Settles c d) (thrifty : c.Thrifty) : d.Thrifty := by
  refine chain.keeps (P := Thrifty) ?_ thrifty
  intro c d settling thrifty
  cases settling with
  | noted | drew => exact ⟨thrifty.composed, thrifty.reports⟩
  | @placed newcomer fresh =>
    refine ⟨Board.forall_mem_insert thrifty.composed fun guarded => ?_, thrifty.reports⟩
    rw [fresh.counter]
    exact Program.infectsAt_one guarded

theorem inhabit (bare : c.Bare) : c.inhabit.2.Thrifty := by
  refine settles (inhabit_settles c) ⟨fun e present => ?_, fun r present => ?_⟩
  · rw [bare.creatures] at present
    exact absurd present (Array.not_mem_empty e)
  · rw [bare.unreported] at present
    exact absurd present (Array.not_mem_empty r)

variable [CoinSource κ]

theorem advance {interludes : Bool} (thrifty : c.Thrifty) (orderly : c.Orderly)
    (guarded : c.board.Guarded) (advance : Advance interludes c d) : d.Thrifty := by
  refine ⟨advance.composed orderly thrifty.composed, ?_⟩
  cases advance with
  | noted => exact thrifty.reports
  | faced slot direction =>
    rw [(face_totals c slot direction).1]
    exact thrifty.reports
  | @turned _ slot _ _ acted =>
    rw [← (Prod.mk.inj acted).2]
    exact thrifty.reports
  | played stepped =>
    have fair := wastesNone_of_step orderly guarded thrifty.composed stepped
    obtain ⟨actions, board, -, -, rfl⟩ := step_eq_ok stepped
    intro r present
    rcases Array.mem_push.1 present with old | rfl
    · exact thrifty.reports r old
    · exact fair
  | rested clock delay =>
    rw [sleep]
    split <;> exact thrifty.reports

theorem perform (thrifty : c.Thrifty) (orderly : c.Orderly) (guarded : c.board.Guarded)
    {operation : Operation}
    (unstopped : ∀ fault, (c.perform operation).1 = .error fault → fault.stopsTurn = false) :
    (c.perform operation).2.Thrifty := by
  have played (plays : operation.plays = true) : (c.perform operation).2.Thrifty :=
    ((perform_advances orderly plays unstopped).keeps (P := fun c => c.board.Guarded ∧ c.Thrifty)
      orderly (fun orderly advance kept =>
        ⟨advance.guarded orderly kept.1, kept.2.advance orderly kept.1 advance⟩)
      ⟨guarded, thrifty⟩).2
  cases operation with
  | add recruit position direction =>
    have enlisted : (c.enlist recruit).2.Thrifty := by
      cases recruit <;> exact ⟨thrifty.composed, thrifty.reports⟩
    exact enlisted.settles (add_settles c recruit position direction)
  | reset => exact .inhabit c.bare_cleared
  | face | turn | step | run => exact played rfl

/-- A thrifty colony stays so if, before each operation, all its creatures have guarded programs. -/
theorem performAll (thrifty : c.Thrifty) (orderly : c.Orderly) {operations : List Operation}
    (guarded : ∀ earlier later, operations = earlier ++ later →
      (c.performAll earlier).2.board.Guarded)
    (unstopped : ∀ fault, .error fault ∈ (c.performAll operations).1 → fault.stopsTurn = false) :
    (c.performAll operations).2.Thrifty := by
  induction operations generalizing c with
  | nil => exact thrifty
  | cons operation rest ih =>
    have first := thrifty.perform orderly (guarded [] _ rfl) fun fault failed =>
      unstopped fault (by rw [Colony.performAll, failed]; exact List.mem_cons_self)
    refine ih first (perform_orderly orderly operation) (fun earlier later split => ?_)
      fun fault later => unstopped fault (List.mem_cons_of_mem _ later)
    exact guarded (operation :: earlier) later (by rw [split, List.cons_append])

end Thrifty

/-! ## Colonies of bundled species -/

variable [CoinSource κ]

/-- The creatures of a colony are of the species in its roster. -/
theorem bundled_of_roster (reached : Reachable c) (known : ∀ s ∈ c.roster, s.Bundled) :
    ∀ e ∈ c.board.creatures, e.species.Bundled := by
  intro e present
  obtain ⟨slot, here⟩ := Array.mem_iff_getElem?.1 present
  have listed := (lineage?_eq_some_iff.1 (reached.enrolled e.lineage (lineage_mem here))).2
  exact known e.species (Array.mem_of_getElem? listed)

/-- A colony that is founded or reset and then operated, its creatures all of bundled species at all
times, and none of its turns stopped.

Every infection, in the middle of a round or outside of one, makes a creature of another species one
of the attacker's. And every report has as many infections as actions that infect. -/
theorem bundled_infections_convert (begun : Begun c) {operations : List Operation}
    (unstopped : ∀ fault, .error fault ∈ (c.performAll operations).1 → fault.stopsTurn = false)
    (bundled : ∀ earlier later, operations = earlier ++ later →
      ∀ e ∈ (c.performAll earlier).2.board.creatures, e.species.Bundled) :
    (∀ done actions board,
      takeTurns done Table.empty (c.performAll operations).2.board = (.ok actions, board) →
      ∀ slot after, board.turn slot = (.ok .infect, after) → board.Conquers slot after) ∧
    ∀ r ∈ (c.performAll operations).2.reports,
      r.infections = (r.actions.get? Action.infect.mnemonic).getD 0 := by
  have guarded (earlier later : List Operation) (split : operations = earlier ++ later) :
      (c.performAll earlier).2.board.Guarded :=
    fun e present => (bundled earlier later split e present).guarded
  obtain ⟨start, bare, rfl⟩ := begun.exists_bare
  have thrifty := (Thrifty.inhabit bare).performAll begun.orderly guarded unstopped
  refine ⟨fun done actions board taken slot after infects => ?_, thrifty.reports⟩
  exact conquers_of_takeTurns (begun.reachable.performAll operations).orderly.agrees
    (guarded operations [] (List.append_nil operations).symm) thrifty.composed taken infects

/-- A rover comes up to another one, which infects it. -/
theorem roverLane_infections_convert :
    let operations : List Operation :=
      [.add (.listed 0) (some ⟨0, 0⟩) (.int 1), .add (.listed 1) (some ⟨2, 0⟩) (.int 3), .step 0]
    (emptyRoverLane.performAll operations).2.reports.toList.map
        (fun r => r.actions.get? Action.infect.mnemonic) = [some 1] ∧
      ∀ r ∈ (emptyRoverLane.performAll operations).2.reports,
        r.infections = (r.actions.get? Action.infect.mnemonic).getD 0 := by
  intro operations
  have created : (create .empty lane
      { roster := some [Species.rover, Species.rover], populates := false : Founding }).1 =
      .ok emptyRoverLane := rfl
  have begun : Begun emptyRoverLane := .founded created
  have fine : (emptyRoverLane.performAll operations).1.all Except.isOk = true := by decide +kernel
  have unlisted : ∀ operation ∈ operations, operation.enlists = false := by decide
  have known : ∀ s ∈ emptyRoverLane.roster, s.Bundled := by
    simp [emptyRoverLane, Species.rover_bundled]
  have unstopped : ∀ fault, .error fault ∈ (emptyRoverLane.performAll operations).1 →
      fault.stopsTurn = false := fun fault failed => by
    cases List.all_eq_true.1 fine _ failed
  refine ⟨by decide +kernel, (bundled_infections_convert begun unstopped ?_).2⟩
  intro earlier later split
  refine bundled_of_roster (begun.reachable.performAll earlier) ?_
  have roster := (performAll_twin begun.orderly fun operation asked =>
    unlisted operation (split ▸ List.mem_append_left later asked)).roster
  rw [roster]
  exact known

end Colony

end Vivarium
