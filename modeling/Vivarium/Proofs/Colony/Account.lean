import Vivarium.Proofs.Board.Score
import Vivarium.Proofs.Colony.Advance

/-!
# What reports account for

A round's report is made from two kinds of books. The actions are counted turn by turn; the moves and
infections are differences between sums of what all creatures have counted in their lives. The two
agree, turn by turn and over all reports since the creatures were placed.

1. `Tallied`: the books after some turns of a round. `Tallied.succ` is one more turn, `takeTurns_tallied`
   any number of them.
2. `step_accounts`: what the report of a round says of its turns.
3. `Balanced`: the reports add up to what the creatures have counted. Founding and reset begin so, and
   whatever is done keeps it, but for turns outside of rounds and rounds that fail
   (`performAll_balanced`).
4. `reports_account`: both, for reachable colonies.
-/

namespace Vivarium

theorem Action.mnemonic_injective {a b : Action} (same : a.mnemonic = b.mnemonic) : a = b := by
  cases a <;> cases b <;> first | rfl | exact absurd same (by decide)

/-- A bump makes the sum of a table one greater. -/
theorem Table.sum_values_bump {α : Type} [DecidableEq α] (t : Table α Nat) (key : α) :
    (t.bump key).values.sum = t.values.sum + 1 := by
  -- What is written in place of the old number of a key changes the sum by the difference.
  have replaced (value : Nat) (entries : List (α × Nat)) :
      ((insertEntry key value entries).map (·.2)).sum + (Table.get? ⟨entries⟩ key).getD 0 =
        (entries.map (·.2)).sum + value := by
    induction entries with
    | nil => simp [insertEntry, get?]
    | cons entry rest ih =>
      by_cases same : entry.1 = key
      · simp only [insertEntry, if_pos same, get?, List.find?_cons, decide_eq_true same, List.map_cons,
          List.sum_cons, Option.map_some, Option.getD_some]
        omega
      · simp only [insertEntry, if_neg same, get?, List.find?_cons, decide_eq_false same,
          List.map_cons, List.sum_cons] at ih ⊢
        omega
  have bumped := replaced ((t.get? key).getD 0 + 1) t.entries
  have sum : (t.bump key).values.sum + (t.get? key).getD 0 =
      t.values.sum + ((t.get? key).getD 0 + 1) := bumped
  omega

namespace Colony

variable {κ : Type} [CoinSource κ] {c : Colony κ}

/-! ## The turns of a round -/

/-- The board when it is the turn of the creature in a slot, in a round that begins with a board. -/
def boardAt (b : Board (Dice κ)) (slot : Nat) : Board (Dice κ) :=
  (takeTurns (List.range slot) Table.empty b).2

def ending (b : Board (Dice κ)) (slot : Nat) : Option Action :=
  ((boardAt b slot).turn slot).1.toOption

/-- Whether some creature gets another species in the turn of the creature in a slot. -/
def spreads (b : Board (Dice κ)) (slot : Nat) : Bool :=
  (boardAt b slot).converts ((boardAt b slot).turn slot).2

theorem takeTurns_append (first second : List Nat) (actions : Table String Nat)
    (b : Board (Dice κ)) :
    takeTurns (first ++ second) actions b =
      match takeTurns first actions b with
      | (.ok counted, mid) => takeTurns second counted mid
      | (.error fault, mid) => (.error fault, mid) := by
  induction first generalizing actions b with
  | nil => rfl
  | cons slot rest ih =>
    rw [List.cons_append, takeTurns, takeTurns]
    cases b.turn slot with
    | mk result after =>
      cases result with
      | error fault => rfl
      | ok action => exact ih _ after

/-- The books after the first turns of a round that began with the board `b`: `counted` holds the
actions, and `mid` is the board. -/
structure Tallied (b : Board (Dice κ)) (n : Nat) (counted : Table String Nat)
    (mid : Board (Dice κ)) : Prop where
  agrees : mid.Agrees
  size : mid.creatures.size = b.creatures.size
  turns : counted.values.sum = n
  actions : ∀ action : Action, (counted.get? action.mnemonic).getD 0 =
    (List.range n).countP fun slot => ending b slot = some action
  moves : mid.total Creature.moves =
    b.total Creature.moves + (List.range n).countP (b.displaced mid)
  /-- Who stands somewhere else has hopped. -/
  hopped : ∀ slot < n, b.displaced mid slot = true → ending b slot = some .hop
  /-- Who has not had its turn yet stands where it stood. -/
  waiting : ∀ slot, n ≤ slot →
    (mid.creatures[slot]?).map Creature.position = (b.creatures[slot]?).map Creature.position
  infections : mid.total Creature.infections =
    b.total Creature.infections + (List.range n).countP (spreads b)
  infected : ∀ slot < n, spreads b slot = true → ending b slot = some .infect

namespace Tallied

variable {b mid after : Board (Dice κ)} {n : Nat} {counted : Table String Nat}

theorem zero (agrees : b.Agrees) : Tallied b 0 Table.empty b where
  agrees := agrees
  size := rfl
  turns := rfl
  actions _ := rfl
  moves := rfl
  hopped _ early := absurd early (Nat.not_lt_zero _)
  waiting _ _ := rfl
  infections := rfl
  infected _ early := absurd early (Nat.not_lt_zero _)

/-- The books after one more turn. -/
theorem succ (tallied : Tallied b n counted mid) (inside : n < b.creatures.size)
    (before : boardAt b n = mid) {action : Action} (acted : mid.turn n = (.ok action, after)) :
    Tallied b (n + 1) (counted.bump action.mnemonic) after := by
  obtain ⟨c, here⟩ : ∃ c, mid.creatures[n]? = some c :=
    ⟨_, Array.getElem?_eq_getElem (tallied.size ▸ inside)⟩
  obtain ⟨address, coin, -, turned⟩ := Board.turn_turned tallied.agrees here
  rw [acted] at turned
  obtain ⟨moves, hop⟩ := turned.moves_eq here
  obtain ⟨infections, infect⟩ := turned.infections_eq here
  have ended : ending b n = some action := by
    rw [ending, before, acted]
    rfl
  have spread : spreads b n = mid.converts after := by rw [spreads, before, acted]
  -- Only the creature whose turn it was may have left its square, and it had not done so before.
  have others (slot : Nat) (early : slot < n) : b.displaced after slot = b.displaced mid slot := by
    rw [Board.displaced, Board.displaced, turned.position_of_ne here (Nat.ne_of_gt early)]
  have own : b.displaced after n = mid.displaced after n := by
    rw [Board.displaced, Board.displaced, tallied.waiting n (Nat.le_refl n)]
  refine ⟨turned.agrees tallied.agrees here, turned.size_eq.trans tallied.size, ?_, ?_, ?_, ?_, ?_, ?_,
    ?_⟩
  · rw [Table.sum_values_bump, tallied.turns]
  · intro other
    rw [Table.get?_bump, tallied.actions, List.range_succ, List.countP_append,
      List.countP_singleton, ended]
    by_cases same : other = action
    · subst same
      simp
    · have apart : other.mnemonic ≠ action.mnemonic := fun e => same (Action.mnemonic_injective e)
      simp [apart, Ne.symm same]
  · have earlier : (List.range n).countP (b.displaced after) =
        (List.range n).countP (b.displaced mid) :=
      List.countP_congr fun slot early => by rw [others slot (List.mem_range.1 early)]
    rw [moves, tallied.moves, List.range_succ, List.countP_append, List.countP_singleton, earlier, own]
    cases mid.displaced after n <;> simp [Nat.add_assoc]
  · intro slot early moved
    rcases Nat.lt_succ_iff_lt_or_eq.1 early with earlier | rfl
    · exact tallied.hopped slot earlier (others slot earlier ▸ moved)
    · rw [ended, Except.ok.inj (hop (own ▸ moved))]
  · intro slot late
    rw [turned.position_of_ne here (by omega)]
    exact tallied.waiting slot (by omega)
  · rw [infections, tallied.infections, List.range_succ, List.countP_append, List.countP_singleton,
      spread]
    cases mid.converts after <;> simp [Nat.add_assoc]
  · intro slot early changed
    rcases Nat.lt_succ_iff_lt_or_eq.1 early with earlier | rfl
    · exact tallied.infected slot earlier changed
    · rw [ended, Except.ok.inj (infect (spread ▸ changed))]

end Tallied

/-- The books after any number of turns of a round. -/
theorem takeTurns_tallied {b mid : Board (Dice κ)} (agrees : b.Agrees) {n : Nat}
    (inside : n ≤ b.creatures.size) {counted : Table String Nat}
    (played : takeTurns (List.range n) Table.empty b = (.ok counted, mid)) :
    Tallied b n counted mid := by
  induction n generalizing counted mid with
  | zero =>
    cases played
    exact .zero agrees
  | succ n ih =>
    rw [List.range_succ, takeTurns_append] at played
    cases earlier : takeTurns (List.range n) Table.empty b with
    | mk result board =>
      rw [earlier] at played
      cases result with
      | error fault => cases played
      | ok actions =>
        have before : boardAt b n = board := congrArg Prod.snd earlier
        have tallied := ih (Nat.le_of_succ_le inside) earlier
        dsimp only [takeTurns] at played
        cases acted : board.turn n with
        | mk result after =>
          rw [acted] at played
          cases result with
          | error fault => cases played
          | ok action =>
            cases played
            exact tallied.succ inside before acted

/-! ## Reports -/

/-- What the report `r` of a round that led from one colony to another says of the round's turns. -/
structure Accounts (c after : Colony κ) (r : Report) : Prop where
  population : r.population = c.population
  turns : r.turns = c.population
  unchanged : after.population = c.population
  /-- Each creature's turn is counted once, under the action that ended it. -/
  actions_sum : r.actions.values.sum = c.population
  actions : ∀ action : Action, (r.actions.get? action.mnemonic).getD 0 =
    (List.range c.population).countP fun slot => ending c.board slot = some action
  /-- The moves are the creatures that stand somewhere else than before the round. -/
  moves : r.moves = (List.range c.population).countP (c.board.displaced after.board)
  moves_le : r.moves ≤ (r.actions.get? Action.hop.mnemonic).getD 0
  /-- The infections are the turns in which some creature got another species. -/
  infections : r.infections = (List.range c.population).countP (spreads c.board)
  infections_le : r.infections ≤ (r.actions.get? Action.infect.mnemonic).getD 0
  reports : after.reports = c.reports.push r

theorem step_accounts (orderly : c.Orderly) {round : Int} {r : Report} {after : Colony κ}
    (stepped : c.step round = (.ok r, after)) :
    c.Accounts after r ∧ after.moves = c.moves + r.moves ∧
      after.infections = c.infections + r.infections := by
  obtain ⟨actions, board, played, made, left⟩ := step_eq_ok stepped
  have tallied : Tallied c.board c.population actions board :=
    takeTurns_tallied orderly.agrees (Nat.le_refl _) played
  have moves : board.total Creature.moves = c.moves + _ := tallied.moves
  have infections : board.total Creature.infections = c.infections + _ := tallied.infections
  have moved : r.moves = (List.range c.population).countP (c.board.displaced board) := by
    have difference : r.moves = board.total Creature.moves - c.moves := by rw [made]; rfl
    rw [difference, moves, Nat.add_sub_cancel_left]
  have spread : r.infections = (List.range c.population).countP (spreads c.board) := by
    have difference : r.infections = board.total Creature.infections - c.infections := by
      rw [made]; rfl
    rw [difference, infections, Nat.add_sub_cancel_left]
  have table : r.actions = actions := by rw [made]; rfl
  have size : board.creatures.size = c.population := tallied.size
  subst left
  refine ⟨⟨?_, ?_, size, ?_, ?_, moved, ?_, spread, ?_, rfl⟩, ?_, ?_⟩
  · rw [made]; exact size
  · rw [made]; exact size
  · rw [table, tallied.turns]
  · rw [table]; exact tallied.actions
  · rw [moved, table, tallied.actions]
    refine List.countP_mono_left fun slot early displaced => ?_
    exact decide_eq_true (tallied.hopped slot (List.mem_range.1 early) displaced)
  · rw [spread, table, tallied.actions]
    refine List.countP_mono_left fun slot early changed => ?_
    exact decide_eq_true (tallied.infected slot (List.mem_range.1 early) changed)
  · rw [moved]; exact moves
  · rw [spread]; exact infections

/-! ## All reports together -/

/-- The reports add up to what the creatures have counted. -/
structure Balanced (c : Colony κ) : Prop where
  moves : (c.reports.toList.map Report.moves).sum = c.moves
  infections : (c.reports.toList.map Report.infections).sum = c.infections

namespace Balanced

variable {d : Colony κ}

omit [CoinSource κ] in
theorem of_same (balanced : c.Balanced) (reports : d.reports = c.reports)
    (moves : d.moves = c.moves) (infections : d.infections = c.infections) : d.Balanced :=
  ⟨by rw [reports, moves, balanced.moves], by rw [reports, infections, balanced.infections]⟩

omit [CoinSource κ] in
/-- A creature that is added has counted nothing yet. -/
theorem settles (chain : Settles c d) (balanced : c.Balanced) : d.Balanced := by
  refine chain.keeps (P := Balanced) ?_ balanced
  intro c d settling balanced
  cases settling with
  | noted | drew => exact balanced.of_same rfl rfl rfl
  | @placed e newcomer =>
    have creatures : (c.board.insert e).creatures = c.board.creatures.push e := by
      rw [Board.insert, Board.draw_eq]
    have sum (f : Creature → Nat) (new : f e = 0) :
        ((c.board.insert e).creatures.toList.map f).sum = (c.board.creatures.toList.map f).sum := by
      rw [creatures, Array.toList_push, List.map_append, List.sum_append, List.map_singleton,
        List.sum_singleton, new, Nat.add_zero]
    exact balanced.of_same rfl (sum Creature.moves newcomer.moves)
      (sum Creature.infections newcomer.infections)

omit [CoinSource κ] in
theorem inhabit (bare : c.Bare) : c.inhabit.2.Balanced := by
  refine settles (inhabit_settles c) ⟨?_, ?_⟩
  · rw [bare.unreported, Colony.moves, bare.creatures]
    rfl
  · rw [bare.unreported, Colony.infections, bare.creatures]
    rfl

omit [CoinSource κ] in
theorem reset (c : Colony κ) : c.reset.2.Balanced := inhabit c.bare_cleared

theorem step (balanced : c.Balanced) (orderly : c.Orderly) {round : Int} {r : Report}
    (stepped : c.step round = (.ok r, d)) : d.Balanced := by
  obtain ⟨accounts, moves, infections⟩ := step_accounts orderly stepped
  constructor
  · rw [accounts.reports, Array.toList_push, List.map_append, List.sum_append, balanced.moves, moves]
    simp
  · rw [accounts.reports, Array.toList_push, List.map_append, List.sum_append, balanced.infections,
      infections]
    simp

end Balanced

omit [CoinSource κ] in
theorem face_totals (c : Colony κ) (slot : Nat) (direction : Value) :
    (c.face slot direction).2.reports = c.reports ∧ (c.face slot direction).2.moves = c.moves ∧
      (c.face slot direction).2.infections = c.infections := by
  rw [face, Board.face, Board.creature]
  cases here : c.board.creatures[slot]? with
  | none => exact ⟨rfl, rfl, rfl⟩
  | some d =>
    cases turned : direction.toDirection with
    | error fault => exact ⟨rfl, rfl, rfl⟩
    | ok direction =>
      have there := Board.getElem?_put_self here { d with direction := direction }
      simp only [bind, Except.bind, pure, Except.pure]
      rw [Board.update_eq_put here, Board.redraw_eq there]
      exact ⟨rfl, Board.total_put_of_eq Creature.moves here rfl,
        Board.total_put_of_eq Creature.infections here rfl⟩

omit [CoinSource κ] in
theorem sleep_balanced (balanced : c.Balanced) (clock : Clock) (delay : Value) :
    (c.sleep clock delay).2.Balanced := by
  rw [sleep]
  split <;> exact balanced.of_same rfl rfl rfl

variable {d : Colony κ}

/-- A colony stays balanced while it plays on, if all turns belong to rounds and none is stopped. -/
theorem Advance.balanced (advance : Advance false c d) (orderly : c.Orderly) (balanced : c.Balanced) :
    d.Balanced := by
  cases advance with
  | noted => exact balanced.of_same rfl rfl rfl
  | faced slot direction =>
    obtain ⟨reports, moves, infections⟩ := face_totals c slot direction
    exact balanced.of_same reports moves infections
  | turned outside => cases outside
  | played stepped => exact balanced.step orderly stepped
  | rested clock delay => exact sleep_balanced balanced clock delay

theorem perform_balanced (balanced : c.Balanced) (orderly : c.Orderly) {operation : Operation}
    (regular : operation.interludes = false)
    (unstopped : ∀ fault, (c.perform operation).1 = .error fault → fault.stopsTurn = false) :
    (c.perform operation).2.Balanced := by
  have played (plays : operation.plays = true) : (c.perform operation).2.Balanced := by
    have chain := perform_advances orderly plays unstopped
    rw [regular] at chain
    exact chain.keeps orderly (fun orderly advance => advance.balanced orderly) balanced
  cases operation with
  | add recruit position direction =>
    have enlisted : (c.enlist recruit).2.Balanced := by
      cases recruit <;> exact balanced.of_same rfl rfl rfl
    exact enlisted.settles (add_settles c recruit position direction)
  | reset => exact .reset c
  | face | turn | step | run => exact played rfl

theorem performAll_balanced (balanced : c.Balanced) (orderly : c.Orderly)
    {operations : List Operation} (regular : ∀ operation ∈ operations, operation.interludes = false)
    (unstopped : ∀ fault, .error fault ∈ (c.performAll operations).1 → fault.stopsTurn = false) :
    (c.performAll operations).2.Balanced := by
  induction operations generalizing c with
  | nil => exact balanced
  | cons operation rest ih =>
    have first := perform_balanced balanced orderly (regular operation List.mem_cons_self)
      fun fault failed => unstopped fault (by rw [performAll, failed]; exact List.mem_cons_self)
    exact ih first (perform_orderly orderly operation)
      (fun other later => regular other (List.mem_cons_of_mem _ later))
      fun fault later => unstopped fault (List.mem_cons_of_mem _ later)

/-! ## Reachable colonies -/

/-- A colony that was just founded, or reset, whatever has become of it before. -/
inductive Begun : Colony κ → Prop
  | founded {folder : Folder} {settings : Settings} {founding : Founding κ} {c : Colony κ}
      (created : (create folder settings founding).1 = .ok c) : Begun c
  | again {c : Colony κ} (reached : Reachable c) : Begun c.reset.2

theorem Begun.reachable (begun : Begun c) : Reachable c := by
  cases begun with
  | founded created => exact .founded created
  | again reached => exact reached.operated .reset

theorem Begun.orderly (begun : Begun c) : c.Orderly := begun.reachable.orderly

/-- A colony that has begun was empty, and then creatures were placed in it. -/
theorem Begun.exists_bare (begun : Begun c) : ∃ d : Colony κ, d.Bare ∧ d.inhabit.2 = c := by
  cases begun with
  | founded created =>
    obtain ⟨-, roster, journal, empty, -, founded, done⟩ := create_eq_ok_iff.1 created
    exact ⟨empty, (unpopulated_eq_ok founded).2.2.2, congrArg Prod.snd done⟩
  | @again d _ => exact ⟨d.cleared, d.bare_cleared, rfl⟩

theorem Begun.balanced (begun : Begun c) : c.Balanced := by
  obtain ⟨d, bare, rfl⟩ := begun.exists_bare
  exact .inhabit bare

/-- The report of a round of a reachable colony accounts for each of its turns. And since a colony was
founded or reset, all its reports together account for all that its creatures have counted, if no round
failed and no creature had a turn outside of a round; whatever else was done in between. -/
theorem reports_account :
    (∀ c : Colony κ, Reachable c → ∀ round r after, c.step round = (.ok r, after) →
      c.Accounts after r) ∧
    ∀ c : Colony κ, Begun c → ∀ operations : List Operation,
      (∀ operation ∈ operations, operation.interludes = false) →
      (∀ fault, .error fault ∈ (c.performAll operations).1 → fault.stopsTurn = false) →
      (c.performAll operations).2.Balanced :=
  ⟨fun _ reached _ _ _ stepped => (step_accounts reached.orderly stepped).1,
    fun _ begun _ regular unstopped =>
      performAll_balanced begun.balanced begun.orderly regular unstopped⟩

def huntReport : Report where
  round := 0
  population := 2
  counts := ⟨[("Hopper", 0), ("Trap", 2)]⟩
  infections := 1
  moves := 1
  turns := 2
  actions := ⟨[("hop", 1), ("infect", 1)]⟩

/-- That round is accounted for. Before the next one a third creature is added, and all reports together
account for what the three have counted. -/
theorem huntedLane_reports :
    facingLane.Accounts huntedLane huntReport ∧
      (huntedLane.performAll
        [.add (.listed 0) (some ⟨0, 0⟩) (.int 1), .run (some (.int 1)) none]).2.Balanced := by
  have created : (create .empty lane
      { roster := some [hopper, trap], populates := false : Founding }).1 = .ok emptyLane := rfl
  have stepped : facingLane.step 0 = (.ok huntReport, huntedLane) := rfl
  let operations : List Operation :=
    [.add (.listed 0) (some ⟨0, 0⟩) (.int 1), .add (.listed 1) (some ⟨2, 0⟩) (.int 3), .step 0,
      .add (.listed 0) (some ⟨0, 0⟩) (.int 1), .run (some (.int 1)) none]
  have fine : (emptyLane.performAll operations).1.all Except.isOk = true := by decide +kernel
  refine ⟨reports_account.1 _ facingLane_reachable 0 _ _ stepped, ?_⟩
  refine reports_account.2 emptyLane (.founded created) operations (by decide) fun fault failed => ?_
  cases List.all_eq_true.1 fine _ failed

end Colony

end Vivarium
