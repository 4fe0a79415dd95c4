import Vivarium.Proofs.Board.Jumps

/-!
# The limit of a turn

`Board.withLimits` gives the creatures of a board other limits and changes nothing else.

1. `stride_withLimits`: no instruction looks at a limit, so a turn jumps and acts in the same way
   under any limits (`jumps_withLimits`, `acts_withLimits`).
2. `turn_of_acts`, `turn_of_jumps`: a limit decides only whether a turn is cut off.
3. `turn_exceeds_iff`: a turn that does not flip the coin is cut off by a limit of at least the size of
   its program exactly if it would never end.
-/

namespace Vivarium

/-! ## Other limits -/

/-- A limit that allows as many instructions as another one, or more; none allows any number. -/
def TurnLimit.Allows (wider limit : Option TurnLimit) : Prop :=
  ∀ w, wider = some w → ∃ l, limit = some l ∧ l.steps ≤ w.steps

theorem TurnLimit.Allows.refl (limit : Option TurnLimit) : TurnLimit.Allows limit limit :=
  fun w limited => ⟨w, limited, Nat.le_refl _⟩

/-- The revision that sets the limits of creatures, slot by slot. -/
def Revision.limits (limits : Nat → Option TurnLimit) : Revision where
  lineage l := l
  limit slot _ := limits slot
  number _ := rfl
  name _ := rfl
  color _ := rfl

namespace Board

variable {σ : Type} {b : Board σ} {slot : Nat} {c : Creature} {limits : Nat → Option TurnLimit}

/-- The board with the limits of its creatures set, slot by slot. -/
def withLimits (b : Board σ) (limits : Nat → Option TurnLimit) : Board σ :=
  b.revise (.limits limits)

theorem getElem?_withLimits (here : b.creatures[slot]? = some c) :
    (b.withLimits limits).creatures[slot]? = some { c with limit := limits slot } := by
  rw [withLimits, getElem?_revise, here]
  rfl

theorem getElem?_withLimits_of_none (nobody : b.creatures[slot]? = none) :
    (b.withLimits limits).creatures[slot]? = none := by
  rw [withLimits, getElem?_revise, nobody]
  rfl

theorem withLimits_self
    (same : ∀ {i : Nat} {d : Creature}, b.creatures[i]? = some d → d.limit = limits i) :
    b.withLimits limits = b := by
  have creatures : (b.withLimits limits).creatures = b.creatures := by
    apply Array.ext_getElem?
    intro i
    cases here : b.creatures[i]? with
    | none => exact getElem?_withLimits_of_none here
    | some d => rw [getElem?_withLimits here, ← same here]
  exact congrArg (fun creatures => { b with creatures := creatures }) creatures

theorem withLimits_withLimits (b : Board σ) (limits limits' : Nat → Option TurnLimit) :
    (b.withLimits limits).withLimits limits' = b.withLimits limits' := by
  have creatures : ((b.withLimits limits).withLimits limits').creatures =
      (b.withLimits limits').creatures := by
    apply Array.ext_getElem?
    intro i
    rw [withLimits, withLimits, withLimits, getElem?_revise, getElem?_revise, getElem?_revise,
      Option.map_map]
    rfl
  exact congrArg (fun creatures => { b with creatures := creatures }) creatures

/-- A stride with the board that it leaves changed. -/
def Stride.map (f : Board σ → Board σ) : Stride σ → Stride σ
  | .acted action after => .acted action (f after)
  | .jumped after => .jumped (f after)
  | .failed fault after => .failed fault (f after)

variable [CoinSource σ]

theorem follow_withLimits (b : Board σ) (slot : Nat) (c : Creature) (seen : Sight)
    (instruction : Instruction) :
    (b.withLimits limits).follow slot { c with limit := limits slot }
        ((Revision.limits limits).sight seen) instruction =
      (b.follow slot c seen instruction).map (withLimits · limits) := by
  cases instruction with
  | act action =>
    have performed : (b.withLimits limits).perform slot { c with limit := limits slot }
        ((Revision.limits limits).sight seen) action = _ :=
      perform_revise (.limits limits) b slot c seen action
    rw [follow, follow, performed]
    cases b.perform slot c seen action with
    | mk result after => cases result <;> rfl
  | jump condition target positive =>
    have tested : (b.withLimits limits).test { c with limit := limits slot }
        ((Revision.limits limits).sight seen) condition = _ :=
      test_revise (.limits limits) b slot c seen condition
    rw [follow, follow, tested]
    cases b.test c seen condition with
    | none => rfl
    | some test =>
      obtain ⟨taken, after⟩ := test
      cases taken with
      | true => exact congrArg Stride.jumped (setCounter_revise _ after slot _)
      | false => exact congrArg Stride.jumped (setCounter_revise _ after slot _)

/-- No instruction looks at a limit. -/
theorem stride_withLimits (b : Board σ) (slot : Nat) :
    (b.withLimits limits).stride slot = (b.stride slot).map (withLimits · limits) := by
  have ready : (b.withLimits limits).update slot Creature.wrapped =
      (b.update slot Creature.wrapped).withLimits limits :=
    update_unseen (.limits limits) b Creature.wrapped fun _ => rfl
  rw [stride, stride, ready]
  generalize b.update slot Creature.wrapped = ready
  cases here : ready.creatures[slot]? with
  | none =>
    rw [getElem?_withLimits_of_none here]
    rfl
  | some c =>
    rw [getElem?_withLimits here]
    show (ready.withLimits limits).execute slot { c with limit := limits slot } =
      (ready.execute slot c).map (withLimits · limits)
    have sighted : (ready.withLimits limits).sight { c with limit := limits slot } = _ :=
      sight_revise (.limits limits) ready slot c
    have fetched : ({ c with limit := limits slot } : Creature).program.fetch c.counter =
        c.program.fetch c.counter := rfl
    rw [execute, execute, sighted, fetched]
    cases c.program.fetch c.counter with
    | error fault => rfl
    | ok instruction =>
      cases ready.sight c with
      | error fault => rfl
      | ok seen => exact follow_withLimits ready slot c seen instruction

variable {action : Action} {after last : Board σ} {count m : Nat}

theorem Jumps.withLimits (jumps : Jumps slot count b last) (limits : Nat → Option TurnLimit) :
    Jumps slot count (b.withLimits limits) (last.withLimits limits) := by
  induction jumps with
  | none b => exact .none _
  | jump jumped _ ih =>
    refine .jump ?_ ih
    rw [stride_withLimits, jumped]
    rfl

/-- A turn comes to its action in the same way under any limits. -/
theorem acts_withLimits : Acts slot m (b.withLimits limits) action after ↔
    ∃ left, Acts slot m b action left ∧ after = left.withLimits limits := by
  constructor
  · intro acts
    induction m generalizing b with
    | zero => cases acts
    | succ m ih =>
      cases acts with
      | act acted =>
        rw [stride_withLimits] at acted
        cases strode : b.stride slot with
        | acted action' left =>
          rw [strode] at acted
          cases acted
          exact ⟨left, .act strode, rfl⟩
        | jumped | failed =>
          rw [strode] at acted
          cases acted
      | jump jumped more =>
        rw [stride_withLimits] at jumped
        cases strode : b.stride slot with
        | jumped next =>
          rw [strode] at jumped
          cases jumped
          obtain ⟨left, acts, same⟩ := ih more
          exact ⟨left, .jump strode acts, same⟩
        | acted | failed =>
          rw [strode] at jumped
          cases jumped
  · rintro ⟨left, acts, rfl⟩
    induction acts with
    | act acted =>
      refine .act ?_
      rw [stride_withLimits, acted]
      rfl
    | jump jumped _ ih =>
      refine .jump ?_ ih
      rw [stride_withLimits, jumped]
      rfl

/-! ## What a limit decides -/

variable {limit : TurnLimit}

/-- A turn that comes to its action within the instructions that it is given ends with it. -/
theorem turn_of_acts (here : b.creatures[slot]? = some c) (acts : Acts slot m b action after)
    (within : m ≤ c.limit.elim (b.patience c) TurnLimit.steps) :
    b.turn slot = (.ok action, after) := by
  have acted := run_eq_acted_iff.2 ⟨m, within, acts⟩
  simp only [turn, here, acted]

/-- A turn that has run as many jumps as its limit allows is cut off there. -/
theorem turn_of_jumps (here : b.creatures[slot]? = some c) (limited : c.limit = some limit)
    (jumps : Jumps slot limit.steps b last) :
    b.turn slot = (.error (.turnLimit c.id c.species.name limit.text),
      last.update slot Creature.wrapped) := by
  have unfinished := run_eq_unfinished_iff.2 ⟨last, jumps, rfl⟩
  simp only [turn, here, limited, Option.elim_some, unfinished]

/-- A turn that ends with an action has come to it, and within its limit. -/
theorem acts_of_turn (here : b.creatures[slot]? = some c)
    (turned : b.turn slot = (.ok action, after)) :
    ∃ m, Acts slot m b action after ∧ ∀ limit, c.limit = some limit → m ≤ limit.steps := by
  simp only [turn, here] at turned
  cases ran : run slot (c.limit.elim (b.patience c) TurnLimit.steps) b with
  | acted action' after' =>
    rw [ran] at turned
    cases turned
    obtain ⟨m, within, acts⟩ := run_eq_acted_iff.1 ran
    refine ⟨m, acts, fun limit limited => ?_⟩
    rw [limited] at within
    exact within
  | failed fault after' =>
    rw [ran] at turned
    cases turned
  | unfinished after' =>
    rw [ran] at turned
    cases limited : c.limit <;>
      · rw [limited] at turned
        cases turned

/-- A turn that comes to its action after its limit is cut off when it has run as many jumps as the
limit allows. Nothing has changed but the creature's counter and the coin. -/
theorem turn_of_late (here : b.creatures[slot]? = some c) (acts : Acts slot m b action after)
    (limited : limits slot = some limit) (late : limit.steps < m) :
    ∃ counter coin, Jumps slot limit.steps b (b.paused slot counter coin) ∧
      (b.withLimits limits).turn slot = (.error (.turnLimit c.id c.species.name limit.text),
        (b.paused slot (c.program.wrap counter) coin).withLimits limits) := by
  obtain ⟨last, jumps⟩ := acts.jumps late
  obtain ⟨counter, coin, rfl⟩ := jumps.paused here
  have wrapped : ((b.paused slot counter coin).withLimits limits).update slot Creature.wrapped =
      ((b.paused slot counter coin).update slot Creature.wrapped).withLimits limits :=
    update_unseen (.limits limits) (b.paused slot counter coin) Creature.wrapped fun _ => rfl
  have cut := turn_of_jumps (getElem?_withLimits here) limited (jumps.withLimits limits)
  rw [wrapped, wrapped_paused here] at cut
  exact ⟨counter, coin, jumps, cut⟩

/-- A turn that ends with an action ends with it under every limit that allows at least as much. If
there is no limit any more, the coin must be right about the number of its states. -/
theorem turn_of_allows {limits' : Nat → Option TurnLimit}
    (turned : (b.withLimits limits).turn slot = (.ok action, after))
    (allows : TurnLimit.Allows (limits' slot) (limits slot))
    (lawful : limits' slot = none → LawfulCoinSource σ) :
    ∃ left : Board σ, after = left.withLimits limits ∧
      (b.withLimits limits').turn slot = (.ok action, left.withLimits limits') := by
  cases here : b.creatures[slot]? with
  | none =>
    rw [turn, getElem?_withLimits_of_none here] at turned
    cases turned
  | some c =>
    obtain ⟨m, acts, within⟩ := acts_of_turn (getElem?_withLimits here) turned
    obtain ⟨left, comes, rfl⟩ := acts_withLimits.1 acts
    refine ⟨left, rfl, turn_of_acts (getElem?_withLimits here)
      (acts_withLimits.2 ⟨left, comes, rfl⟩) ?_⟩
    show m ≤ (limits' slot).elim (b.patience c) TurnLimit.steps
    cases lifted : limits' slot with
    | none =>
      have := lawful lifted
      exact comes.le_patience here
    | some wider =>
      obtain ⟨limit, limited, wide⟩ := allows wider lifted
      exact Nat.le_trans (within limit limited) wide

/-- A turn is cut off by its limit. -/
def Exceeds (slot : Nat) (b : Board σ) : Prop :=
  ∃ id name text left, b.turn slot = (.error (.turnLimit id name text), left)

theorem Endless.withLimits (endless : Endless slot b) (limits : Nat → Option TurnLimit) :
    Endless slot (b.withLimits limits) := by
  intro count
  obtain ⟨last, jumps⟩ := endless count
  exact ⟨_, jumps.withLimits limits⟩

/-- An endless turn is cut off by a limit, and is found to be endless without one. -/
theorem turn_of_endless (here : b.creatures[slot]? = some c) (endless : Endless slot b) :
    ∃ left, b.turn slot = (.error (c.limit.elim .endlessTurn fun limit =>
      .turnLimit c.id c.species.name limit.text), left) := by
  cases limited : c.limit with
  | some limit =>
    obtain ⟨last, jumps⟩ := endless limit.steps
    exact ⟨_, turn_of_jumps here limited jumps⟩
  | none =>
    obtain ⟨last, jumps⟩ := endless (b.patience c)
    have unfinished := run_eq_unfinished_iff.2 ⟨last, jumps, rfl⟩
    refine ⟨last.update slot Creature.wrapped, ?_⟩
    simp only [turn, here, limited, Option.elim_none, unfinished]

/-- The turn of a creature that stands on the grid and whose program does not flip the coin comes to
an action within as many instructions as the program has, or it never ends. So a limit of at least
that many instructions cuts the turn off exactly if the turn never ends; that is, if it ends with an
action under no larger limit; that is, if without a limit it is endless. -/
theorem turn_exceeds_iff (here : b.creatures[slot]? = some c)
    (standing : b.grid.contains c.position = true) (fixed : ¬c.program.Has (.jump .random)) :
    ((∃ m ≤ c.program.size, ∃ action after, Acts slot m b action after) ∨ Endless slot b) ∧
    ∀ limits limit, limits slot = some limit → c.program.size ≤ limit.steps →
      (Exceeds slot (b.withLimits limits) ↔ Endless slot b) ∧
      (Exceeds slot (b.withLimits limits) ↔
        ∀ limits' limit', limits' slot = some limit' → limit.steps < limit'.steps →
          ∀ action after, (b.withLimits limits').turn slot ≠ (.ok action, after)) ∧
      (Exceeds slot (b.withLimits limits) ↔
        ∀ limits', limits' slot = none →
          ∃ left, (b.withLimits limits').turn slot = (.error .endlessTurn, left)) := by
  have either := acts_or_endless here standing fixed
  refine ⟨either, fun limits limit limited enough => ?_⟩
  -- Under any limits the turn acts as it does on `b`, if it is given enough instructions.
  have acting {m action after} (acts : Acts slot m b action after)
      {limits' : Nat → Option TurnLimit}
      (enough' : c.program.size ≤ (limits' slot).elim (b.patience c) TurnLimit.steps) :
      (b.withLimits limits').turn slot = (.ok action, after.withLimits limits') :=
    turn_of_acts (getElem?_withLimits here) (acts_withLimits.2 ⟨after, acts, rfl⟩)
      (Nat.le_trans (acts.le_size here fixed) enough')
  have stuck (endless : Endless slot b) (limits' : Nat → Option TurnLimit) :
      ∃ left, (b.withLimits limits').turn slot = (.error ((limits' slot).elim .endlessTurn
        fun limit => .turnLimit c.id c.species.name limit.text), left) :=
    turn_of_endless (getElem?_withLimits here) (endless.withLimits limits')
  have exceeds_iff : Exceeds slot (b.withLimits limits) ↔ Endless slot b := by
    constructor
    · rintro ⟨id, name, text, left, exceeded⟩
      rcases either with ⟨m, -, action, after, acts⟩ | endless
      · rw [acting acts (by rw [limited]; exact enough)] at exceeded
        cases exceeded
      · exact endless
    · intro endless
      obtain ⟨left, turned⟩ := stuck endless limits
      rw [limited] at turned
      exact ⟨_, _, _, left, turned⟩
  refine ⟨exceeds_iff, exceeds_iff.trans ⟨?_, ?_⟩, exceeds_iff.trans ⟨?_, ?_⟩⟩
  · intro endless limits' limit' _ _ action after acted
    obtain ⟨left, turned⟩ := stuck endless limits'
    rw [acted] at turned
    cases turned
  · intro never
    rcases either with ⟨m, -, action, after, acts⟩ | endless
    · -- One instruction more than the limit is a larger limit, and enough.
      let longer : Nat → Option TurnLimit := fun _ => some ⟨limit.steps + 1, limit.text⟩
      have acted : (b.withLimits longer).turn slot = (.ok action, after.withLimits longer) :=
        acting acts (Nat.le_succ_of_le enough)
      exact absurd acted (never longer _ rfl (Nat.lt_succ_self _) _ _)
    · exact endless
  · intro endless limits' unlimited
    obtain ⟨left, turned⟩ := stuck endless limits'
    rw [unlimited] at turned
    exact ⟨left, turned⟩
  · intro found
    rcases either with ⟨m, -, action, after, acts⟩ | endless
    · obtain ⟨left, turned⟩ := found (fun _ => none) rfl
      rw [acting acts (Nat.le_mul_of_pos_right _ (by omega))] at turned
      cases turned
    · exact endless

/-! ## A creature that spins -/

/-- A species that waits until there is no wall ahead, and then infects. -/
def spinner : Species where
  name := "Spinner"
  color := "blue"
  program :=
    ⟨#[.jump .always 2 Nat.two_pos, .jump .wall 1 Nat.one_pos, .act .infect], by decide⟩
  name_ne := by decide

/-- A creature that waits on a grid of one square, where there are walls all around. -/
def lonely : Creature where
  id := 0
  lineage := ⟨0, spinner⟩
  position := ⟨0, 0⟩
  direction := .north
  counter := 1
  moves := 0
  infections := 0
  limit := none
  drawn := true

/-- The square and the creature on it. There is no coin. -/
def spinning : Board Script :=
  (ofGrid (Grid.ofSize 1 1 Nat.one_pos Nat.one_pos) ⟨[], 0⟩).insert lonely

/-- A limit of three instructions, as many as the program has, finds out that the turn never ends. -/
theorem spinning_endless :
    spinning.creatures[0]? = some lonely ∧ spinning.grid.contains lonely.position = true ∧
      ¬lonely.program.Has (.jump .random) ∧ Endless 0 spinning := by
  have here : spinning.creatures[0]? = some lonely := by decide +kernel
  have standing : spinning.grid.contains lonely.position = true := by decide +kernel
  have fixed : ¬lonely.program.Has (.jump .random) := by
    rintro ⟨step, inside, random⟩
    revert step
    decide +kernel
  have exceeds : Exceeds 0 (spinning.withLimits fun _ => some ⟨3, "3"⟩) := ⟨_, _, _, _, rfl⟩
  obtain ⟨found, -⟩ := (turn_exceeds_iff here standing fixed).2 (fun _ => some ⟨3, "3"⟩) ⟨3, "3"⟩
    rfl (by decide +kernel)
  exact ⟨here, standing, fixed, found.1 exceeds⟩

end Board

end Vivarium
