import Vivarium.Proofs.Board.Occupancy

/-!
# What a turn does

While a creature runs jumps, nothing changes but its counter and the coin (`Board.paused`). So
what it sees is the same at each of its instructions, and the turn ends in one of few ways:

1. `perform_of_sees`: what an action makes of the board, by what the creature sees.
2. `run_cases`: what one instruction of a run does, however many follow it.
3. `run_ends`: how a run of any number of instructions ends (`Board.Ends`).
4. `turn_turned`: what a whole turn makes of the board, case by case (`Board.Turned`).

Later proofs split on the cases of `Board.Turned` and never look into a turn.
-/

namespace Vivarium

/-! ## A creature after an action -/

namespace Creature

def afterHop (c : Creature) (next : Int) : Creature :=
  { c with counter := next, position := c.ahead, moves := c.moves + 1 }

def afterFacing (c : Creature) (next : Int) (direction : Direction) : Creature :=
  { c with counter := next, direction := direction }

def afterInfection (c : Creature) (next : Int) : Creature :=
  { c with counter := next, infections := c.infections + 1 }

/-- A creature that was made one of another's species. -/
def converted (other c : Creature) : Creature :=
  { other with lineage := c.lineage, counter := 1 }

/-- A counter that was wrapped stays. -/
theorem wrapped_wrapped (c : Creature) : c.wrapped.wrapped = c.wrapped := by
  have again : c.program.wrap (c.program.wrap c.counter) = c.program.wrap c.counter :=
    c.program.wrap_wrap c.counter
  exact congrArg (fun counter => { c with counter := counter }) again

end Creature

namespace Board

variable {σ : Type} {b : Board σ} {slot : Nat} {c : Creature}

/-! ## A creature in place of another one -/

def put (b : Board σ) (slot : Nat) (c : Creature) : Board σ :=
  { b with creatures := b.creatures.setIfInBounds slot c }

/-- The board with a creature in place of another one and drawn. -/
def faced (b : Board σ) (slot : Nat) (c : Creature) : Board σ :=
  { b.put slot c with
    drawings := if c.drawn then b.drawings.push c.drawing else b.drawings }

/-- A change of the creature that is there puts its image in its place. -/
theorem modify_eq_set {creatures : Array Creature} (here : creatures[slot]? = some c)
    (f : Creature → Creature) :
    creatures.modify slot f = creatures.setIfInBounds slot (f c) := by
  apply Array.ext_getElem?
  intro i
  rw [Array.getElem?_modify, Array.getElem?_setIfInBounds]
  split
  · next same =>
    subst same
    rw [here, if_pos (Array.getElem?_eq_some_iff.1 here).1, Option.map_some]
  · rfl

theorem modify_set (creatures : Array Creature) (slot : Nat) (d : Creature)
    (f : Creature → Creature) :
    (creatures.setIfInBounds slot d).modify slot f = creatures.setIfInBounds slot (f d) := by
  apply Array.ext_getElem?
  intro i
  rw [Array.getElem?_modify, Array.getElem?_setIfInBounds, Array.getElem?_setIfInBounds]
  split
  · split <;> rfl
  · rfl

theorem getElem?_put_self (here : b.creatures[slot]? = some c) (d : Creature) :
    (b.put slot d).creatures[slot]? = some d := by
  rw [put, Array.getElem?_setIfInBounds, if_pos rfl,
    if_pos (Array.getElem?_eq_some_iff.1 here).1]

theorem getElem?_put_of_ne {i : Nat} (other : slot ≠ i) (d : Creature) :
    (b.put slot d).creatures[i]? = b.creatures[i]? := by
  rw [put, Array.getElem?_setIfInBounds, if_neg other]

theorem getElem?_put (here : b.creatures[slot]? = some c) (d : Creature) (i : Nat) :
    (b.put slot d).creatures[i]? = if i = slot then some d else b.creatures[i]? := by
  split
  · next same =>
    subst same
    exact getElem?_put_self here d
  · next other => exact getElem?_put_of_ne (Ne.symm other) d

theorem put_comm (b : Board σ) {i j : Nat} (apart : i ≠ j) (c d : Creature) :
    (b.put i c).put j d = (b.put j d).put i c := by
  rw [put, put, put, put, Array.setIfInBounds_comm _ _ apart]

theorem update_eq_put (here : b.creatures[slot]? = some c) (f : Creature → Creature) :
    b.update slot f = b.put slot (f c) := by
  rw [update, put, modify_eq_set here]

theorem update_put (b : Board σ) (slot : Nat) (d : Creature) (f : Creature → Creature) :
    (b.put slot d).update slot f = b.put slot (f d) := by
  rw [update, put, put, modify_set]

theorem map_put {α : Type} {f : Creature → α} (here : b.creatures[slot]? = some c) {d : Creature}
    (same : f d = f c) (i : Nat) :
    ((b.put slot d).creatures[i]?).map f = (b.creatures[i]?).map f := by
  by_cases same : slot = i
  · subst same
    rw [getElem?_put_self here, here, Option.map_some, Option.map_some, same]
  · rw [getElem?_put_of_ne same]

/-- A creature put in place of another one, seen by `f`. -/
theorem toList_map_put {α : Type} {f : Creature → α} (b : Board σ) (slot : Nat) (d : Creature) :
    (b.put slot d).creatures.toList.map f = (b.creatures.toList.map f).set slot (f d) := by
  rw [put, Array.toList_setIfInBounds, List.map_set]

/-- A creature that looks the same to `f` changes nothing that `f` sees. -/
theorem toList_map_put_of_eq {α : Type} {f : Creature → α} (here : b.creatures[slot]? = some c)
    {d : Creature} (same : f d = f c) :
    (b.put slot d).creatures.toList.map f = b.creatures.toList.map f := by
  have found : (b.creatures.toList.map f)[slot]? = some (f c) := by
    rw [List.getElem?_map, Array.getElem?_toList, here]
    rfl
  obtain ⟨inside, there⟩ := List.getElem?_eq_some_iff.1 found
  rw [toList_map_put, same, ← there, List.set_getElem_self]

/-- A creature gives its place on its square to another one. -/
theorem Agrees.put (agrees : b.Agrees) (here : b.creatures[slot]? = some c) {d : Creature}
    (still : d.position = c.position) : (b.put slot d).Agrees :=
  agrees.of_positions rfl (map_put here still)

/-! ## A board in the middle of a turn -/

/-- The board with a creature's counter and the coin as they are between two instructions. -/
def paused (b : Board σ) (slot : Nat) (counter : Int) (coin : σ) : Board σ :=
  { b.setCounter slot counter with coin := coin }

theorem paused_self (here : b.creatures[slot]? = some c) :
    b.paused slot c.counter b.coin = b := by
  have creatures : b.creatures.modify slot (fun d => { d with counter := c.counter }) =
      b.creatures := by
    apply Array.ext_getElem?
    intro i
    rw [Array.getElem?_modify]
    split
    · next same =>
      subst same
      rw [here, Option.map_some]
    · rfl
  rw [paused, setCounter, update, creatures]

theorem setCounter_paused (b : Board σ) (slot : Nat) (first second : Int) (coin : σ) :
    (b.paused slot first coin).setCounter slot second = b.paused slot second coin :=
  congrArg (fun x : Board σ => { x with coin := coin })
    (update_update b slot (fun d => { d with counter := first })
      fun d => { d with counter := second })

theorem getElem?_paused_self (here : b.creatures[slot]? = some c) (counter : Int) (coin : σ) :
    (b.paused slot counter coin).creatures[slot]? = some { c with counter := counter } := by
  have found := getElem?_update b slot slot fun d => { d with counter := counter }
  rw [if_pos rfl, here] at found
  exact found

theorem getElem?_paused_of_ne {i : Nat} (other : slot ≠ i) (counter : Int) (coin : σ) :
    (b.paused slot counter coin).creatures[i]? = b.creatures[i]? := by
  have found := getElem?_update b slot i fun d => { d with counter := counter }
  rw [if_neg other] at found
  exact found

theorem getElem?_paused (here : b.creatures[slot]? = some c) (counter : Int) (coin : σ) (i : Nat) :
    (b.paused slot counter coin).creatures[i]? =
      if i = slot then some { c with counter := counter } else b.creatures[i]? := by
  split
  · next same =>
    subst same
    exact getElem?_paused_self here counter coin
  · next other => exact getElem?_paused_of_ne (Ne.symm other) counter coin

theorem Agrees.paused (agrees : b.Agrees) (slot : Nat) (counter : Int) (coin : σ) :
    (b.paused slot counter coin).Agrees :=
  (agrees.update slot (f := fun d => { d with counter := counter }) fun _ => rfl).of_positions rfl
    fun _ => rfl

/-- The board in the middle of a turn with the creature put in place anew. -/
theorem put_paused (here : b.creatures[slot]? = some c) (counter : Int) (coin : σ)
    (d : Creature) :
    (b.paused slot counter coin).put slot d = { b.put slot d with coin := coin } := by
  rw [paused, setCounter, update_eq_put here, put, put, put, Array.setIfInBounds_setIfInBounds]

/-- The counter is brought to the address it stands for. -/
theorem wrapped_paused (here : b.creatures[slot]? = some c) (counter : Int) (coin : σ) :
    (b.paused slot counter coin).update slot Creature.wrapped =
      b.paused slot (c.program.wrap counter) coin := by
  rw [update_eq_put (getElem?_paused_self here counter coin), put_paused here, paused, setCounter,
    update_eq_put here]
  rfl

/-! ## What is seen -/

/-- What a creature sees, by what the square ahead holds. -/
inductive Sees (b : Board σ) (c : Creature) : Sight → Prop
  | wall (outside : b.grid.contains c.ahead = false) : Sees b c .wall
  | empty (inside : b.grid.contains c.ahead = true) (free : b.grid.get? c.ahead = none) :
      Sees b c .empty
  | creature {slot : Nat} {other : Creature} (held : b.grid.get? c.ahead = some slot)
      (there : b.creatures[slot]? = some other) : Sees b c (.creature slot other)

/-- Looking ahead never fails, and shows what is there. -/
theorem Agrees.sight (agrees : b.Agrees) (c : Creature) :
    ∃ seen, b.sight c = .ok seen ∧ b.Sees c seen := by
  rw [Board.sight]
  split
  · next inside =>
    rw [Grid.read_of_contains inside]
    cases held : b.grid.get? c.ahead with
    | none => exact ⟨.empty, rfl, .empty inside held⟩
    | some slot =>
      obtain ⟨other, there, _⟩ := agrees.stands held
      exact ⟨.creature slot other, by simp only [Except.map, there], .creature held there⟩
  · next outside => exact ⟨.wall, rfl, .wall (by simpa using outside)⟩

/-- What is seen is determined by the board. -/
theorem Sees.unique {seen seen' : Sight} (first : b.Sees c seen) (second : b.Sees c seen') :
    seen = seen' := by
  cases first with
  | wall outside =>
    cases second with
    | wall => rfl
    | empty inside => rw [outside] at inside; cases inside
    | creature held => rw [Grid.get?_of_not_contains outside] at held; cases held
  | empty inside free =>
    cases second with
    | wall outside => rw [outside] at inside; cases inside
    | empty => rfl
    | creature held => rw [free] at held; cases held
  | creature held there =>
    cases second with
    | wall outside => rw [Grid.get?_of_not_contains outside] at held; cases held
    | empty _ free => rw [free] at held; cases held
    | creature held' there' =>
      rw [held] at held'
      cases held'
      rw [there] at there'
      cases there'
      rfl

/-- The creature ahead is another one. -/
theorem Agrees.ahead_ne (agrees : b.Agrees) (here : b.creatures[slot]? = some c) {i : Nat}
    (held : b.grid.get? c.ahead = some i) : slot ≠ i := by
  rintro rfl
  obtain ⟨d, found, stands⟩ := agrees.stands held
  rw [here] at found
  cases found
  exact Position.adjacent_ne _ _ stands.symm

/-- A creature does not see itself, so it sees the same while its counter moves on. -/
theorem Sees.paused (agrees : b.Agrees) (here : b.creatures[slot]? = some c) {seen : Sight}
    (sees : b.Sees c seen) (counter : Int) (coin : σ) :
    (b.paused slot counter coin).Sees { c with counter := counter } seen := by
  cases sees with
  | wall outside => exact .wall outside
  | empty inside free => exact .empty inside free
  | creature held there =>
    have apart := agrees.ahead_ne here held
    exact .creature held ((getElem?_paused_of_ne apart counter coin).trans there)

theorem Agrees.sight_paused (agrees : b.Agrees) (here : b.creatures[slot]? = some c)
    {seen : Sight} (sees : b.Sees c seen) (counter : Int) (coin : σ) :
    (b.paused slot counter coin).sight { c with counter := counter } = .ok seen := by
  obtain ⟨seen', looked, sees'⟩ :=
    (agrees.paused slot counter coin).sight { c with counter := counter }
  rw [looked, (sees.paused agrees here counter coin).unique sees']

/-! ## What a turn makes of the board -/

/-- How the turn of the creature `c` in `slot` can end once it has come to an address, the coin being
then `coin`, and what it makes of the board. -/
inductive Turned [CoinSource σ] (b : Board σ) (slot : Nat) (c : Creature) (address : Int) (coin : σ) :
    Except Fault Action → Board σ → Prop
  /-- It hops to the free square ahead. -/
  | hopped (fetched : c.program.fetch address = .ok (.act .hop))
      (inside : b.grid.contains c.ahead = true) (free : b.grid.get? c.ahead = none) :
      Turned b slot c address coin (.ok .hop)
        { b.put slot (c.afterHop (address + 1)) with
          grid := (b.grid.write c.position none).write c.ahead (some slot)
          drawings :=
            if c.drawn then
              (b.drawings.push (.blank c.position)).push (c.afterHop (address + 1)).drawing
            else b.drawings
          coin := coin }
  /-- It hops, and the square ahead is not free. -/
  | blocked (fetched : c.program.fetch address = .ok (.act .hop))
      (taken : b.grid.contains c.ahead = true → b.grid.get? c.ahead ≠ none) :
      Turned b slot c address coin (.ok .hop) (b.paused slot (address + 1) coin)
  /-- It turns left. -/
  | left (fetched : c.program.fetch address = .ok (.act .left)) :
      Turned b slot c address coin (.ok .left)
        { b.faced slot (c.afterFacing (address + 1) c.direction.left) with coin := coin }
  /-- It turns right. -/
  | right (fetched : c.program.fetch address = .ok (.act .right)) :
      Turned b slot c address coin (.ok .right)
        { b.faced slot (c.afterFacing (address + 1) c.direction.right) with coin := coin }
  /-- It makes the creature ahead one of its own species. -/
  | infected {victim : Nat} {other : Creature}
      (fetched : c.program.fetch address = .ok (.act .infect))
      (held : b.grid.get? c.ahead = some victim) (there : b.creatures[victim]? = some other)
      (apart : slot ≠ victim) (enemy : other.sameSpecies c = false) :
      Turned b slot c address coin (.ok .infect)
        { (b.put slot (c.afterInfection (address + 1))).put victim (other.converted c) with
          drawings :=
            if other.drawn then b.drawings.push (other.converted c).drawing else b.drawings
          journal := b.journal.push (infection c other)
          coin := coin }
  /-- It infects, and no creature of another species is ahead. -/
  | spared (fetched : c.program.fetch address = .ok (.act .infect))
      (harmless : ∀ victim other, b.grid.get? c.ahead = some victim →
        b.creatures[victim]? = some other → other.sameSpecies c = true) :
      Turned b slot c address coin (.ok .infect) (b.paused slot (address + 1) coin)
  /-- It runs into its limit. -/
  | capped {limit : TurnLimit} (limited : c.limit = some limit) :
      Turned b slot c address coin (.error (.turnLimit c.id c.species.name limit.text))
        (b.paused slot address coin)
  /-- It has no limit and does not come to an action. -/
  | endless (unlimited : c.limit = none) :
      Turned b slot c address coin (.error .endlessTurn) (b.paused slot address coin)
  /-- It needs a coin that is missing. -/
  | coinless (missing : CoinSource.flip coin = none) :
      Turned b slot c address coin (.error (.noCoin c.id c.species.name))
        (b.paused slot address coin)

/-! ## Actions -/

/-- A hop to a free square. -/
theorem perform_hop (agrees : b.Agrees) (here : b.creatures[slot]? = some c)
    (inside : b.grid.contains c.ahead = true) :
    b.perform slot c .empty .hop = (.ok (),
      { b.put slot (c.afterHop (c.counter + 1)) with
        grid := (b.grid.write c.position none).write c.ahead (some slot)
        drawings :=
          if c.drawn then
            (b.drawings.push (.blank c.position)).push (c.afterHop (c.counter + 1)).drawing
          else b.drawings }) := by
  have leave : b.grid.set (some c.position) none = .ok (b.grid.write c.position none) :=
    Grid.set_of_contains (agrees.contains here) none
  have enter : (b.grid.write c.position none).set (some c.ahead) (some slot) =
      .ok ((b.grid.write c.position none).write c.ahead (some slot)) :=
    Grid.set_of_contains (by rw [Grid.contains_write, inside]) _
  have shown (e : Creature) : (b.creatures.setIfInBounds slot e)[slot]? = some e :=
    getElem?_put_self here e
  simp only [perform, move, draw_eq, setCounter, update, put, leave, enter, modify_eq_set here,
    modify_set, redraw, shown]
  by_cases drawn : c.drawn = true
  · simp only [if_pos drawn]
    rfl
  · simp only [if_neg drawn]
    rfl

/-- A turn in place, to either side. -/
theorem turn_in_place (here : b.creatures[slot]? = some c) (side : Direction → Direction) :
    ((b.setCounter slot (c.counter + 1)).update slot fun e =>
        { e with direction := side e.direction }).redraw slot =
      b.faced slot (c.afterFacing (c.counter + 1) (side c.direction)) := by
  rw [setCounter, update_eq_put here, update_put, redraw_eq (getElem?_put_self here _)]
  rfl

/-- An infection of a creature of another species. -/
theorem perform_infect (here : b.creatures[slot]? = some c) {victim : Nat} {other : Creature}
    (there : b.creatures[victim]? = some other) (apart : slot ≠ victim)
    (enemy : other.sameSpecies c = false) :
    b.perform slot c (.creature victim other) .infect = (.ok (),
      { (b.put slot (c.afterInfection (c.counter + 1))).put victim (other.converted c) with
        drawings := if other.drawn then b.drawings.push (other.converted c).drawing else b.drawings
        journal := b.journal.push (infection c other) }) := by
  -- Attacker and victim are in different slots, so their updates are put in another order here:
  -- the victim's comes first.
  let next := { c with counter := c.counter + 1 }
  let noted := (b.put victim (other.converted c)).note (infection c other)
  have turned : ((b.put slot next).note (infection c other)).update victim
      (fun x => { x with lineage := c.lineage, counter := 1 }) = noted.put slot next := by
    have there' : ((b.put slot next).note (infection c other)).creatures[victim]? = some other :=
      (getElem?_put_of_ne apart next).trans there
    rw [update_eq_put there']
    exact congrArg (fun x => x.note (infection c other)) (put_comm b apart next _)
  have counted : (noted.put slot next).update slot
      (fun x => { x with infections := x.infections + 1 }) =
      noted.put slot (c.afterInfection (c.counter + 1)) :=
    update_put noted slot next _
  have shown : (noted.put slot (c.afterInfection (c.counter + 1))).creatures[victim]? =
      some (other.converted c) :=
    (getElem?_put_of_ne apart _).trans (getElem?_put_self there _)
  have infected : (b.put slot next).infect slot c victim other =
      (noted.put slot (c.afterInfection (c.counter + 1))).redraw victim := by
    rw [← counted, ← turned]
    rfl
  simp only [perform, enemy, setCounter, update_eq_put here, Bool.false_eq_true, if_false]
  rw [infected, redraw_eq shown, put_comm b apart]
  rfl

/-- The action that a creature does in the middle of a turn, as it sees the board. -/
theorem perform_of_sees [CoinSource σ] (agrees : b.Agrees) (here : b.creatures[slot]? = some c)
    {seen : Sight} (sees : b.Sees c seen) {address : Int} {action : Action}
    (fetched : c.program.fetch address = .ok (.act action)) (coin : σ) :
    ∃ after, (b.paused slot address coin).perform slot { c with counter := address } seen action =
      (.ok (), after) ∧ Turned b slot c address coin (.ok action) after := by
  have agrees' := agrees.paused slot address coin
  have here' := getElem?_paused_self here address coin
  have next : (b.paused slot address coin).setCounter slot (address + 1) =
      b.paused slot (address + 1) coin := setCounter_paused b slot _ _ coin
  cases action with
  | hop =>
    cases sees with
    | wall outside =>
      refine ⟨b.paused slot (address + 1) coin, ?_, .blocked fetched ?_⟩
      · simp only [perform, next]
      · intro inside
        rw [outside] at inside
        cases inside
    | empty inside free =>
      refine ⟨_, perform_hop agrees' here' inside, ?_⟩
      rw [put_paused here]
      exact .hopped fetched inside free
    | creature held there =>
      refine ⟨b.paused slot (address + 1) coin, ?_, .blocked fetched ?_⟩
      · simp only [perform, next]
      · intro _
        rw [held]
        exact Option.some_ne_none _
  | left =>
    refine ⟨_, congrArg (Prod.mk _) (turn_in_place here' Direction.left), ?_⟩
    rw [faced, put_paused here]
    exact .left fetched
  | right =>
    refine ⟨_, congrArg (Prod.mk _) (turn_in_place here' Direction.right), ?_⟩
    rw [faced, put_paused here]
    exact .right fetched
  | infect =>
    cases sees with
    | wall outside =>
      refine ⟨b.paused slot (address + 1) coin, ?_, .spared fetched ?_⟩
      · simp only [perform, next]
      · intro victim other held
        rw [Grid.get?_of_not_contains outside] at held
        cases held
    | empty inside free =>
      refine ⟨b.paused slot (address + 1) coin, ?_, .spared fetched ?_⟩
      · simp only [perform, next]
      · intro victim other held
        rw [free] at held
        cases held
    | @creature victim other held there =>
      have apart : slot ≠ victim := agrees.ahead_ne here held
      cases kin : other.sameSpecies c with
      | true =>
        refine ⟨b.paused slot (address + 1) coin, ?_, .spared fetched ?_⟩
        · have kin' : other.sameSpecies { c with counter := address } = true := kin
          simp only [perform, next, kin', if_true]
        · intro victim' other' held' there'
          rw [held] at held'
          cases held'
          rw [there] at there'
          cases there'
          exact kin
      | false =>
        refine ⟨_, perform_infect here' ((getElem?_paused_of_ne apart address coin).trans there)
          apart kin, ?_⟩
        rw [put_paused here]
        exact .infected fetched held there apart kin

/-! ## Instructions -/

section Run

variable [CoinSource σ]

/-- A run begins by wrapping the counter. -/
theorem run_wrapped (slot steps : Nat) (b : Board σ) :
    run slot steps (b.update slot Creature.wrapped) = run slot steps b := by
  have again : (b.update slot Creature.wrapped).update slot Creature.wrapped =
      b.update slot Creature.wrapped := by
    rw [update_update]
    exact congrArg (b.update slot) (funext Creature.wrapped_wrapped)
  cases steps with
  | zero => rw [run, run, again]
  | succ steps => rw [run, run, again]

/-- A condition takes at most the coin, which must be there. -/
theorem test_paused (b : Board σ) (slot : Nat) (c : Creature) (seen : Sight)
    (condition : Condition) (counter : Int) (coin : σ) :
    (∃ taken coin', (b.paused slot counter coin).test c seen condition =
      some (taken, b.paused slot counter coin')) ∨
    (CoinSource.flip coin = none ∧ (b.paused slot counter coin).test c seen condition = none) := by
  cases condition with
  | random =>
    cases flipped : CoinSource.flip coin with
    | none => exact .inr ⟨rfl, congrArg (Option.map _) flipped⟩
    | some flip => exact .inl ⟨flip.1, flip.2, congrArg (Option.map _) flipped⟩
  | empty | wall | same | enemy | always => exact .inl ⟨_, coin, rfl⟩

/-- The instruction that a counter stands for is fetched, and the creature sees what it saw when
its turn began. -/
theorem execute_paused (agrees : b.Agrees) (here : b.creatures[slot]? = some c) {seen : Sight}
    (sees : b.Sees c seen) (counter : Int) (coin : σ) :
    (b.paused slot (c.program.wrap counter) coin).execute slot
        { c with counter := c.program.wrap counter } =
      (b.paused slot (c.program.wrap counter) coin).follow slot
        { c with counter := c.program.wrap counter } seen (c.program.instructionAt counter) := by
  have fetched : ({ c with counter := c.program.wrap counter } : Creature).program.fetch
      (c.program.wrap counter) = .ok (c.program.instructionAt counter) :=
    c.program.fetch_wrap counter
  have looked := agrees.sight_paused here sees (c.program.wrap counter) coin
  simp only [execute, fetched, looked]

/-- A run goes on from what came of an instruction. -/
def Stride.resume (next : Board σ → Run σ) : Stride σ → Run σ
  | .acted action after => .acted action after
  | .failed fault after => .failed fault after
  | .jumped after => next after

/-- One instruction of a run. -/
theorem run_paused_succ (agrees : b.Agrees) (here : b.creatures[slot]? = some c) {seen : Sight}
    (sees : b.Sees c seen) (steps : Nat) (counter : Int) (coin : σ) :
    run slot (steps + 1) (b.paused slot counter coin) =
      ((b.paused slot (c.program.wrap counter) coin).follow slot
        { c with counter := c.program.wrap counter } seen
        (c.program.instructionAt counter)).resume (run slot steps) := by
  rw [run, wrapped_paused here]
  simp only [getElem?_paused_self here, execute_paused agrees here sees]
  generalize (b.paused slot (c.program.wrap counter) coin).follow slot _ seen
    (c.program.instructionAt counter) = stride
  cases stride <;> rfl

/-- What one instruction of a run does, however many follow: it is an action, or it is a jump, or it
needs a coin that is missing. -/
theorem run_cases (agrees : b.Agrees) (here : b.creatures[slot]? = some c) (counter : Int)
    (coin : σ) :
    (∃ action after, Turned b slot c (c.program.wrap counter) coin (.ok action) after ∧
      ∀ steps, run slot (steps + 1) (b.paused slot counter coin) = .acted action after) ∨
    (∃ counter' coin', ∀ steps, run slot (steps + 1) (b.paused slot counter coin) =
      run slot steps (b.paused slot counter' coin')) ∨
    (CoinSource.flip coin = none ∧
      ∀ steps, run slot (steps + 1) (b.paused slot counter coin) =
        .failed (.noCoin c.id c.species.name) (b.paused slot (c.program.wrap counter) coin)) := by
  obtain ⟨seen, -, sees⟩ := agrees.sight c
  have fetched := c.program.fetch_wrap counter
  have next := fun steps => run_paused_succ agrees here sees steps counter coin
  cases instruction : c.program.instructionAt counter with
  | act action =>
    rw [instruction] at fetched
    obtain ⟨after, performed, turned⟩ := perform_of_sees agrees here sees fetched coin
    refine .inl ⟨action, after, turned, fun steps => ?_⟩
    simp only [next, instruction, follow, performed, Stride.resume]
  | jump condition target positive =>
    rcases test_paused b slot { c with counter := c.program.wrap counter } seen condition
      (c.program.wrap counter) coin with ⟨taken, coin', tested⟩ | ⟨missing, tested⟩
    · cases taken with
      | true =>
        refine .inr (.inl ⟨target, coin', fun steps => ?_⟩)
        simp only [next, instruction, follow, tested, setCounter_paused, Stride.resume]
      | false =>
        refine .inr (.inl ⟨c.program.wrap counter + 1, coin', fun steps => ?_⟩)
        simp only [next, instruction, follow, tested, setCounter_paused, Stride.resume]
    · refine .inr (.inr ⟨missing, fun steps => ?_⟩)
      simp only [next, instruction, follow, tested, Stride.resume]
      rfl

/-- How a run of a creature's instructions can end once it has come to an address. -/
inductive Ends (b : Board σ) (slot : Nat) (c : Creature) (address : Int) (coin : σ) : Run σ → Prop
  | acted {action : Action} {after : Board σ}
      (turned : Turned b slot c address coin (.ok action) after) :
      Ends b slot c address coin (.acted action after)
  | unfinished : Ends b slot c address coin (.unfinished (b.paused slot address coin))
  | coinless (missing : CoinSource.flip coin = none) :
      Ends b slot c address coin
        (.failed (.noCoin c.id c.species.name) (b.paused slot address coin))

/-- A run of a creature's instructions comes to an address, the coin being then `coin`, and up to
there it has changed only its counter and the coin. -/
structure Comes (b : Board σ) (slot : Nat) (c : Creature) (address : Int) (coin : σ) : Prop where
  pos : 1 ≤ address
  le_size : address ≤ c.program.size
  run : ∃ steps, run slot steps b = .unfinished (b.paused slot address coin)

theorem run_paused_ends (agrees : b.Agrees) (here : b.creatures[slot]? = some c) (steps : Nat)
    (counter : Int) (coin : σ) :
    ∃ (address : Int) (coin' : σ), 1 ≤ address ∧ address ≤ c.program.size ∧
      (∃ done, run slot done (b.paused slot counter coin) =
        .unfinished (b.paused slot address coin')) ∧
      Ends b slot c address coin' (run slot steps (b.paused slot counter coin)) := by
  have low := c.program.wrap_pos counter
  have high := c.program.wrap_le_size counter
  -- The induction is over the instructions that are left. The board is `b` but for a counter and a
  -- coin, which are general: a jump changes both of them.
  have start : run slot 0 (b.paused slot counter coin) =
      .unfinished (b.paused slot (c.program.wrap counter) coin) := by
    rw [run, wrapped_paused here]
  induction steps generalizing counter coin with
  | zero =>
    rw [start]
    exact ⟨_, coin, low, high, ⟨0, start⟩, .unfinished⟩
  | succ steps ih =>
    rcases run_cases agrees here counter coin with
      ⟨action, after, turned, acted⟩ | ⟨counter', coin', jumped⟩ | ⟨missing, failed⟩
    · rw [acted]
      exact ⟨_, coin, low, high, ⟨0, start⟩, .acted turned⟩
    · obtain ⟨address, last, low', high', ⟨done, came⟩, ends⟩ :=
        ih counter' coin' (c.program.wrap_pos counter') (c.program.wrap_le_size counter')
          (by rw [run, wrapped_paused here])
      rw [jumped]
      exact ⟨address, last, low', high', ⟨done + 1, (jumped done).trans came⟩, ends⟩
    · rw [failed]
      exact ⟨_, coin, low, high, ⟨0, start⟩, .coinless missing⟩

/-- Up to its end, a run changes only the counter and the coin, whatever its length. -/
theorem run_ends (agrees : b.Agrees) (here : b.creatures[slot]? = some c) (steps : Nat) :
    ∃ address coin, b.Comes slot c address coin ∧
      Ends b slot c address coin (run slot steps b) := by
  have ends := run_paused_ends agrees here steps c.counter b.coin
  rw [paused_self here] at ends
  obtain ⟨address, coin, low, high, came, ends⟩ := ends
  exact ⟨address, coin, ⟨low, high, came⟩, ends⟩

/-- A turn comes to an address and ends there in one of the ways of `Turned`. -/
theorem turn_turned (agrees : b.Agrees) (here : b.creatures[slot]? = some c) :
    ∃ address coin, b.Comes slot c address coin ∧
      Turned b slot c address coin (b.turn slot).1 (b.turn slot).2 := by
  obtain ⟨address, coin, comes, ends⟩ :=
    run_ends agrees here (c.limit.elim (b.patience c) TurnLimit.steps)
  refine ⟨address, coin, comes, ?_⟩
  simp only [turn, here]
  generalize run slot (c.limit.elim (b.patience c) TurnLimit.steps) b = result at ends
  cases ends with
  | acted turned => exact turned
  | unfinished =>
    cases limited : c.limit with
    | some limit => exact .capped limited
    | none => exact .endless limited
  | coinless missing => exact .coinless missing

/-! ## What every turn keeps -/

variable {address : Int} {coin : σ} {result : Except Fault Action} {after : Board σ}

/-- What the creature's action leaves of it, and an infection of its victim, a turn leaves of every
creature. -/
theorem Turned.map_eq {α : Type} (turned : Turned b slot c address coin result after)
    (here : b.creatures[slot]? = some c) {f : Creature → α}
    (paused : ∀ next, f { c with counter := next } = f c)
    (hop : ∀ next, f (c.afterHop next) = f c)
    (facing : ∀ next direction, f (c.afterFacing next direction) = f c)
    (infection : ∀ next, f (c.afterInfection next) = f c)
    (converted : ∀ other, f (other.converted c) = f other) (i : Nat) :
    (after.creatures[i]?).map f = (b.creatures[i]?).map f := by
  have still (next : Int) (coin : σ) : ((b.paused slot next coin).creatures[i]?).map f =
      (b.creatures[i]?).map f := by
    rw [Board.paused, setCounter, update_eq_put here]
    exact map_put here (paused next) i
  cases turned with
  | hopped => exact map_put here (hop _) i
  | left | right => exact map_put here (facing _ _) i
  | @infected victim other fetched held there apart enemy =>
    have there' := (getElem?_put_of_ne apart (c.afterInfection (address + 1))).trans there
    exact (map_put there' (converted other) i).trans (map_put here (infection _) i)
  | blocked | spared | capped | endless | coinless => exact still _ _

/-- A turn leaves all creatures' species and infections as they were, or it infects: a creature of
another species becomes one of the creature's own, and all other species stay. -/
theorem Turned.spread_cases (turned : Turned b slot c address coin result after)
    (here : b.creatures[slot]? = some c) :
    after.creatures.toList.map (fun d => (d.lineage, d.infections)) =
        b.creatures.toList.map (fun d => (d.lineage, d.infections)) ∨
      (result = .ok .infect ∧ c.program.fetch address = .ok (.act .infect) ∧
        ∃ victim other, b.creatures[victim]? = some other ∧ other.sameSpecies c = false ∧
          after.creatures.toList.map Creature.lineage =
            (b.creatures.toList.map Creature.lineage).set victim c.lineage) := by
  have still (next : Int) (coin : σ) :
      (b.paused slot next coin).creatures.toList.map (fun d => (d.lineage, d.infections)) =
        b.creatures.toList.map fun d => (d.lineage, d.infections) := by
    rw [Board.paused, setCounter, update_eq_put here]
    exact toList_map_put_of_eq here rfl
  cases turned with
  | hopped | left | right => exact .inl (toList_map_put_of_eq here rfl)
  | blocked | spared | capped | endless | coinless => exact .inl (still _ _)
  | @infected victim other fetched held there apart enemy =>
    have attacker : (b.put slot (c.afterInfection (address + 1))).creatures.toList.map
        Creature.lineage = b.creatures.toList.map Creature.lineage := toList_map_put_of_eq here rfl
    refine .inr ⟨rfl, fetched, victim, other, there, enemy, ?_⟩
    rw [← attacker]
    exact toList_map_put _ victim (other.converted c)

theorem Turned.size_eq (turned : Turned b slot c address coin result after) :
    after.creatures.size = b.creatures.size := by
  cases turned <;> simp [put, faced, Board.paused, setCounter]

/-- After a turn the squares and the creatures still agree. -/
theorem Turned.agrees (turned : Turned b slot c address coin result after) (agrees : b.Agrees)
    (here : b.creatures[slot]? = some c) : after.Agrees := by
  cases turned with
  | hopped fetched inside free => exact agrees.relocate here inside free rfl rfl rfl
  | left | right => exact agrees.of_positions rfl (map_put here rfl)
  | @infected victim other fetched held there apart enemy =>
    have there' := (getElem?_put_of_ne apart (c.afterInfection (address + 1))).trans there
    have acted := agrees.put here (d := c.afterInfection (address + 1)) rfl
    exact (acted.put there' (d := other.converted c) rfl).of_positions rfl fun _ => rfl
  | blocked | spared | capped | endless | coinless => exact agrees.paused slot _ _

end Run

end Board

end Vivarium
