import Mathlib.Data.Finset.Prod
import Mathlib.Data.Fintype.Card
import Mathlib.Data.Nat.Find
import Vivarium.Proofs.Board.Revision
import Vivarium.Proofs.Board.Turn
import Vivarium.Proofs.Chance.Coin

/-!
# The instructions of a turn, one by one

1. `Board.stride` is one instruction of a creature. `Board.Jumps` counts instructions that are jumps,
   `Board.Acts` those of a turn up to its action; `run_eq_acted_iff` and `run_eq_unfinished_iff` say
   what a run with a given number of instructions has to do with them.
2. `stride_of_jump`: what a creature sees does not change while it jumps, so the next address is a
   function of the address and of the coin.
3. `Acts.le_card`: so a turn has come to its action before it is twice at the same address with the
   same state of the coin, or it never does. `Acts.le_size` is the bound for a program that does not
   flip the coin, `Acts.le_patience` the one that a turn without a limit relies on.

Squares and creatures need not agree on who stands where for any of this.
-/

namespace Vivarium

/-! ## Opcodes of a program -/

namespace Program

/-- A program has an instruction of a kind. -/
def Has (p : Program) (opcode : Opcode) : Prop := ∃ step ∈ p.toList, step.opcode = opcode

theorem fetch_mem {p : Program} {address : Int} {step : Instruction}
    (fetched : p.fetch address = .ok step) : step ∈ p.toList := by
  rw [fetch] at fetched
  split at fetched
  · cases fetched
    exact Array.getElem_mem_toList _
  · cases fetched

theorem Has.of_fetch {p : Program} {address : Int} {step : Instruction}
    (fetched : p.fetch address = .ok step) : p.Has step.opcode := ⟨step, fetch_mem fetched, rfl⟩

theorem instructionAt_wrap (p : Program) (counter : Int) :
    p.instructionAt (p.wrap counter) = p.instructionAt counter := by
  have fetched := p.fetch_wrap (p.wrap counter)
  rw [wrap_wrap, fetch_wrap] at fetched
  exact (Except.ok.inj fetched).symm

end Program

namespace Board

variable {σ : Type} {b : Board σ} {slot : Nat} {c : Creature}

/-! ## What is seen in the middle of a turn -/

/-- Looking ahead never fails. -/
theorem exists_sight (b : Board σ) (c : Creature) : ∃ seen, b.sight c = .ok seen := by
  rw [sight]
  split
  · next inside =>
    rw [Grid.read_of_contains inside]
    exact ⟨_, rfl⟩
  · exact ⟨.wall, rfl⟩

/-- A creature with another counter, the one in `slot` only. -/
def recount (slot : Nat) (counter : Int) (i : Nat) (d : Creature) : Creature :=
  if slot = i then { d with counter := counter } else d

theorem number_recount (slot : Nat) (counter : Int) (i : Nat) (d : Creature) :
    (recount slot counter i d).lineage.number = d.lineage.number := by
  rw [recount]
  split <;> rfl

/-- In the middle of its turn a creature sees what it saw when the turn began. -/
theorem sight_in_turn {seen : Sight} (looked : b.sight c = .ok seen) (slot : Nat) (counter : Int)
    (coin : σ) :
    (b.paused slot counter coin).sight { c with counter := counter } =
      .ok (seen.mapSlots (recount slot counter)) := by
  have creatures (i : Nat) : (b.paused slot counter coin).creatures[i]? =
      (b.creatures[i]?).map (recount slot counter i) := by
    refine (getElem?_update b slot i _).trans ?_
    split
    · next same =>
      subst same
      exact congrArg (fun f => (b.creatures[slot]?).map f) (funext fun d => (if_pos rfl).symm)
    · next other =>
      have idle : recount slot counter i = id := funext fun d => if_neg other
      rw [idle, Option.map_id]
      rfl
  have sighted : (b.paused slot counter coin).sight { c with counter := counter } =
      (b.sight c).map (Sight.mapSlots (recount slot counter)) :=
    sight_of_slots creatures rfl rfl
  rw [sighted, looked]
  rfl

/-- A creature sees a free square only on the grid. -/
theorem contains_of_sight (looked : b.sight c = .ok .empty) : b.grid.contains c.ahead = true := by
  rw [sight] at looked
  split at looked
  · next inside => exact inside
  · cases looked

/-- No action of a creature that stands on the grid fails. -/
theorem perform_eq_ok (standing : b.grid.contains c.position = true) (slot : Nat) (seen : Sight)
    (inside : seen = .empty → b.grid.contains c.ahead = true) (action : Action) :
    ∃ after, b.perform slot c seen action = (.ok (), after) := by
  cases action with
  | left | right | infect => cases seen <;> exact ⟨_, rfl⟩
  | hop =>
    cases seen with
    | wall | creature => exact ⟨_, rfl⟩
    | empty =>
      have leave : b.grid.set (some c.position) none = .ok (b.grid.write c.position none) :=
        Grid.set_of_contains standing none
      have enter : (b.grid.write c.position none).set (some c.ahead) (some slot) =
          .ok ((b.grid.write c.position none).write c.ahead (some slot)) :=
        Grid.set_of_contains (by rw [Grid.contains_write, inside rfl]) _
      simp only [perform, move, draw_eq, setCounter, update, leave, enter]
      exact ⟨_, rfl⟩

/-! ## Strides -/

variable [CoinSource σ]

/-- The next instruction of a creature's turn. -/
def stride (b : Board σ) (slot : Nat) : Stride σ :=
  let ready := b.update slot Creature.wrapped
  match ready.creatures[slot]? with
  | none => .failed .noSuchItem ready
  | some c => ready.execute slot c

theorem run_succ (slot steps : Nat) (b : Board σ) :
    run slot (steps + 1) b = (b.stride slot).resume (run slot steps) := by
  rw [run, stride]
  cases (b.update slot Creature.wrapped).creatures[slot]? with
  | none => rfl
  | some c =>
    dsimp only
    cases (b.update slot Creature.wrapped).execute slot c <;> rfl

/-- A creature in `slot` runs so many jumps, one after the other. -/
inductive Jumps (slot : Nat) : Nat → Board σ → Board σ → Prop
  | none (b : Board σ) : Jumps slot 0 b b
  | jump {count : Nat} {b next last : Board σ} (jumped : b.stride slot = .jumped next)
      (more : Jumps slot count next last) : Jumps slot (count + 1) b last

/-- A creature in `slot` runs so many instructions, the last of them an action and all before it
jumps. -/
inductive Acts (slot : Nat) : Nat → Board σ → Action → Board σ → Prop
  | act {b : Board σ} {action : Action} {after : Board σ}
      (acted : b.stride slot = .acted action after) : Acts slot 1 b action after
  | jump {count : Nat} {b next : Board σ} {action : Action} {after : Board σ}
      (jumped : b.stride slot = .jumped next) (more : Acts slot count next action after) :
      Acts slot (count + 1) b action after

/-- A creature in `slot` goes on jumping for ever. -/
def Endless (slot : Nat) (b : Board σ) : Prop := ∀ count, ∃ last, Jumps slot count b last

variable {action : Action} {after last left next : Board σ} {count m n steps : Nat}

/-- Up to its action a turn has jumped. -/
theorem acts_iff_jumps : Acts slot (count + 1) b action after ↔
    ∃ last, Jumps slot count b last ∧ last.stride slot = .acted action after := by
  constructor
  · intro acts
    induction count generalizing b with
    | zero =>
      cases acts with
      | act acted => exact ⟨b, .none b, acted⟩
      | jump _ more => cases more
    | succ count ih =>
      cases acts with
      | jump jumped more =>
        obtain ⟨last, jumps, acted⟩ := ih more
        exact ⟨last, .jump jumped jumps, acted⟩
  · rintro ⟨last, jumps, acted⟩
    induction jumps with
    | none => exact .act acted
    | jump jumped _ ih => exact .jump jumped (ih acted)

/-- A run with a limit acts if the turn comes to its action within the limit. -/
theorem run_eq_acted_iff : run slot steps b = .acted action after ↔
    ∃ m ≤ steps, Acts slot m b action after := by
  induction steps generalizing b with
  | zero =>
    constructor
    · intro acted
      cases acted
    · rintro ⟨m, within, acts⟩
      cases acts <;> omega
  | succ steps ih =>
    rw [run_succ]
    constructor
    · intro acted
      cases strode : b.stride slot with
      | acted action' after' =>
        rw [strode] at acted
        cases acted
        exact ⟨1, by omega, .act strode⟩
      | failed fault after' =>
        rw [strode] at acted
        cases acted
      | jumped next =>
        rw [strode] at acted
        obtain ⟨m, within, acts⟩ := ih.1 acted
        exact ⟨m + 1, by omega, .jump strode acts⟩
    · rintro ⟨m, within, acts⟩
      cases acts with
      | act acted => rw [acted, Stride.resume]
      | jump jumped more => rw [jumped, Stride.resume, ih.2 ⟨_, by omega, more⟩]

/-- A run with a limit is unfinished if as many jumps have been made. -/
theorem run_eq_unfinished_iff : run slot steps b = .unfinished left ↔
    ∃ last, Jumps slot steps b last ∧ left = last.update slot Creature.wrapped := by
  induction steps generalizing b with
  | zero =>
    constructor
    · intro unfinished
      cases unfinished
      exact ⟨b, .none b, rfl⟩
    · rintro ⟨last, jumps, rfl⟩
      cases jumps
      rfl
  | succ steps ih =>
    rw [run_succ]
    constructor
    · intro unfinished
      cases strode : b.stride slot with
      | acted | failed =>
        rw [strode] at unfinished
        cases unfinished
      | jumped next =>
        rw [strode] at unfinished
        obtain ⟨last, jumps, wrapped⟩ := ih.1 unfinished
        exact ⟨last, .jump strode jumps, wrapped⟩
    · rintro ⟨last, jumps, wrapped⟩
      cases jumps with
      | jump jumped more => rw [jumped, Stride.resume, ih.2 ⟨last, more, wrapped⟩]

theorem Jumps.take (jumps : Jumps slot n b last) (fewer : m ≤ n) : ∃ last, Jumps slot m b last := by
  induction jumps generalizing m with
  | none b =>
    cases Nat.le_zero.1 fewer
    exact ⟨b, .none b⟩
  | @jump count b next last jumped _ ih =>
    cases m with
    | zero => exact ⟨b, .none b⟩
    | succ m =>
      obtain ⟨last, jumps⟩ := ih (Nat.le_of_succ_le_succ fewer)
      exact ⟨last, .jump jumped jumps⟩

theorem jumps_succ_iff : Jumps slot (n + 1) b last ↔
    ∃ before, Jumps slot n b before ∧ before.stride slot = .jumped last := by
  constructor
  · intro jumps
    induction n generalizing b with
    | zero =>
      cases jumps with
      | jump jumped more =>
        cases more
        exact ⟨b, .none b, jumped⟩
    | succ n ih =>
      cases jumps with
      | jump jumped more =>
        obtain ⟨before, jumps, last⟩ := ih more
        exact ⟨before, .jump jumped jumps, last⟩
  · rintro ⟨before, jumps, jumped⟩
    induction jumps with
    | none => exact .jump jumped (.none last)
    | jump first _ ih => exact .jump first (ih jumped)

/-- Before its action a turn has made any smaller number of jumps. -/
theorem Acts.jumps (acts : Acts slot m b action after) (fewer : n < m) :
    ∃ last, Jumps slot n b last := by
  cases m with
  | zero => omega
  | succ m =>
    obtain ⟨last, jumps, -⟩ := acts_iff_jumps.1 acts
    exact jumps.take (by omega)

/-! ## Where a jump leads -/

/-- Whether a jump is taken, and the coin after it. Only chance takes the coin, which may be
missing. -/
def verdict {α : Type} (c : Creature) (seen : Sight) (flip : α → Option (Bool × α)) (coin : α) :
    Condition → Option (Bool × α)
  | .random => flip coin
  | condition => some (holds c seen condition, coin)

/-- The instruction at a creature's counter is followed with what the creature saw when its turn
began. -/
theorem stride_paused (here : b.creatures[slot]? = some c) {seen : Sight}
    (looked : b.sight c = .ok seen) (counter : Int) (coin : σ) :
    (b.paused slot counter coin).stride slot =
      (b.paused slot (c.program.wrap counter) coin).follow slot
        { c with counter := c.program.wrap counter }
        (seen.mapSlots (recount slot (c.program.wrap counter)))
        (c.program.instructionAt counter) := by
  have fetched : ({ c with counter := c.program.wrap counter } : Creature).program.fetch
      (c.program.wrap counter) = .ok (c.program.instructionAt counter) :=
    c.program.fetch_wrap counter
  rw [stride, wrapped_paused here]
  simp only [getElem?_paused_self here, execute, fetched, sight_in_turn looked]

/-- A jump changes nothing but the counter and the coin, and it depends on nothing else. -/
theorem stride_of_jump (here : b.creatures[slot]? = some c) {seen : Sight}
    (looked : b.sight c = .ok seen) {counter : Int} {coin : σ} {condition : Condition}
    {target : Nat} {positive : 0 < target}
    (jump : c.program.instructionAt counter = .jump condition target positive) :
    (b.paused slot counter coin).stride slot =
      match verdict c seen CoinSource.flip coin condition with
      | some (taken, coin') =>
        .jumped (b.paused slot (if taken then target else c.program.wrap counter + 1) coin')
      | none =>
        .failed (.noCoin c.id c.species.name) (b.paused slot (c.program.wrap counter) coin) := by
  have tested : (b.paused slot (c.program.wrap counter) coin).test
      { c with counter := c.program.wrap counter }
      (seen.mapSlots (recount slot (c.program.wrap counter))) condition =
      (verdict c seen CoinSource.flip coin condition).map fun flipped =>
        (flipped.1, b.paused slot (c.program.wrap counter) flipped.2) := by
    cases condition with
    | random => rfl
    | empty | wall | same | enemy | always =>
      exact congrArg (fun holds => some (holds, b.paused slot (c.program.wrap counter) coin))
        (holds_of_slots (number_recount _ _) rfl seen _)
  rw [stride_paused here looked, jump, follow, tested]
  cases verdict c seen CoinSource.flip coin condition with
  | none => rfl
  | some flipped =>
    obtain ⟨taken, coin'⟩ := flipped
    cases taken with
    | true => exact congrArg Stride.jumped (setCounter_paused b slot _ _ coin')
    | false => exact congrArg Stride.jumped (setCounter_paused b slot _ _ coin')

/-- An action ends the turn. -/
theorem stride_of_act (here : b.creatures[slot]? = some c) {counter : Int} (coin : σ)
    (act : c.program.instructionAt counter = .act action) :
    (∃ after, (b.paused slot counter coin).stride slot = .acted action after) ∨
      ∃ fault after, (b.paused slot counter coin).stride slot = .failed fault after := by
  obtain ⟨seen, looked⟩ := b.exists_sight c
  rw [stride_paused here looked, act, follow]
  split
  · exact .inl ⟨_, rfl⟩
  · exact .inr ⟨_, _, rfl⟩

/-- A creature that jumped was at a jump, and the board is as before but for its counter and the
coin. -/
theorem jump_of_stride (here : b.creatures[slot]? = some c) {seen : Sight}
    (looked : b.sight c = .ok seen) {counter : Int} {coin : σ}
    (jumped : (b.paused slot counter coin).stride slot = .jumped next) :
    ∃ condition target positive taken coin',
      c.program.instructionAt counter = .jump condition target positive ∧
      verdict c seen CoinSource.flip coin condition = some (taken, coin') ∧
      next = b.paused slot (if taken then target else c.program.wrap counter + 1) coin' := by
  cases instruction : c.program.instructionAt counter with
  | act action =>
    rcases stride_of_act here coin instruction with ⟨_, acted⟩ | ⟨_, _, failed⟩
    · rw [acted] at jumped
      cases jumped
    · rw [failed] at jumped
      cases jumped
  | jump condition target positive =>
    rw [stride_of_jump here looked instruction] at jumped
    cases judged : verdict c seen CoinSource.flip coin condition with
    | none =>
      rw [judged] at jumped
      cases jumped
    | some flipped =>
      rw [judged] at jumped
      cases jumped
      exact ⟨condition, target, positive, flipped.1, flipped.2, rfl, judged, rfl⟩

/-- Jumps change nothing but the counter and the coin. -/
theorem Jumps.paused (here : b.creatures[slot]? = some c) (jumps : Jumps slot count b last) :
    ∃ counter coin, last = b.paused slot counter coin := by
  obtain ⟨seen, looked⟩ := b.exists_sight c
  suffices general : ∀ counter coin, Jumps slot count (b.paused slot counter coin) last →
      ∃ counter coin, last = b.paused slot counter coin by
    exact general c.counter b.coin (by rw [paused_self here]; exact jumps)
  clear jumps
  induction count with
  | zero =>
    intro counter coin jumps
    cases jumps
    exact ⟨counter, coin, rfl⟩
  | succ count ih =>
    intro counter coin jumps
    cases jumps with
    | jump jumped more =>
      obtain ⟨_, _, _, _, _, _, _, rfl⟩ := jump_of_stride here looked jumped
      exact ih _ _ more

/-! ## Courses -/

section Course

variable {ι : Type}

/-- The address and the state of a coin's shadow after a jump; where an action is, they stay. -/
def course (c : Creature) (seen : Sight) (flip : ι → Option (Bool × ι)) (place : Int × ι) :
    Int × ι :=
  match c.program.instructionAt place.1 with
  | .act _ => place
  | .jump condition target _ =>
    match verdict c seen flip place.2 condition with
    | some (taken, state) => (c.program.wrap (if taken then target else place.1 + 1), state)
    | none => place

/-- The addresses of a program with the states of a shadow. -/
noncomputable def places (c : Creature) (ι : Type) [Fintype ι] : Finset (Int × ι) :=
  (Finset.range c.program.size).map
    ⟨fun n : Nat => (n : Int) + 1, fun _ _ same => Int.ofNat.inj (add_right_cancel same)⟩ ×ˢ
    Finset.univ

theorem card_places (c : Creature) (ι : Type) [Fintype ι] :
    (places c ι).card = c.program.size * Fintype.card ι := by
  rw [places, Finset.card_product, Finset.card_map, Finset.card_range, Finset.card_univ]

theorem wrap_mem_places [Fintype ι] (c : Creature) (counter : Int) (state : ι) :
    (c.program.wrap counter, state) ∈ places c ι := by
  have low := c.program.wrap_pos counter
  have high := c.program.wrap_le_size counter
  refine Finset.mem_product.2 ⟨Finset.mem_map.2 ⟨(c.program.wrap counter - 1).toNat, ?_, ?_⟩,
    Finset.mem_univ state⟩
  · rw [Finset.mem_range]
    omega
  · show ((c.program.wrap counter - 1).toNat : Int) + 1 = c.program.wrap counter
    omega

theorem course_mem_places [Fintype ι] (seen : Sight) (flip : ι → Option (Bool × ι))
    {place : Int × ι} (inside : place ∈ places c ι) : course c seen flip place ∈ places c ι := by
  rw [course]
  split
  · exact inside
  · split
    · exact wrap_mem_places c _ _
    · exact inside

/-- What a deterministic machine ever comes to within finitely many states, it comes to in fewer
steps than there are states. -/
theorem exists_lt_card {α : Type} {f : α → α} {states : Finset α}
    (stays : ∀ a ∈ states, f a ∈ states) {start : α} (inside : start ∈ states) {P : α → Prop} {k : Nat}
    (found : P (f^[k] start)) :
    ∃ j < states.card, P (f^[j] start) := by
  classical
  have reached : ∃ k, P (f^[k] start) := ⟨k, found⟩
  refine ⟨Nat.find reached, ?_, Nat.find_spec reached⟩
  have all (j : Nat) : f^[j] start ∈ states := by
    induction j with
    | zero => exact inside
    | succ j ih =>
      rw [Function.iterate_succ_apply']
      exact stays _ ih
  -- Up to the first time no state comes twice: else the way from the second time on could have been
  -- taken from the first time on.
  have fresh {i j : Nat} (earlier : i < j) (within : j ≤ Nat.find reached) :
      f^[i] start ≠ f^[j] start := by
    intro again
    have sooner : P (f^[Nat.find reached - j + i] start) := by
      rw [Function.iterate_add_apply, again, ← Function.iterate_add_apply,
        Nat.sub_add_cancel within]
      exact Nat.find_spec reached
    exact Nat.find_min reached (by omega) sooner
  have injective : Set.InjOn (fun j => f^[j] start) (Finset.range (Nat.find reached + 1)) := by
    intro i hi j hj same
    have first := Finset.mem_range.1 (Finset.mem_coe.1 hi)
    have second := Finset.mem_range.1 (Finset.mem_coe.1 hj)
    rcases Nat.lt_trichotomy i j with earlier | equal | later
    · exact absurd same (fresh earlier (by omega))
    · exact equal
    · exact absurd same.symm (fresh later (by omega))
  have counted := Finset.card_le_card_of_injOn (t := states) _ (fun j _ => all j) injective
  rw [Finset.card_range] at counted
  omega

/-- A shadow's verdict is the coin's, as far as the program flips the coin. -/
theorem verdict_rel {flip : ι → Option (Bool × ι)} {Follows : σ → ι → Prop} {condition : Condition}
    {coin : σ} {state : ι} (seen : Sight) (follows : Follows coin state)
    (keeps : condition = .random →
      Option.Rel (fun a b => a.1 = b.1 ∧ Follows a.2 b.2) (CoinSource.flip coin) (flip state)) :
    Option.Rel (fun a b => a.1 = b.1 ∧ Follows a.2 b.2)
      (verdict c seen CoinSource.flip coin condition) (verdict c seen flip state condition) := by
  cases condition with
  | random => exact keeps rfl
  | empty | wall | same | enemy | always => exact .some ⟨rfl, follows⟩

/-- Jumps go along the course of addresses and states of a shadow. The shadow need be right about
flips only if the program has any. -/
theorem Jumps.course {flip : ι → Option (Bool × ι)} {Follows : σ → ι → Prop}
    (here : b.creatures[slot]? = some c) {seen : Sight} (looked : b.sight c = .ok seen)
    (keeps : c.program.Has (.jump .random) → ∀ {coin : σ} {state : ι}, Follows coin state →
      Option.Rel (fun a b => a.1 = b.1 ∧ Follows a.2 b.2) (CoinSource.flip coin) (flip state))
    {counter : Int} {coin : σ} {state : ι} (follows : Follows coin state)
    (jumps : Jumps slot count (b.paused slot counter coin) last) :
    ∃ counter' coin' state', last = b.paused slot counter' coin' ∧ Follows coin' state' ∧
      (Board.course c seen flip)^[count] (c.program.wrap counter, state) =
        (c.program.wrap counter', state') := by
  induction count generalizing counter coin state with
  | zero =>
    cases jumps
    exact ⟨counter, coin, state, rfl, follows, rfl⟩
  | succ count ih =>
    cases jumps with
    | jump jumped more =>
      obtain ⟨condition, target, positive, taken, coin', instruction, judged, rfl⟩ :=
        jump_of_stride here looked jumped
      have has : c.program.Has (.jump condition) := by
        have found := Program.Has.of_fetch (c.program.fetch_wrap counter)
        rw [instruction] at found
        exact found
      have rel : Option.Rel (fun a b => a.1 = b.1 ∧ Follows a.2 b.2)
          (verdict c seen CoinSource.flip coin condition) (verdict c seen flip state condition) :=
        verdict_rel seen follows fun random => keeps (random ▸ has) follows
      rw [judged] at rel
      -- The shadow is in the state that goes with the coin after the jump.
      obtain ⟨state', shadowed, follows'⟩ : ∃ state',
          verdict c seen flip state condition = some (taken, state') ∧ Follows coin' state' := by
        generalize verdict c seen flip state condition = result at rel
        cases rel with
        | @some _ result same =>
          obtain ⟨taken', state'⟩ := result
          obtain ⟨rfl, follows'⟩ := same
          exact ⟨state', rfl, follows'⟩
      obtain ⟨counter'', coin'', state'', paused, follows'', reached⟩ := ih follows' more
      refine ⟨counter'', coin'', state'', paused, follows'', ?_⟩
      rw [Function.iterate_succ_apply, ← reached]
      have next : Board.course c seen flip (c.program.wrap counter, state) =
          (c.program.wrap (if taken then target else c.program.wrap counter + 1), state') := by
        simp only [Board.course, Program.instructionAt_wrap, instruction, shadowed]
      rw [next]

/-- The instruction that comes after so many jumps is the one where the course has come to. -/
theorem Jumps.instructionAt {flip : ι → Option (Bool × ι)} {Follows : σ → ι → Prop}
    (here : b.creatures[slot]? = some c) {seen : Sight} (looked : b.sight c = .ok seen)
    (keeps : c.program.Has (.jump .random) → ∀ {coin : σ} {state : ι}, Follows coin state →
      Option.Rel (fun a b => a.1 = b.1 ∧ Follows a.2 b.2) (CoinSource.flip coin) (flip state))
    {state : ι} (follows : Follows b.coin state) (jumps : Jumps slot count b last) :
    ∃ counter coin, last = b.paused slot counter coin ∧
      c.program.instructionAt
          ((Board.course c seen flip)^[count] (c.program.wrap c.counter, state)).1 =
        c.program.instructionAt counter := by
  rw [← paused_self here] at jumps
  obtain ⟨counter, coin, state', paused, -, reached⟩ := jumps.course here looked keeps follows
  exact ⟨counter, coin, paused, by rw [reached, Program.instructionAt_wrap]⟩

/-- A turn that comes to an action does so within as many instructions as its program has, times the
number of states of a shadow of the coin. -/
theorem Acts.le_card [Fintype ι] (flip : ι → Option (Bool × ι)) (Follows : σ → ι → Prop)
    (here : b.creatures[slot]? = some c)
    (keeps : c.program.Has (.jump .random) → ∀ {coin : σ} {state : ι}, Follows coin state →
      Option.Rel (fun a b => a.1 = b.1 ∧ Follows a.2 b.2) (CoinSource.flip coin) (flip state))
    {state : ι} (follows : Follows b.coin state) (acts : Acts slot m b action after) :
    m ≤ c.program.size * Fintype.card ι := by
  obtain ⟨seen, looked⟩ := b.exists_sight c
  cases m with
  | zero => exact Nat.zero_le _
  | succ m =>
    obtain ⟨last, jumps, acted⟩ := acts_iff_jumps.1 acts
    obtain ⟨counter, coin, rfl, come⟩ := jumps.instructionAt here looked keeps follows
    have found : ∃ action, c.program.instructionAt
        ((Board.course c seen flip)^[m] (c.program.wrap c.counter, state)).1 = .act action := by
      rw [come]
      cases instruction : c.program.instructionAt counter with
      | act action => exact ⟨action, rfl⟩
      | jump condition target positive =>
        rw [stride_of_jump here looked instruction] at acted
        split at acted <;> cases acted
    obtain ⟨j, below, action', sooner⟩ := exists_lt_card
      (P := fun place => ∃ action, c.program.instructionAt place.1 = .act action)
      (fun _ inside => course_mem_places seen flip inside)
      (wrap_mem_places c c.counter state) found
    rw [card_places] at below
    rcases Nat.lt_or_ge j m with early | late
    · -- An action before the last instruction would have ended the turn there.
      obtain ⟨next, more⟩ := acts.jumps (Nat.succ_lt_succ early)
      obtain ⟨before, jumps', jumped⟩ := jumps_succ_iff.1 more
      obtain ⟨counter', coin', rfl, come'⟩ := jumps'.instructionAt here looked keeps follows
      rw [sooner] at come'
      rcases stride_of_act here coin' come'.symm with ⟨_, acted'⟩ | ⟨_, _, failed⟩
      · rw [acted'] at jumped
        cases jumped
      · rw [failed] at jumped
        cases jumped
    · omega

end Course

/-- A turn of a program that does not flip the coin comes to an action within as many instructions as
the program has, or never. -/
theorem Acts.le_size (here : b.creatures[slot]? = some c)
    (fixed : ¬c.program.Has (.jump .random)) (acts : Acts slot m b action after) :
    m ≤ c.program.size := by
  have bound : m ≤ c.program.size * Fintype.card Unit :=
    acts.le_card (fun _ => none) (fun _ state => state = ()) here (fun has => absurd has fixed) rfl
  rw [Fintype.card_unit, Nat.mul_one] at bound
  exact bound

/-- A turn without a limit is given enough instructions: one that comes to an action does so within
them. -/
theorem Acts.le_patience [LawfulCoinSource σ] (here : b.creatures[slot]? = some c)
    (acts : Acts slot m b action after) : m ≤ b.patience c := by
  obtain ⟨ι, _, card, ⟨shadow⟩⟩ := LawfulCoinSource.shadow b.coin
  have bound := acts.le_card shadow.flip shadow.Follows here (fun _ => shadow.follows) shadow.starts
  exact Nat.le_trans bound (Nat.mul_le_mul_left _ card)

/-! ## Turns that do not flip the coin -/

/-- A creature that stands on the grid does the action that it has come to. -/
theorem stride_acted (here : b.creatures[slot]? = some c)
    (standing : b.grid.contains c.position = true) {counter : Int} (coin : σ)
    (act : c.program.instructionAt counter = .act action) :
    ∃ after, (b.paused slot counter coin).stride slot = .acted action after := by
  obtain ⟨seen, looked⟩ := b.exists_sight c
  have inside (empty : seen.mapSlots (recount slot (c.program.wrap counter)) = .empty) :
      b.grid.contains c.ahead = true := by
    cases seen with
    | empty => exact contains_of_sight looked
    | wall | creature => cases empty
  obtain ⟨after, performed⟩ := perform_eq_ok (b := b.paused slot (c.program.wrap counter) coin)
    (c := { c with counter := c.program.wrap counter }) standing slot _ inside action
  rw [stride_paused here looked, act, follow, performed]
  exact ⟨after, rfl⟩

/-- The next instruction of a creature that stands on the grid and does not flip the coin is an
action or a jump. -/
theorem stride_cases (here : b.creatures[slot]? = some c)
    (standing : b.grid.contains c.position = true) (fixed : ¬c.program.Has (.jump .random))
    (counter : Int) (coin : σ) :
    (∃ action after, (b.paused slot counter coin).stride slot = .acted action after) ∨
      ∃ next, (b.paused slot counter coin).stride slot = .jumped next := by
  obtain ⟨seen, looked⟩ := b.exists_sight c
  have has := Program.Has.of_fetch (c.program.fetch_wrap counter)
  cases instruction : c.program.instructionAt counter with
  | act action =>
    obtain ⟨after, acted⟩ := stride_acted here standing coin instruction
    exact .inl ⟨action, after, acted⟩
  | jump condition target positive =>
    rw [instruction] at has
    rw [stride_of_jump here looked instruction]
    cases condition with
    | random => exact absurd has fixed
    | empty | wall | same | enemy | always => exact .inr ⟨_, rfl⟩

theorem acts_or_jumps (here : b.creatures[slot]? = some c)
    (standing : b.grid.contains c.position = true) (fixed : ¬c.program.Has (.jump .random))
    (count : Nat) :
    (∃ m ≤ count, ∃ action after, Acts slot m b action after) ∨
      ∃ last, Jumps slot count b last := by
  induction count with
  | zero => exact .inr ⟨b, .none b⟩
  | succ count ih =>
    rcases ih with ⟨m, within, acts⟩ | ⟨last, jumps⟩
    · exact .inl ⟨m, by omega, acts⟩
    · obtain ⟨counter, coin, rfl⟩ := jumps.paused here
      rcases stride_cases here standing fixed counter coin with
        ⟨action, after, acted⟩ | ⟨next, jumped⟩
      · exact .inl ⟨count + 1, Nat.le_refl _, action, after, acts_iff_jumps.2 ⟨_, jumps, acted⟩⟩
      · exact .inr ⟨next, jumps_succ_iff.2 ⟨_, jumps, jumped⟩⟩

/-- A turn that does not flip the coin comes to an action within as many instructions as its program
has, or it never ends. -/
theorem acts_or_endless (here : b.creatures[slot]? = some c)
    (standing : b.grid.contains c.position = true) (fixed : ¬c.program.Has (.jump .random)) :
    (∃ m ≤ c.program.size, ∃ action after, Acts slot m b action after) ∨ Endless slot b := by
  by_cases acts : ∃ m ≤ c.program.size, ∃ action after, Acts slot m b action after
  · exact .inl acts
  · refine .inr fun count => ?_
    rcases acts_or_jumps here standing fixed count with ⟨m, -, action, after, acts'⟩ | jumps
    · exact absurd ⟨m, acts'.le_size here fixed, action, after, acts'⟩ acts
    · exact jumps

end Board

end Vivarium
