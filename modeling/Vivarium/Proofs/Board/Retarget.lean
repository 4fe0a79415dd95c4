import Vivarium.Proofs.Board.Revision
import Vivarium.Proofs.Board.Turn

/-!
# Targets past the end of a program

A jump past the end of its program goes to the first instruction. So such a target may as well be
one: `Board.retarget` changes the programs of some species on a board in this way and nothing else,
and it makes no difference to a turn (`turn_retarget`).

In the middle of a turn the two boards do differ: after a jump past the end one has the target as the
counter of the creature, the other has one. They agree again as soon as the counter is wrapped, and
a run begins by wrapping it (`run_wrapped`).
-/

namespace Vivarium

/-! ## Programs -/

/-- The instruction of a program of some size with its target replaced by one if it is past the
end. -/
def Instruction.retarget (size : Nat) : Instruction → Instruction
  | .act action => .act action
  | .jump condition target target_pos =>
    if size < target then .jump condition 1 Nat.one_pos else .jump condition target target_pos

namespace Program

/-- The program with every target past its end replaced by one. -/
def retarget (p : Program) : Program where
  steps := p.steps.map (Instruction.retarget p.size)
  size_pos := by rw [Array.size_map]; exact p.size_pos

@[simp] theorem size_retarget (p : Program) : p.retarget.size = p.size := Array.size_map

theorem fetch_retarget (p : Program) (address : Int) :
    p.retarget.fetch address = (p.fetch address).map (Instruction.retarget p.size) := by
  have same : p.retarget.steps.size = p.steps.size := Array.size_map
  rw [fetch, fetch]
  by_cases inside : 1 ≤ address ∧ address ≤ p.steps.size
  · rw [dif_pos inside, dif_pos (by rw [same]; exact inside)]
    simp only [retarget, Array.getElem_map, Except.map]
  · rw [dif_neg inside, dif_neg (by rw [same]; exact inside), size_retarget]
    rfl

/-- A counter past the end stands for what the first address stands for. -/
theorem wrap_past {p : Program} {counter : Int} (past : p.size < counter) :
    p.wrap counter = p.wrap 1 := by
  have positive : 0 < p.size := p.size_pos
  rw [wrap, wrap, if_pos (.inr past), if_neg (by omega)]

end Program

/-! ## Creatures -/

variable {chosen : Nat → Bool}

def Species.retarget (s : Species) : Species := { s with program := s.program.retarget }

/-- The species with the targets of its program replaced, if its number is chosen. -/
def Lineage.retarget (chosen : Nat → Bool) (l : Lineage) : Lineage :=
  if chosen l.number then { l with species := l.species.retarget } else l

@[simp] theorem Lineage.number_retarget (l : Lineage) : (l.retarget chosen).number = l.number := by
  rw [retarget]
  split <;> rfl

namespace Creature

/-- The creature with the targets of its program replaced, if its species is chosen. -/
def retarget (chosen : Nat → Bool) (c : Creature) : Creature :=
  { c with lineage := c.lineage.retarget chosen }

/-- A creature's program is what it was, or it is that with its targets replaced. -/
theorem program_retarget (c : Creature) :
    (c.retarget chosen).program = c.program ∨
      (c.retarget chosen).program = c.program.retarget := by
  rw [program, retarget, Lineage.retarget]
  split
  · exact .inr rfl
  · exact .inl rfl

/-- What a creature fetches is what it would have fetched, or that with its target replaced. -/
theorem fetch_retarget (c : Creature) (chosen : Nat → Bool) (address : Int) :
    ∃ f : Instruction → Instruction,
      (f = (fun instruction => instruction) ∨ f = Instruction.retarget c.program.size) ∧
      (c.retarget chosen).program.fetch address = (c.program.fetch address).map f := by
  rcases program_retarget c with same | replaced
  · refine ⟨_, .inl rfl, ?_⟩
    rw [same]
    cases c.program.fetch address <;> rfl
  · exact ⟨_, .inr rfl, by rw [replaced, Program.fetch_retarget]⟩

@[simp] theorem size_retarget (c : Creature) :
    (c.retarget chosen).program.size = c.program.size := by
  rcases program_retarget c with same | replaced
  · rw [same]
  · rw [replaced, Program.size_retarget]

@[simp] theorem wrap_retarget (c : Creature) (counter : Int) :
    (c.retarget chosen).program.wrap counter = c.program.wrap counter := by
  rw [Program.wrap, Program.wrap, size_retarget]

theorem wrapped_retarget (c : Creature) :
    (c.retarget chosen).wrapped = c.wrapped.retarget chosen := by
  rw [wrapped, wrap_retarget]
  rfl

theorem counter_retarget (c : Creature) : (c.retarget chosen).counter = c.counter := rfl

theorem limit_retarget (c : Creature) : (c.retarget chosen).limit = c.limit := rfl

theorem id_retarget (c : Creature) : (c.retarget chosen).id = c.id := rfl

theorem name_retarget (c : Creature) : (c.retarget chosen).species.name = c.species.name := by
  rw [species, retarget, Lineage.retarget]
  split <;> rfl

theorem drawing_retarget (c : Creature) : (c.retarget chosen).drawing = c.drawing := by
  rw [drawing, species, retarget, Lineage.retarget]
  split <;> rfl

end Creature

/-! ## Boards -/

def Sight.map (f : Creature → Creature) : Sight → Sight
  | .wall => .wall
  | .empty => .empty
  | .creature slot other => .creature slot (f other)

/-- Replacing targets is a revision: nobody else sees it. -/
def Revision.retarget (chosen : Nat → Bool) : Revision where
  lineage := Lineage.retarget chosen
  limit _ limit := limit
  number l := l.number_retarget
  name l := by rw [Lineage.retarget]; split <;> rfl
  color l := by rw [Lineage.retarget]; split <;> rfl

theorem Revision.sight_retarget :
    (Revision.retarget chosen).sight = Sight.map (Creature.retarget chosen) := by
  funext seen
  cases seen <;> rfl

namespace Board

variable {σ : Type} {b : Board σ} {slot : Nat} {c : Creature}

/-- The board with the targets replaced in the programs of the chosen species. -/
def retarget (chosen : Nat → Bool) (b : Board σ) : Board σ :=
  { b with creatures := b.creatures.map (Creature.retarget chosen) }

theorem getElem?_retarget (b : Board σ) (i : Nat) :
    (b.retarget chosen).creatures[i]? = (b.creatures[i]?).map (Creature.retarget chosen) :=
  Array.getElem?_map

theorem retarget_eq_revise : retarget (σ := σ) chosen = revise (.retarget chosen) := by
  funext b
  have creatures : b.creatures.map (Creature.retarget chosen) =
      b.creatures.mapIdx (Revision.retarget chosen).creature := by
    apply Array.ext_getElem?
    intro i
    rw [Array.getElem?_map, Array.getElem?_mapIdx]
    rfl
  rw [retarget, revise, creatures]

theorem setCounter_retarget (b : Board σ) (slot : Nat) (counter : Int) :
    (b.retarget chosen).setCounter slot counter = (b.setCounter slot counter).retarget chosen := by
  rw [retarget_eq_revise, setCounter_revise]

theorem wrapped_retarget (b : Board σ) (slot : Nat) :
    (b.retarget chosen).update slot Creature.wrapped =
      (b.update slot Creature.wrapped).retarget chosen := by
  rw [retarget_eq_revise]
  exact update_unseen (.retarget chosen) b Creature.wrapped Creature.wrapped_retarget

theorem sight_retarget (b : Board σ) (c : Creature) :
    (b.retarget chosen).sight (c.retarget chosen) =
      (b.sight c).map (Sight.map (Creature.retarget chosen)) := by
  rw [retarget_eq_revise, ← Revision.sight_retarget]
  exact sight_revise (.retarget chosen) b 0 c

theorem grid_retarget (b : Board σ) : (b.retarget chosen).grid = b.grid := rfl

/-! ## Placing a creature -/

theorem creatureFor_retarget (b : Board σ) (p : Placement) :
    (b.retarget chosen).creatureFor
        { p with lineage := p.lineage.map (Lineage.retarget chosen) } =
      (b.creatureFor p).map (Creature.retarget chosen) := by
  obtain ⟨lineage, position, direction, limit, id, drawn⟩ := p
  cases lineage with
  | none => cases position <;> rfl
  | some lineage =>
    cases position with
    | none => rfl
    | some position =>
      simp only [creatureFor, Option.map_some]
      rw [grid_retarget]
      cases b.grid.contains position with
      | false => rfl
      | true =>
        cases b.grid.get? position with
        | some other => rfl
        | none =>
          cases TurnLimit.ofValue limit with
          | error fault => rfl
          | ok limit => cases direction.toDirection <;> rfl

theorem insert_retarget (b : Board σ) (c : Creature) :
    (b.retarget chosen).insert (c.retarget chosen) = (b.insert c).retarget chosen := by
  have size : (b.retarget chosen).creatures.size = b.creatures.size := Array.size_map
  have creatures : (b.retarget chosen).creatures.push (c.retarget chosen) =
      (b.creatures.push c).map (Creature.retarget chosen) := Array.map_push.symm
  rw [insert, insert, size, creatures, c.drawing_retarget, draw_eq, draw_eq]
  rfl

theorem place_retarget (b : Board σ) (p : Placement) :
    (b.retarget chosen).place { p with lineage := p.lineage.map (Lineage.retarget chosen) } =
      (b.place p).map (retarget chosen) := by
  rw [place, place, creatureFor_retarget]
  cases b.creatureFor p with
  | error fault => rfl
  | ok c => exact congrArg Except.ok (insert_retarget b c)

theorem face_retarget (b : Board σ) (slot : Nat) (direction : Value) :
    (b.retarget chosen).face slot direction = (b.face slot direction).map (retarget chosen) := by
  rw [retarget_eq_revise, face_revise]

/-! ## Actions -/

theorem perform_retarget (b : Board σ) (slot : Nat) (c : Creature) (seen : Sight)
    (action : Action) :
    (b.retarget chosen).perform slot (c.retarget chosen) (seen.map (Creature.retarget chosen))
        action =
      ((b.perform slot c seen action).1, (b.perform slot c seen action).2.retarget chosen) := by
  rw [retarget_eq_revise, ← Revision.sight_retarget]
  exact perform_revise (.retarget chosen) b slot c seen action

/-! ## Runs -/

/-- The end of a run with its board changed. -/
def Run.map (f : Board σ → Board σ) : Run σ → Run σ
  | .acted action after => .acted action (f after)
  | .failed fault after => .failed fault (f after)
  | .unfinished after => .unfinished (f after)

/-- What one instruction does on two boards that differ in targets past the end: the same, but that
the counter it leaves may be past the end on one of them and one on the other. -/
inductive Matches (chosen : Nat → Bool) (slot : Nat) : Stride σ → Stride σ → Prop
  | acted (action : Action) (after : Board σ) :
      Matches chosen slot (.acted action after) (.acted action (after.retarget chosen))
  | failed (fault : Fault) (after : Board σ) :
      Matches chosen slot (.failed fault after) (.failed fault (after.retarget chosen))
  | jumped {after after' : Board σ}
      (same : after'.update slot Creature.wrapped =
        (after.retarget chosen).update slot Creature.wrapped) :
      Matches chosen slot (.jumped after) (.jumped after')

/-- Counters that stand for one address are the same once they are wrapped. -/
theorem setCounter_wrapped (here : b.creatures[slot]? = some c) {first second : Int}
    (same : c.program.wrap first = c.program.wrap second) :
    (b.setCounter slot first).update slot Creature.wrapped =
      (b.setCounter slot second).update slot Creature.wrapped := by
  rw [setCounter, setCounter, update_update, update_update, update_eq_put here, update_eq_put here]
  exact congrArg (fun counter => b.put slot { c with counter := counter }) same

/-- A jump to either of two counters that stand for one address. -/
theorem Matches.of_wrap {after : Board σ} (here : after.creatures[slot]? = some c)
    {first second : Int} (same : c.program.wrap second = c.program.wrap first) :
    Matches chosen slot (.jumped (after.setCounter slot first))
      (.jumped ((after.retarget chosen).setCounter slot second)) := by
  have here' : (after.retarget chosen).creatures[slot]? = some (c.retarget chosen) := by
    rw [getElem?_retarget, here, Option.map_some]
  refine .jumped ?_
  rw [← setCounter_retarget]
  exact setCounter_wrapped here' (by rw [c.wrap_retarget, c.wrap_retarget, same])

variable [CoinSource σ]

theorem test_retarget (b : Board σ) (c : Creature) (seen : Sight) (condition : Condition) :
    (b.retarget chosen).test (c.retarget chosen) (seen.map (Creature.retarget chosen)) condition =
      (b.test c seen condition).map fun tested => (tested.1, tested.2.retarget chosen) := by
  rw [retarget_eq_revise, ← Revision.sight_retarget]
  exact test_revise (.retarget chosen) b 0 c seen condition

/-- A test changes nothing but the coin. -/
theorem creatures_test {seen : Sight} {condition : Condition} {taken : Bool} {after : Board σ}
    (tested : b.test c seen condition = some (taken, after)) : after.creatures = b.creatures := by
  cases condition with
  | random =>
    obtain ⟨flipped, -, same⟩ := Option.map_eq_some_iff.1 tested
    cases same
    rfl
  | empty | wall | same | enemy | always =>
    cases tested
    rfl

theorem follow_retarget (here : b.creatures[slot]? = some c) (seen : Sight)
    (instruction : Instruction) {instruction' : Instruction}
    (either : instruction' = instruction ∨ instruction' = instruction.retarget c.program.size) :
    Matches chosen slot (b.follow slot c seen instruction)
      ((b.retarget chosen).follow slot (c.retarget chosen) (seen.map (Creature.retarget chosen))
        instruction') := by
  cases instruction with
  | act action =>
    have same : instruction' = .act action := either.elim id id
    simp only [same, follow, perform_retarget]
    cases b.perform slot c seen action with
    | mk result after =>
      cases result with
      | ok _ => exact .acted action after
      | error fault => exact .failed fault after
  | jump condition target positive =>
    -- A replaced target was past the end, so it is wrapped to the one it is replaced by.
    obtain ⟨target', positive', same, alike⟩ : ∃ target' positive',
        instruction' = .jump condition target' positive' ∧
          c.program.wrap target' = c.program.wrap target := by
      rcases either with rfl | rfl
      · exact ⟨target, positive, rfl, rfl⟩
      · rw [Instruction.retarget]
        split
        · next past => exact ⟨1, Nat.one_pos, rfl, (Program.wrap_past (by omega)).symm⟩
        · exact ⟨target, positive, rfl, rfl⟩
    simp only [same, follow, test_retarget]
    cases tested : b.test c seen condition with
    | none =>
      rw [Option.map_none, c.name_retarget]
      exact .failed _ b
    | some test =>
      obtain ⟨taken, after⟩ := test
      have there : after.creatures[slot]? = some c := by rw [creatures_test tested, here]
      cases taken with
      | true => exact .of_wrap there alike
      | false => exact .of_wrap there rfl

theorem execute_retarget (here : b.creatures[slot]? = some c) :
    Matches chosen slot (b.execute slot c)
      ((b.retarget chosen).execute slot (c.retarget chosen)) := by
  obtain ⟨f, either, fetched⟩ := c.fetch_retarget chosen c.counter
  rw [execute, execute, sight_retarget, c.counter_retarget, fetched]
  cases c.program.fetch c.counter with
  | error fault => exact .failed fault b
  | ok instruction =>
    cases b.sight c with
    | error fault => exact .failed fault b
    | ok seen =>
      refine follow_retarget here seen instruction ?_
      rcases either with rfl | rfl
      · exact .inl rfl
      · exact .inr rfl

/-- A run ends in the same way on both boards. -/
theorem run_retarget (slot steps : Nat) (b : Board σ) :
    run slot steps (b.retarget chosen) = (run slot steps b).map (retarget chosen) := by
  induction steps generalizing b with
  | zero =>
    rw [run, run, wrapped_retarget]
    rfl
  | succ steps ih =>
    rw [run, run, wrapped_retarget]
    generalize b.update slot Creature.wrapped = ready
    simp only [getElem?_retarget]
    cases here : ready.creatures[slot]? with
    | none => rfl
    | some c =>
      have matched : Matches chosen slot (ready.execute slot c)
          ((ready.retarget chosen).execute slot (c.retarget chosen)) := execute_retarget here
      simp only [Option.map_some]
      generalize ready.execute slot c = first at matched
      generalize (ready.retarget chosen).execute slot (c.retarget chosen) = second at matched
      cases matched with
      | acted | failed => rfl
      | @jumped after after' same =>
        -- The counters may differ after a jump, but the next instruction starts by wrapping them.
        show run slot steps after' = (run slot steps after).map (retarget chosen)
        rw [← run_wrapped slot steps after', same, run_wrapped, ih]

/-- A turn ends in the same way on both boards. -/
theorem turn_retarget (b : Board σ) (slot : Nat) :
    (b.retarget chosen).turn slot = ((b.turn slot).1, (b.turn slot).2.retarget chosen) := by
  rw [turn, turn, getElem?_retarget]
  cases b.creatures[slot]? with
  | none => rfl
  | some c =>
    have patience : (b.retarget chosen).patience (c.retarget chosen) = b.patience c := by
      rw [Board.patience, Board.patience, c.size_retarget]
      rfl
    simp only [Option.map_some, patience, run_retarget, c.name_retarget, c.limit_retarget,
      c.id_retarget]
    cases run slot (c.limit.elim (b.patience c) TurnLimit.steps) b with
    | acted | failed => rfl
    | unfinished after => cases c.limit <;> rfl

end Board

end Vivarium
