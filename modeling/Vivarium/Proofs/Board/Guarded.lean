import Vivarium.Proofs.Board.Limit
import Vivarium.Proofs.Board.Score

/-!
# Programs that infect only enemies

An infection is guarded if a creature comes to it only by a jump that sees an enemy. Whether all
infections of a program are, can be computed from the program (`Program.isGuarded`): neither the start
nor any address that may follow an instruction while no enemy is seen is that of an infection.

1. `Jumps.calm`: a creature that goes by such a program, begins its turn elsewhere and sees no enemy,
   does not come to an infection.
2. `Turned.composed`: a turn that ends with an action leaves all creatures elsewhere for their next
   turns: its own one goes on after an action, and a victim starts its new program.
3. `conquers_of_infect`: so each infection makes an enemy one of the creature's own species.
-/

namespace Vivarium

/-! ## Programs -/

/-- The counters that may follow an instruction at an address while no enemy is seen. -/
def Instruction.calmNext (address : Int) : Instruction → List Int
  | .act _ => [address + 1]
  | .jump .always target _ => [(target : Int)]
  | .jump .enemy _ _ => [address + 1]
  | .jump _ target _ => [(target : Int), address + 1]

namespace Program

def infectsAt (p : Program) (counter : Int) : Bool := p.instructionAt counter = .act .infect

/-- Whether a program comes to its infections only by jumps that see an enemy. -/
def isGuarded (p : Program) : Bool :=
  !p.infectsAt 1 && (List.range p.size).all fun i =>
    ((p.instructionAt (i + 1)).calmNext (i + 1)).all fun next => !p.infectsAt next

variable {p : Program}

theorem infectsAt_one (guarded : p.isGuarded = true) : p.infectsAt 1 = false := by
  rw [isGuarded, Bool.and_eq_true, Bool.not_eq_true'] at guarded
  exact guarded.1

/-- A counter stands for an address, so the next one is not that of an infection either. -/
theorem infectsAt_calmNext (guarded : p.isGuarded = true) (counter : Int) {next : Int}
    (follows : next ∈ (p.instructionAt counter).calmNext (p.wrap counter)) :
    p.infectsAt next = false := by
  have low := p.wrap_pos counter
  have high := p.wrap_le_size counter
  have listed : (p.wrap counter - 1).toNat ∈ List.range p.size := List.mem_range.2 (by omega)
  have address : (((p.wrap counter - 1).toNat : Nat) : Int) + 1 = p.wrap counter := by omega
  rw [isGuarded, Bool.and_eq_true] at guarded
  have calm := List.all_eq_true.1 guarded.2 _ listed
  rw [address, instructionAt_wrap] at calm
  simpa using List.all_eq_true.1 calm next follows

/-- What is fetched at an address is what the address, as a counter, stands for. -/
theorem instructionAt_of_fetch {address : Int} {step : Instruction}
    (fetched : p.fetch address = .ok step) :
    p.wrap address = address ∧ p.instructionAt address = step := by
  have inside : 1 ≤ address ∧ address ≤ p.steps.size := by
    by_contra outside
    rw [fetch, dif_neg outside] at fetched
    cases fetched
  have same : p.wrap address = address := by
    rw [wrap, size, if_neg (by omega)]
  have found := p.fetch_wrap address
  rw [same, fetched] at found
  exact ⟨same, (Except.ok.inj found).symm⟩

/-- No infection comes right after an action. -/
theorem infectsAt_succ (guarded : p.isGuarded = true) {address : Int} {action : Action}
    (fetched : p.fetch address = .ok (.act action)) : p.infectsAt (address + 1) = false := by
  obtain ⟨same, found⟩ := instructionAt_of_fetch fetched
  refine infectsAt_calmNext guarded address ?_
  rw [found, same]
  exact List.mem_singleton.2 rfl

end Program

namespace Board

variable {σ : Type} {b : Board σ} {slot : Nat} {c d : Creature}

/-! ## Where the creatures begin their turns -/

/-- Every creature with a guarded program begins its next turn elsewhere than at an infection. -/
def Composed (b : Board σ) : Prop :=
  ∀ d ∈ b.creatures, d.program.isGuarded = true → d.program.infectsAt d.counter = false

/-- Every creature has a guarded program. -/
def Guarded (b : Board σ) : Prop := ∀ d ∈ b.creatures, d.program.isGuarded = true

/-- What all creatures have, all have when one that has it is put in place of another. -/
theorem forall_mem_put (slot : Nat) {P : Creature → Prop} (all : ∀ e ∈ b.creatures, P e)
    (new : P d) : ∀ e ∈ (b.put slot d).creatures, P e := by
  intro e present
  rw [put] at present
  rcases Array.mem_or_eq_of_mem_setIfInBounds present with old | rfl
  · exact all e old
  · exact new

/-- What all creatures have, all have when one that has it is added. -/
theorem forall_mem_insert {P : Creature → Prop} (all : ∀ e ∈ b.creatures, P e) (new : P d) :
    ∀ e ∈ (b.insert d).creatures, P e := by
  intro e present
  rw [Board.insert, draw_eq] at present
  rcases Array.mem_push.1 present with old | rfl
  · exact all e old
  · exact new

section Turns

variable [CoinSource σ] {address : Int} {coin : σ} {result : Except Fault Action} {action : Action}
  {after last : Board σ}

/-- What becomes of a creature in its turn, and of a victim, has what all creatures have, so after the
turn all have it. -/
theorem Turned.forall_mem (turned : Turned b slot c address coin result after)
    (here : b.creatures[slot]? = some c) {P : Creature → Prop} (all : ∀ e ∈ b.creatures, P e)
    (own : ∀ e, e.lineage = c.lineage → (∀ action, result = .ok action →
      c.program.fetch address = .ok (.act action) ∧ e.counter = address + 1) → P e)
    (victim : ∀ e, e.lineage = c.lineage → e.counter = 1 → P e) :
    ∀ e ∈ after.creatures, P e := by
  have acted {action : Action} (fetched : c.program.fetch address = .ok (.act action)) :
      ∀ action', (.ok action : Except Fault Action) = .ok action' →
        c.program.fetch address = .ok (.act action') ∧ address + 1 = address + 1 := by
    rintro _ ⟨⟩
    exact ⟨fetched, rfl⟩
  have paused (next : Int) (coin : σ) (there : P { c with counter := next }) :
      ∀ e ∈ (b.paused slot next coin).creatures, P e := by
    rw [Board.paused, setCounter, update_eq_put here]
    exact forall_mem_put slot all there
  cases turned with
  | hopped fetched | left fetched | right fetched =>
    exact forall_mem_put slot all (own _ rfl (acted fetched))
  | blocked fetched | spared fetched => exact paused _ _ (own _ rfl (acted fetched))
  | infected fetched =>
    have attacked := forall_mem_put slot all (own (c.afterInfection _) rfl (acted fetched))
    exact forall_mem_put _ attacked (victim _ rfl rfl)
  | capped | endless | coinless => exact paused _ _ (own _ rfl fun _ acted => by cases acted)

/-- A turn that ends with an action leaves all creatures elsewhere than at an infection. -/
theorem Turned.composed (turned : Turned b slot c address coin (.ok action) after)
    (here : b.creatures[slot]? = some c) (composed : b.Composed) : after.Composed := by
  refine turned.forall_mem here composed ?_ ?_
  · intro e same acted guarded
    obtain ⟨fetched, next⟩ := acted action rfl
    rw [next]
    rw [Creature.program, ← same] at fetched
    exact Program.infectsAt_succ guarded fetched
  · intro e _ start guarded
    rw [start]
    exact Program.infectsAt_one guarded

/-- A turn leaves no programs but those that were there. -/
theorem Turned.guarded (turned : Turned b slot c address coin result after)
    (here : b.creatures[slot]? = some c) (guarded : b.Guarded) : after.Guarded := by
  have attacker := guarded c (Array.mem_of_getElem? here)
  have kin (e : Creature) (same : e.lineage = c.lineage) : e.program.isGuarded = true := by
    rw [Creature.program, same]
    exact attacker
  exact turned.forall_mem here guarded (fun e same _ => kin e same) fun e same _ => kin e same

/-! ## Turns of a guarded program -/

/-- An action is done where the counter stands for it. -/
theorem instructionAt_of_acted (here : b.creatures[slot]? = some c) {counter : Int}
    (acted : (b.paused slot counter coin).stride slot = .acted action after) :
    c.program.instructionAt counter = .act action := by
  obtain ⟨seen, looked⟩ := b.exists_sight c
  cases instruction : c.program.instructionAt counter with
  | act other =>
    rw [stride_paused here looked, instruction, follow] at acted
    split at acted
    · cases acted
      rfl
    · cases acted
  | jump condition target positive =>
    rw [stride_of_jump here looked instruction] at acted
    split at acted <;> cases acted

/-- Where a jump leads while no enemy is seen. -/
theorem mem_calmNext {seen : Sight} (calm : holds c seen .enemy = false) {condition : Condition}
    {target : Nat} {positive : 0 < target} {taken : Bool} {coin coin' : σ} (address : Int)
    (judged : verdict c seen CoinSource.flip coin condition = some (taken, coin')) :
    (if taken then (target : Int) else address + 1) ∈
      (Instruction.jump condition target positive).calmNext address := by
  cases condition with
  | always =>
    cases judged
    exact List.mem_singleton.2 rfl
  | enemy =>
    cases judged
    rw [calm]
    exact List.mem_singleton.2 rfl
  | empty | wall | same | random => cases taken <;> simp [Instruction.calmNext]

/-- While it sees no enemy, a guarded program does not come to an infection. -/
theorem Jumps.calm (here : b.creatures[slot]? = some c) {seen : Sight} (looked : b.sight c = .ok seen)
    (calm : holds c seen .enemy = false) (guarded : c.program.isGuarded = true) {counter : Int}
    (start : c.program.infectsAt counter = false) {count : Nat}
    (jumps : Jumps slot count (b.paused slot counter coin) last) :
    ∃ counter' coin', last = b.paused slot counter' coin' ∧ c.program.infectsAt counter' = false := by
  induction count generalizing counter coin with
  | zero =>
    cases jumps
    exact ⟨counter, coin, rfl, start⟩
  | succ count ih =>
    cases jumps with
    | jump jumped more =>
      obtain ⟨condition, target, positive, taken, coin', instruction, judged, rfl⟩ :=
        jump_of_stride here looked jumped
      refine ih (Program.infectsAt_calmNext guarded counter ?_) more
      rw [instruction]
      exact mem_calmNext calm _ judged

/-- A guarded program that begins its turn elsewhere infects only when it sees an enemy. -/
theorem enemy_of_infect (here : b.creatures[slot]? = some c) (guarded : c.program.isGuarded = true)
    (start : c.program.infectsAt c.counter = false) (turned : b.turn slot = (.ok .infect, after)) :
    ∃ victim other, b.sight c = .ok (.creature victim other) ∧ other.sameSpecies c = false := by
  obtain ⟨seen, looked⟩ := b.exists_sight c
  obtain ⟨m, acts, -⟩ := acts_of_turn here turned
  cases m with
  | zero => cases acts
  | succ m =>
    obtain ⟨last, jumps, acted⟩ := acts_iff_jumps.1 acts
    cases calm : holds c seen .enemy with
    | false =>
      rw [← paused_self here] at jumps
      obtain ⟨counter, coin, rfl, harmless⟩ := jumps.calm here looked calm guarded start
      rw [Program.infectsAt, instructionAt_of_acted here acted] at harmless
      cases harmless
    | true =>
      cases seen with
      | wall | empty => cases calm
      | creature victim other =>
        exact ⟨victim, other, looked, by simpa [holds, Sight.creature?] using calm⟩

/-! ## Conquests -/

/-- The creature in a slot makes one of another species one of its own, and no other creature gets
another species. -/
def Conquers (b : Board σ) (slot : Nat) (after : Board σ) : Prop :=
  ∃ c victim rival, b.creatures[slot]? = some c ∧ b.creatures[victim]? = some rival ∧
    rival.lineage.number ≠ c.lineage.number ∧
    after.creatures.toList.map Creature.lineage =
      (b.creatures.toList.map Creature.lineage).set victim c.lineage

omit [CoinSource σ] in
theorem Conquers.converts (conquers : b.Conquers slot after) : b.converts after = true := by
  obtain ⟨c, victim, rival, -, there, enemy, set⟩ := conquers
  have was : (b.creatures.toList.map Creature.lineage)[victim]? = some rival.lineage := by
    rw [List.getElem?_map, Array.getElem?_toList, there]
    rfl
  obtain ⟨inside, -⟩ := List.getElem?_eq_some_iff.1 was
  rw [Board.converts, set, bne_iff_ne]
  intro same
  rw [← same, List.getElem?_set_self inside] at was
  exact enemy (congrArg Lineage.number (Option.some.inj was)).symm

/-- Every infection of a guarded program that begins its turn elsewhere is a conquest. -/
theorem conquers_of_infect (agrees : b.Agrees) (guarded : b.Guarded) (composed : b.Composed)
    (turned : b.turn slot = (.ok .infect, after)) : b.Conquers slot after := by
  cases here : b.creatures[slot]? with
  | none =>
    rw [turn, here] at turned
    cases turned
  | some c =>
    have own := guarded c (Array.mem_of_getElem? here)
    obtain ⟨victim, rival, looked, enemy⟩ :=
      enemy_of_infect here own (composed c (Array.mem_of_getElem? here) own) turned
    obtain ⟨seen, looked', sees⟩ := agrees.sight c
    rw [looked] at looked'
    cases looked'
    cases sees with
    | creature held there =>
      obtain ⟨address, coin, -, ends⟩ := turn_turned agrees here
      rw [turned] at ends
      cases ends with
      | spared _ harmless =>
        rw [harmless victim rival held there] at enemy
        cases enemy
      | @infected victim' rival' fetched held' there' apart enemy' =>
        have attacker : (b.put slot (c.afterInfection (address + 1))).creatures.toList.map
            Creature.lineage = b.creatures.toList.map Creature.lineage := toList_map_put_of_eq here rfl
        refine ⟨c, victim', rival', here, there', beq_eq_false_iff_ne.1 enemy', ?_⟩
        rw [← attacker]
        exact toList_map_put _ victim' (rival'.converted c)

end Turns

end Board

end Vivarium
