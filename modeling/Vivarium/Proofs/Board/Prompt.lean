import Vivarium.Proofs.Board.Limit

/-!
# Programs that come to an action soon

Whether a program comes to an action within so many instructions, whatever its conditions turn out to
be, can be computed from the program alone (`Program.actsWithin`). Where it does from every address,
it is `Program.Prompt`.

1. `Program.Prompt.actsWithin`: a prompt program may be come upon at any counter.
2. `acts_of_actsWithin`: the turn of a creature that goes by such a program, where the coin is there
   when it is flipped.
3. `turn_of_prompt`: so a limit of that many instructions cuts no turn of a prompt program off, and
   without a limit no turn is endless.
-/

namespace Vivarium

/-! ## Programs -/

namespace Program

/-- Whether a program comes to an action within so many instructions from a counter on, whether its
jumps are taken or not. -/
def actsWithin (p : Program) : Nat → Int → Bool
  | 0, _ => false
  | steps + 1, counter =>
    match p.instructionAt counter with
    | .act _ => true
    | .jump _ target _ =>
      p.actsWithin steps target && p.actsWithin steps (p.wrap counter + 1)

/-- Whether a program comes to an action within so many instructions, and within as many as it has,
from each of its addresses on. -/
def isPrompt (p : Program) (steps : Nat) : Bool :=
  (List.range p.size).all fun i => p.actsWithin (min steps p.size) (i + 1)

theorem actsWithin_wrap (p : Program) (steps : Nat) (counter : Int) :
    p.actsWithin steps (p.wrap counter) = p.actsWithin steps counter := by
  cases steps with
  | zero => rfl
  | succ steps => rw [actsWithin, actsWithin, instructionAt_wrap, wrap_wrap]

/-- A counter stands for an address, so a prompt program may be come upon at any counter. -/
theorem actsWithin_of_isPrompt {p : Program} {steps : Nat} (prompt : p.isPrompt steps = true)
    (counter : Int) : p.actsWithin (min steps p.size) counter = true := by
  have low := p.wrap_pos counter
  have high := p.wrap_le_size counter
  have listed : (p.wrap counter - 1).toNat ∈ List.range p.size := List.mem_range.2 (by omega)
  have soon := List.all_eq_true.1 prompt _ listed
  have address : (((p.wrap counter - 1).toNat : Nat) : Int) + 1 = p.wrap counter := by omega
  rwa [address, actsWithin_wrap] at soon

end Program

/-! ## Turns -/

namespace Board

variable {σ : Type} [CoinSource σ] {b : Board σ} {slot : Nat} {c : Creature}

theorem exists_verdict (there : ∀ coin : σ, CoinSource.flip coin ≠ none) (seen : Sight) (coin : σ)
    (condition : Condition) :
    ∃ flipped, verdict c seen CoinSource.flip coin condition = some flipped := by
  cases condition with
  | random => exact Option.ne_none_iff_exists'.1 (there coin)
  | empty | wall | same | enemy | always => exact ⟨_, rfl⟩

/-- A creature on the grid whose program comes to an action within so many instructions, does so on
every board and with every coin. -/
theorem acts_of_actsWithin (there : ∀ coin : σ, CoinSource.flip coin ≠ none)
    (here : b.creatures[slot]? = some c) (standing : b.grid.contains c.position = true) {steps : Nat}
    {counter : Int} (soon : c.program.actsWithin steps counter = true) (coin : σ) :
    ∃ m ≤ steps, ∃ action after, Acts slot m (b.paused slot counter coin) action after := by
  obtain ⟨seen, looked⟩ := b.exists_sight c
  -- The board is `b` but for a counter and a coin, which are general: a jump changes both of them.
  induction steps generalizing counter coin with
  | zero => cases soon
  | succ steps ih =>
    rw [Program.actsWithin] at soon
    cases instruction : c.program.instructionAt counter with
    | act action =>
      obtain ⟨after, acted⟩ := stride_acted here standing coin instruction
      exact ⟨1, by omega, action, after, .act acted⟩
    | jump condition target positive =>
      rw [instruction] at soon
      obtain ⟨taken, otherwise⟩ := Bool.and_eq_true_iff.1 soon
      obtain ⟨⟨jumps, coin'⟩, judged⟩ := exists_verdict there seen coin condition
      have jumped : (b.paused slot counter coin).stride slot = _ :=
        stride_of_jump here looked instruction
      rw [judged] at jumped
      have next : c.program.actsWithin steps
          (if jumps then target else c.program.wrap counter + 1) = true := by
        cases jumps with
        | true => exact taken
        | false => exact otherwise
      obtain ⟨m, within, action, after, acts⟩ := ih next coin'
      exact ⟨m + 1, by omega, action, after, .jump jumped acts⟩

/-- A turn of a prompt program comes to an action within as many instructions. So it ends with one
unless its limit is a smaller one. -/
theorem turn_of_prompt (there : ∀ coin : σ, CoinSource.flip coin ≠ none)
    (here : b.creatures[slot]? = some c) (standing : b.grid.contains c.position = true) {steps : Nat}
    (prompt : c.program.isPrompt steps = true) :
    ∃ m ≤ steps, ∃ action after, Acts slot m b action after ∧
      ((∀ limit, c.limit = some limit → steps ≤ limit.steps) → b.turn slot = (.ok action, after)) := by
  obtain ⟨m, within, action, after, acts⟩ := acts_of_actsWithin there here standing
    (Program.actsWithin_of_isPrompt prompt c.counter) b.coin
  rw [paused_self here] at acts
  refine ⟨m, by omega, action, after, acts, fun allowed => turn_of_acts here acts ?_⟩
  cases limited : c.limit with
  | some limit => exact Nat.le_trans (by omega) (allowed limit limited)
  | none =>
    -- Without a limit a turn may run at least as many instructions as its program has.
    have patient : c.program.size ≤ b.patience c := Nat.le_mul_of_pos_right _ (by omega)
    exact Nat.le_trans (by omega) patient

end Board

end Vivarium
