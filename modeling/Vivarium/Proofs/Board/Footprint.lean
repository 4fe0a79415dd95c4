import Mathlib.Data.Set.BooleanAlgebra
import Mathlib.Order.CompletePartialOrder
import Vivarium.Proofs.Board.Effect
import Vivarium.Proofs.Board.Outlook

/-!
# What a turn touches

A turn changes what is on two squares at most, the creature's own and the one ahead, and of the
creatures its own and the one ahead. It reads no more of the board than that and the coin.

1. `Comes.coin`, `Comes.coin_eq`: what becomes of the coin in a turn.
2. `Board.Deed`: what a turn comes to, as a change of squares and of creatures one by one.
   `Turned.does`: every turn comes to a deed, also one that fails.
3. `Does.view`: after a deed of one creature, another one that it does not meet sees what it saw.
4. `turns_commute`: so the turns of two creatures that do not meet come to the same in either order.
-/

namespace Vivarium

/-! ## Creatures that do not meet -/

namespace Creature

/-- Neither of two creatures stands or looks where the other one stands or looks. -/
def Apart (c d : Creature) : Prop :=
  Disjoint ({c.position, c.ahead} : Set Position) {d.position, d.ahead}

theorem apart_iff {c d : Creature} : c.Apart d ↔
    c.position ≠ d.position ∧ c.position ≠ d.ahead ∧ c.ahead ≠ d.position ∧ c.ahead ≠ d.ahead := by
  rw [Apart, Set.disjoint_insert_left, Set.disjoint_singleton_left]
  simp only [Set.mem_insert_iff, Set.mem_singleton_iff, not_or, and_assoc, ne_eq]

theorem Apart.symm {c d : Creature} (apart : c.Apart d) : d.Apart c := Disjoint.symm apart

end Creature

namespace Board

/-! ## The coin and the grid in a turn -/

section Coin

variable {σ : Type} [CoinSource σ] {b : Board σ} {slot : Nat} {c : Creature}

/-- A condition is tested by a flip of the coin or leaves the coin alone. -/
theorem coin_of_test {seen : Sight} {condition : Condition} {taken : Bool} {after : Board σ}
    (tested : b.test c seen condition = some (taken, after)) :
    after.coin = b.coin ∨
      ∃ flipped, CoinSource.flip b.coin = some flipped ∧ after.coin = flipped.2 := by
  cases condition with
  | random =>
    obtain ⟨flipped, flip, same⟩ := Option.map_eq_some_iff.1 tested
    cases same
    exact .inr ⟨flipped, flip, rfl⟩
  | empty | wall | same | enemy | always =>
    cases congrArg Prod.snd (Option.some.inj tested)
    exact .inl rfl

/-- A jump flips the coin or leaves it alone. -/
theorem coin_of_jumped {after : Board σ} (jumped : b.stride slot = .jumped after) :
    after.coin = b.coin ∨
      ∃ flipped, CoinSource.flip b.coin = some flipped ∧ after.coin = flipped.2 := by
  have coin : (b.update slot Creature.wrapped).coin = b.coin := rfl
  rw [stride] at jumped
  generalize b.update slot Creature.wrapped = ready at jumped coin
  rw [← coin]
  split at jumped
  · cases jumped
  · next c _ =>
    rw [execute] at jumped
    split at jumped
    · cases jumped
    · next instruction _ =>
      split at jumped
      · cases jumped
      · next seen _ =>
        cases instruction with
        | act action =>
          rw [follow] at jumped
          split at jumped <;> cases jumped
        | jump condition target positive =>
          rw [follow] at jumped
          split at jumped
          · next tested =>
            have kept := coin_of_test tested
            cases jumped
            exact kept
          · next tested =>
            have kept := coin_of_test tested
            cases jumped
            exact kept
          · cases jumped

/-- What flips keep of the coin is still so where a creature has come to. -/
theorem Comes.coin {address : Int} {coin : σ} (comes : b.Comes slot c address coin) {P : σ → Prop}
    (flips : ∀ {s : σ} {flipped : Bool × σ}, CoinSource.flip s = some flipped → P s → P flipped.2)
    (start : P b.coin) : P coin := by
  obtain ⟨steps, came⟩ := comes.run
  obtain ⟨last, jumps, same⟩ := run_eq_unfinished_iff.1 came
  have left : coin = last.coin := congrArg Board.coin same
  rw [left]
  clear came same left comes
  induction jumps with
  | none => exact start
  | jump jumped _ ih =>
    refine ih ?_
    rcases coin_of_jumped jumped with same | ⟨flipped, flip, same⟩
    · rw [same]
      exact start
    · rw [same]
      exact flips flip start

/-- A turn writes squares and leaves the grid as it is otherwise. -/
theorem Turned.clear_eq {address : Int} {coin : σ} {result : Except Fault Action} {after : Board σ}
    (turned : b.Turned slot c address coin result after) : after.grid.clear = b.grid.clear := by
  cases turned with
  | hopped =>
    show ((b.grid.write _ _).write _ _).clear = _
    rw [Grid.clear_write, Grid.clear_write]
  | blocked | left | right | infected | spared | capped | endless | coinless => rfl

theorem Turned.coin_eq {address : Int} {coin : σ} {result : Except Fault Action} {after : Board σ}
    (turned : b.Turned slot c address coin result after) : after.coin = coin := by
  cases turned <;> rfl

/-- Jumps of a program that does not flip the coin leave the coin alone. -/
theorem Jumps.coin_eq {count : Nat} {last : Board σ} (here : b.creatures[slot]? = some c)
    (fixed : ¬c.program.Has (.jump .random)) (jumps : Jumps slot count b last) :
    last.coin = b.coin := by
  obtain ⟨seen, looked⟩ := b.exists_sight c
  suffices general : ∀ counter coin, Jumps slot count (b.paused slot counter coin) last →
      last.coin = coin from general c.counter b.coin (by rw [paused_self here]; exact jumps)
  clear jumps
  induction count with
  | zero =>
    intro counter coin jumps
    cases jumps
    rfl
  | succ count ih =>
    intro counter coin jumps
    cases jumps with
    | jump jumped more =>
      obtain ⟨condition, target, positive, taken, coin', instruction, judged, rfl⟩ :=
        jump_of_stride here looked jumped
      have has := Program.Has.of_fetch (c.program.fetch_wrap counter)
      rw [instruction] at has
      rw [ih _ coin' more]
      cases condition with
      | random => exact absurd has fixed
      | empty | wall | same | enemy | always =>
        cases judged
        rfl

theorem Comes.coin_eq {address : Int} {coin : σ} (comes : b.Comes slot c address coin)
    (here : b.creatures[slot]? = some c) (fixed : ¬c.program.Has (.jump .random)) :
    coin = b.coin := by
  obtain ⟨steps, came⟩ := comes.run
  obtain ⟨last, jumps, same⟩ := run_eq_unfinished_iff.1 came
  have left : coin = last.coin := congrArg Board.coin same
  rw [left, jumps.coin_eq here fixed]

end Coin

/-! ## Deeds -/

/-- What a turn comes to: what it leaves of the creature, whether the creature goes to the square
ahead, and whom it makes one of its own species. -/
structure Deed where
  actor : Creature
  goes : Bool
  victim : Option Nat

namespace Deed

def square (deed : Deed) (slot : Nat) (c : Creature) (p : Position) (held : Option Nat) :
    Option Nat :=
  if deed.goes then
    if p = c.ahead then some slot else if p = c.position then none else held
  else held

def creature (deed : Deed) (slot : Nat) (c : Creature) (i : Nat) (was : Option Creature) :
    Option Creature :=
  if i = slot then some deed.actor
  else if deed.victim = some i then was.map fun other => other.converted c
  else was

/-- The slots of the creatures that a deed changes. -/
def Touches (deed : Deed) (slot i : Nat) : Prop := i = slot ∨ deed.victim = some i

variable {deed : Deed} {slot : Nat} {c : Creature}

theorem square_of_away {p : Position} (stays : p ≠ c.position) (free : p ≠ c.ahead)
    (held : Option Nat) : deed.square slot c p held = held := by
  rw [square, if_neg free, if_neg stays, ite_self]

theorem creature_of_untouched {i : Nat} (untouched : ¬deed.Touches slot i) (was : Option Creature) :
    deed.creature slot c i was = was := by
  rw [creature, if_neg fun own => untouched (.inl own), if_neg fun hit => untouched (.inr hit)]

end Deed

variable {σ : Type} {b b' : Board σ} {slot : Nat} {c : Creature}

/-- What a turn of a creature comes to that ends at an address. -/
def deed (b : Board σ) (c : Creature) (address : Int) : Except Fault Action → Deed
  | .ok action =>
    { actor := b.actorAfter c (address + 1) action
      goes := decide (action = .hop) && b.freeAhead c
      victim := if action = .infect then b.enemyAhead? c else none }
  | .error _ => { actor := { c with counter := address }, goes := false, victim := none }

/-- A deed of the creature `c` in `slot` is what is made of a board, but for what is written down. -/
structure Does (b : Board σ) (slot : Nat) (c : Creature) (deed : Deed) (after : Board σ) : Prop where
  frame : after.grid.clear = b.grid.clear
  squares : ∀ p, after.grid.get? p = deed.square slot c p (b.grid.get? p)
  creatures : ∀ i : Nat, after.creatures[i]? = deed.creature slot c i b.creatures[i]?
  struck : ∀ victim, deed.victim = some victim → b.grid.get? c.ahead = some victim

/-- Every turn comes to a deed. -/
theorem Turned.does [CoinSource σ] {address : Int} {coin : σ} {result : Except Fault Action}
    {after : Board σ} (turned : Turned b slot c address coin result after) (agrees : b.Agrees)
    (here : b.creatures[slot]? = some c) : b.Does slot c (b.deed c address result) after := by
  have frame := turned.clear_eq
  cases result with
  | error fault =>
    cases turned.eq_paused
    refine ⟨frame, fun p => rfl, fun i => ?_, fun victim struck => by cases struck⟩
    exact getElem?_paused here address coin i
  | ok action =>
    obtain ⟨-, effect, -⟩ := turned.effect agrees here
    refine ⟨frame, fun p => ?_, fun i => ?_, fun victim struck => ?_⟩
    · rw [effect.squares, squareAfter]
      simp only [deed, Deed.square, Bool.and_eq_true, decide_eq_true_eq]
    · have hit : (if action = .infect then b.enemyAhead? c else none) = some i ↔
          action = .infect ∧ b.enemyAhead? c = some i := by
        split
        · next infects => simp [infects]
        · next other => simp [other]
      rw [effect.creatures, creatureAfter]
      simp only [deed, Deed.creature, hit]
      rfl
    · simp only [deed] at struck
      split at struck
      · exact (enemyAhead?_eq_some.1 struck).1
      · cases struck

/-! ## What others see of a deed -/

/-- What a creature sees is the same on two boards: the square ahead, and who stands on it. -/
structure SameView (b b' : Board σ) (c : Creature) : Prop where
  inside : b'.grid.contains c.ahead = b.grid.contains c.ahead
  held : b'.grid.get? c.ahead = b.grid.get? c.ahead
  there : ∀ other, b.grid.get? c.ahead = some other → b'.creatures[other]? = b.creatures[other]?

namespace SameView

variable (view : b.SameView b' c)
include view

theorem sees {seen : Sight} (sees : b.Sees c seen) : b'.Sees c seen := by
  cases sees with
  | wall outside => exact .wall (view.inside.trans outside)
  | empty inside free => exact .empty (view.inside.trans inside) (view.held.trans free)
  | creature held there =>
    exact .creature (view.held.trans held) ((view.there _ held).trans there)

theorem freeAhead_eq : b'.freeAhead c = b.freeAhead c := by
  rw [freeAhead, freeAhead, view.inside, view.held]

theorem enemyAhead?_eq : b'.enemyAhead? c = b.enemyAhead? c := by
  rw [enemyAhead?, enemyAhead?, view.held]
  cases held : b.grid.get? c.ahead with
  | none => rfl
  | some other => simp only [Option.filter, view.there other held]

/-- The same deed is done where the same is seen. -/
theorem deed_eq (address : Int) (result : Except Fault Action) :
    b'.deed c address result = b.deed c address result := by
  cases result with
  | error fault => rfl
  | ok action =>
    have actor : b'.actorAfter c (address + 1) action = b.actorAfter c (address + 1) action := by
      cases action <;> simp only [actorAfter, view.freeAhead_eq, view.enemyAhead?_eq]
    simp only [deed, actor, view.freeAhead_eq, view.enemyAhead?_eq]

theorem sameOutlook (agrees : b.Agrees) (coin : b'.coin = b.coin) : b.SameOutlook c b' c := by
  obtain ⟨seen, -, sees⟩ := agrees.sight c
  exact ⟨rfl, rfl, rfl, rfl, coin, seen, seen, sees, view.sees sees, fun _ => rfl⟩

end SameView

/-! ## Deeds of creatures that do not meet -/

variable {i j : Nat} {d : Creature} {deed deed' : Deed} {after after' left left' : Board σ}

/-- Whom a deed changes, stands where its creature stands or looks. -/
theorem Does.stands (does : b.Does i c deed after) (agrees : b.Agrees)
    (here : b.creatures[i]? = some c) {k : Nat} (touches : deed.Touches i k) :
    ∃ e, b.creatures[k]? = some e ∧ (e.position = c.position ∨ e.position = c.ahead) := by
  rcases touches with rfl | hit
  · exact ⟨c, here, .inl rfl⟩
  · obtain ⟨e, found, stands⟩ := agrees.stands (does.struck k hit)
    exact ⟨e, found, .inr stands⟩

/-- Who stands elsewhere, a deed leaves alone. -/
theorem Does.untouched (does : b.Does i c deed after) (agrees : b.Agrees)
    (here : b.creatures[i]? = some c) {k : Nat} {e : Creature} (there : b.creatures[k]? = some e)
    (elsewhere : e.position ≠ c.position) (away : e.position ≠ c.ahead) : ¬deed.Touches i k := by
  intro touches
  obtain ⟨f, found, stands⟩ := does.stands agrees here touches
  rw [there] at found
  cases found
  rcases stands with stands | stands
  · exact elsewhere stands
  · exact away stands

/-- After a deed of one creature, another one that it does not meet is as it was and sees what it
saw. -/
theorem Does.view (does : b.Does i c deed after) (agrees : b.Agrees)
    (here : b.creatures[i]? = some c) (there : b.creatures[j]? = some d) (apart : c.Apart d) :
    after.creatures[j]? = some d ∧ b.SameView after d := by
  obtain ⟨stand, stand', look, look'⟩ := Creature.apart_iff.1 apart
  refine ⟨?_, ?_, ?_, fun k held => ?_⟩
  · rw [does.creatures, Deed.creature_of_untouched, there]
    exact does.untouched agrees here there (Ne.symm stand) (Ne.symm look)
  · have inside : after.grid.clear.contains d.ahead = b.grid.clear.contains d.ahead := by
      rw [does.frame]
    exact inside
  · rw [does.squares, Deed.square_of_away (Ne.symm stand') (Ne.symm look')]
  · obtain ⟨e, found, stands⟩ := agrees.stands held
    rw [does.creatures, Deed.creature_of_untouched]
    exact does.untouched agrees here found (stands ▸ Ne.symm stand') (stands ▸ Ne.symm look')

/-- Two deeds of creatures that do not meet leave the same in either order. -/
theorem Does.comm (first : b.Does i c deed after) (second : after.Does j d deed' left)
    (second' : b.Does j d deed' after') (first' : after'.Does i c deed left') (agrees : b.Agrees)
    (here : b.creatures[i]? = some c) (there : b.creatures[j]? = some d) (apart : c.Apart d) :
    left.grid = left'.grid ∧ left.creatures = left'.creatures := by
  obtain ⟨stand, stand', look, look'⟩ := Creature.apart_iff.1 apart
  constructor
  · refine Grid.ext_get? ?_ fun p => ?_
    · rw [second.frame, first.frame, first'.frame, second'.frame]
    · rw [second.squares, first.squares, first'.squares, second'.squares]
      -- A square that one of them stands on or looks at, the other one does not touch.
      by_cases near : p = c.position ∨ p = c.ahead
      · have away : p ≠ d.position ∧ p ≠ d.ahead := by
          rcases near with rfl | rfl
          · exact ⟨stand, stand'⟩
          · exact ⟨look, look'⟩
        rw [Deed.square_of_away away.1 away.2, Deed.square_of_away away.1 away.2]
      · obtain ⟨elsewhere, away⟩ := not_or.1 near
        rw [Deed.square_of_away elsewhere away, Deed.square_of_away elsewhere away]
  · refine Array.ext_getElem? fun k => ?_
    rw [second.creatures, first.creatures, first'.creatures, second'.creatures]
    by_cases touches : deed.Touches i k
    · obtain ⟨e, found, stands⟩ := first.stands agrees here touches
      have untouched : ¬deed'.Touches j k := by
        rcases stands with stands | stands
        · exact second'.untouched agrees there found (stands ▸ stand) (stands ▸ stand')
        · exact second'.untouched agrees there found (stands ▸ look) (stands ▸ look')
      rw [Deed.creature_of_untouched untouched, Deed.creature_of_untouched untouched]
    · rw [Deed.creature_of_untouched touches, Deed.creature_of_untouched touches]

/-! ## Turns of creatures that do not meet -/

variable [CoinSource σ]

/-- A turn of a program that does not flip the coin leaves the coin alone. -/
theorem coin_turn (agrees : b.Agrees) (here : b.creatures[i]? = some c)
    (fixed : ¬c.program.Has (.jump .random)) : (b.turn i).2.coin = b.coin := by
  obtain ⟨address, coin, comes, turned⟩ := turn_turned agrees here
  rw [turned.coin_eq, comes.coin_eq here fixed]

/-- After the turn of a creature that it does not meet, a creature has the turn that it would have had
before: it ends in the same way and with the same deed. -/
theorem turn_after (agrees : b.Agrees) (here : b.creatures[i]? = some c)
    (there : b.creatures[j]? = some d) (apart : c.Apart d)
    (fixed : ¬c.program.Has (.jump .random)) :
    ((b.turn i).2.turn j).1 = (b.turn j).1 ∧ ((b.turn i).2.turn j).2.coin = (b.turn j).2.coin ∧
      ∃ deed, b.Does j d deed (b.turn j).2 ∧ (b.turn i).2.Does j d deed ((b.turn i).2.turn j).2 := by
  obtain ⟨_, _, -, first⟩ := turn_turned agrees here
  obtain ⟨there', view⟩ := (first.does agrees here).view agrees here there apart
  have agrees' := first.agrees agrees here
  have coin := coin_turn agrees here fixed
  obtain ⟨address, _, same, turned, turned'⟩ :=
    (view.sameOutlook agrees coin).turn agrees agrees' there there'
  refine ⟨same, turned'.coin_eq.trans turned.coin_eq.symm, b.deed d address (b.turn j).1,
    turned.does agrees there, ?_⟩
  rw [← view.deed_eq]
  exact turned'.does agrees' there'

/-- Turns of two creatures that do not meet and do not flip the coin come to the same in either order:
each of them ends in the same way, and squares, creatures and coin are the same after them. -/
theorem turns_comm (agrees : b.Agrees) (here : b.creatures[i]? = some c)
    (there : b.creatures[j]? = some d) (apart : c.Apart d)
    (fixed : ¬c.program.Has (.jump .random)) (fixed' : ¬d.program.Has (.jump .random)) :
    ((b.turn j).2.turn i).1 = (b.turn i).1 ∧ ((b.turn i).2.turn j).1 = (b.turn j).1 ∧
      ((b.turn i).2.turn j).2.grid = ((b.turn j).2.turn i).2.grid ∧
      ((b.turn i).2.turn j).2.creatures = ((b.turn j).2.turn i).2.creatures ∧
      ((b.turn i).2.turn j).2.coin = ((b.turn j).2.turn i).2.coin := by
  obtain ⟨same', coin', deed', second', second⟩ := turn_after agrees here there apart fixed
  obtain ⟨same, coin, deed, first, first'⟩ := turn_after agrees there here apart.symm fixed'
  obtain ⟨grid, creatures⟩ := first.comm second second' first' agrees here there apart
  refine ⟨same, same', grid, creatures, ?_⟩
  rw [coin, coin', coin_turn agrees here fixed, coin_turn agrees there fixed']

end Board

end Vivarium
