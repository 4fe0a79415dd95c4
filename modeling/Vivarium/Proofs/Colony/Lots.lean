import Mathlib.Data.Finset.Card
import Vivarium.Proofs.Colony.Capacity
import Vivarium.Proofs.Colony.Census

/-!
# Creatures that are placed by lot

When a colony is populated, its creatures are placed one after the other, each on a square that was
drawn among those that are free by then. Here nothing is said of how squares and directions are drawn:
a `Colony.Lot` may be any free square with any direction.

1. `Agrees.exists_free`: with fewer creatures than squares, a square is free.
2. `Allotted`: what is left when creatures were placed by lot, whatever the lots; each lot keeps it
   (`Allotted.place`), and so do all of them (`Allots.allotted`).
3. `Allotted.accepts`: no lot is refused.
4. `Allotted.populated`: when so many creatures of each species were placed, the colony is populated.
-/

namespace Vivarium

/-! ## Free squares -/

namespace Board

variable {σ : Type} {b : Board σ}

/-- Of a board with fewer creatures than squares, a square is free. -/
theorem Agrees.exists_free (agrees : b.Agrees)
    (room : b.creatures.size < b.grid.width * b.grid.height) :
    ∃ p, b.grid.contains p = true ∧ b.grid.get? p = none := by
  by_contra full
  have held {i : Nat} (inside : i ∈ Finset.range (b.grid.width * b.grid.height)) :
      ∃ slot d, b.grid.get? (b.grid.positionAt i) = some slot ∧ b.creatures[slot]? = some d ∧
        d.position = b.grid.positionAt i := by
    have contains := Grid.contains_positionAt (Finset.mem_range.1 inside)
    cases square : b.grid.get? (b.grid.positionAt i) with
    | none => exact absurd ⟨_, contains, square⟩ full
    | some slot =>
      obtain ⟨d, there, stands⟩ := agrees.stands square
      exact ⟨slot, d, rfl, there, stands⟩
  -- Each square has its own creature, so there are no more squares than creatures.
  have counted := Finset.card_le_card_of_injOn
    (s := Finset.range (b.grid.width * b.grid.height)) (t := Finset.range b.creatures.size)
    (fun i => (b.grid.get? (b.grid.positionAt i)).getD 0) ?_ ?_
  · rw [Finset.card_range, Finset.card_range] at counted
    omega
  · intro i inside
    obtain ⟨slot, d, square, there, -⟩ := held inside
    simp only [square, Option.getD_some]
    exact Finset.mem_coe.2 (Finset.mem_range.2 (Array.getElem?_eq_some_iff.1 there).1)
  · intro i hi j hj same
    obtain ⟨slot, d, square, there, stands⟩ := held hi
    obtain ⟨slot', d', square', there', stands'⟩ := held hj
    simp only [square, square', Option.getD_some] at same
    subst same
    cases there.symm.trans there'
    rw [← b.grid.index_positionAt i, ← stands, stands', b.grid.index_positionAt]

end Board

namespace Colony

variable {κ : Type} {start c last : Colony κ} {done numbers : List Nat}

/-! ## Lots -/

structure Lot where
  position : Position
  direction : Direction

/-- Creatures of the species with the listed numbers are placed by lot, one after the other. Each lot is
a square that is free by then; whatever was drawn for it, the generator is left in any state. -/
inductive Allots : List Nat → List Lot → Colony κ → Colony κ → Prop
  | none (c : Colony κ) : Allots [] [] c c
  | lot {number id : Nat} {numbers : List Nat} {lot : Lot} {lots : List Lot} {g : Generator}
      {c next last : Colony κ} (inside : c.board.grid.contains lot.position = true)
      (free : c.board.grid.get? lot.position = .none)
      (added : (c.withGenerator g).add (.listed number) (some lot.position)
        (.int lot.direction.index) = (.ok id, next))
      (more : Allots numbers lots next last) : Allots (number :: numbers) (lot :: lots) c last

/-- Creatures of the species with the listed numbers, and no others, have been placed since the start,
in this order. -/
structure Allotted (start : Colony κ) (done : List Nat) (c : Colony κ) : Prop where
  settings : c.settings = start.settings
  roster : c.roster = start.roster
  frame : c.board.grid.clear = start.board.grid.clear
  orderly : c.Orderly
  enrolled : c.Enrolled
  numbers : c.lineages.map Lineage.number = done
  counter : ∀ {slot : Nat} {d : Creature}, c.board.creatures[slot]? = some d → d.counter = 1

theorem lineages_insert (c : Colony κ) (d : Creature) :
    lineages { c with board := c.board.insert d, nextId := c.nextId + 1 } = c.lineages ++ [d.lineage] := by
  rw [lineages, Board.insert, Board.draw_eq, Array.toList_push, List.map_append]
  rfl

/-- What is added to a colony is of the species with the number. -/
theorem add_listed_eq_ok {number id : Nat} {position : Option Position} {direction : Value}
    (added : c.add (.listed number) position direction = (.ok id, last)) :
    ∃ d, c.Newcomer d ∧ d.lineage.number = number ∧
      last = { c with board := c.board.insert d, nextId := c.nextId + 1 } := by
  rw [add_eq] at added
  cases made : c.board.creatureFor (c.placement (.listed number) position direction) with
  | error fault =>
    rw [made] at added
    cases added
  | ok d =>
    rw [made] at added
    cases added
    refine ⟨d, newcomer_of_creatureFor made, ?_, rfl⟩
    obtain ⟨lineage, _, _, _, known, -, -, -, -, -, rfl⟩ := creatureFor_eq_ok made
    exact (lineage?_eq_some_iff.1 known).1

namespace Allotted

/-- At the start nobody was placed. -/
theorem none (bare : c.Bare) : Allotted c [] c := by
  refine ⟨rfl, rfl, rfl, bare.orderly, ?_, ?_, ?_⟩
  · intro l present
    rw [lineages, bare.creatures] at present
    cases present
  · rw [lineages, bare.creatures]
    rfl
  · intro slot d here
    rw [bare.creatures] at here
    cases here

theorem population_eq (allotted : Allotted start done c) : c.population = done.length := by
  rw [← length_lineages, ← allotted.numbers, List.length_map]

theorem squares_eq (allotted : Allotted start done c) : c.squares = start.squares := by
  have squares : c.board.grid.clear.width * c.board.grid.clear.height =
      start.board.grid.clear.width * start.board.grid.clear.height := by rw [allotted.frame]
  exact squares

/-- While there are fewer creatures than squares, a square is free. -/
theorem exists_free (allotted : Allotted start done c) (room : done.length < start.squares) :
    ∃ p, c.board.grid.contains p = true ∧ c.board.grid.get? p = .none := by
  refine allotted.orderly.agrees.exists_free ?_
  rw [← allotted.population_eq, ← allotted.squares_eq] at room
  exact room

/-- No lot is refused. -/
theorem accepts (allotted : Allotted start done c) (valid : start.settings.validate = .ok ())
    {number : Nat} (listed : number < start.roster.size) (g : Generator) {p : Position}
    (inside : c.board.grid.contains p = true) (free : c.board.grid.get? p = .none) (d : Direction) :
    ∃ id next, (c.withGenerator g).add (.listed number) (some p) (.int d.index) = (.ok id, next) := by
  refine add_of_free ?_ ?_ g inside free d
  · rw [allotted.settings, valid]
  · rw [allotted.roster]
    exact listed

variable [CoinSource κ]

/-- One more creature. -/
theorem place (allotted : Allotted start done c) {g : Generator} {d : Creature}
    (newcomer : (c.withGenerator g).Newcomer d) :
    Allotted start (done ++ [d.lineage.number])
      { c.withGenerator g with
        board := (c.withGenerator g).board.insert d
        nextId := (c.withGenerator g).nextId + 1 } := by
  have orderly : (c.withGenerator g).Orderly := Change.orderly (.drew c g) allotted.orderly
  have enrolled : (c.withGenerator g).Enrolled :=
    Change.enrolled (.drew c g) allotted.orderly allotted.enrolled
  refine ⟨allotted.settings, allotted.roster, ?_, orderly.insert newcomer,
    Change.enrolled (.placed newcomer) orderly enrolled, ?_, ?_⟩
  · rw [← allotted.frame, Board.insert, Board.draw_eq]
    exact Grid.clear_write _ _ _
  · rw [lineages_insert, List.map_append, ← allotted.numbers]
    rfl
  · intro slot e here
    rw [Board.insert, Board.draw_eq] at here
    change (c.board.creatures.push d)[slot]? = some e at here
    rw [Array.getElem?_push] at here
    split at here
    · cases here
      exact newcomer.counter
    · exact allotted.counter here

theorem note (allotted : Allotted start done c) (entry : Journal.Entry) :
    Allotted start done (c.note entry) where
  settings := allotted.settings
  roster := allotted.roster
  frame := allotted.frame
  orderly := Change.orderly (.noted c entry) allotted.orderly
  enrolled := Change.enrolled (.noted c entry) allotted.orderly allotted.enrolled
  numbers := allotted.numbers
  counter := allotted.counter

end Allotted

/-- Whatever the lots are. -/
theorem Allots.allotted [CoinSource κ] {lots : List Lot} (allots : Allots numbers lots c last)
    (allotted : Allotted start done c) : Allotted start (done ++ numbers) last := by
  induction allots generalizing done with
  | none c => rwa [List.append_nil]
  | lot inside free added more ih =>
    obtain ⟨d, newcomer, rfl, rfl⟩ := add_listed_eq_ok added
    have next := ih (allotted.place newcomer)
    rwa [List.append_assoc, List.singleton_append] at next

/-! ## Populated colonies -/

/-- A colony with a roster that was populated with so many creatures of each species: they are of the
species of the roster, in the order of the roster, are numbered as they came, stand on squares of the
grid, no two on one, and are at the beginning of their programs. Where labels do not repeat, so many
are counted for each label. -/
structure Populated (c : Colony κ) (species : List Species) (count : Nat) : Prop where
  roster : c.roster = species.toArray
  lineages : c.lineages.map some =
    (List.range species.length).flatMap fun number => List.replicate count (c.lineage? number)
  numbered : ∀ {slot : Nat} {d : Creature}, c.board.creatures[slot]? = some d → d.id = slot
  inside : ∀ {slot : Nat} {d : Creature}, c.board.creatures[slot]? = some d →
    c.board.grid.contains d.position = true
  apart : ∀ {i j : Nat} {d e : Creature}, c.board.creatures[i]? = some d →
    c.board.creatures[j]? = some e → d.position = e.position → i = j
  agrees : c.board.Agrees
  counter : ∀ {slot : Nat} {d : Creature}, c.board.creatures[slot]? = some d → d.counter = 1
  counts : c.labels.Nodup → c.counts.entries = c.labels.map fun label => (label, count)

/-- The numbers of so many species, each so often. -/
def quota (species count : Nat) : List Nat := (List.range species).flatMap (List.replicate count)

theorem length_quota (species count : Nat) : (quota species count).length = species * count := by
  rw [quota, List.length_flatMap]
  simp

theorem lt_of_mem_quota {species count number : Nat} (asked : number ∈ quota species count) :
    number < species := by
  obtain ⟨other, below, same⟩ := List.mem_flatMap.1 asked
  rw [List.eq_of_mem_replicate same]
  exact List.mem_range.1 below

theorem count_quota (m n k : Nat) : (quota m n).count k = if k < m then n else 0 := by
  induction m with
  | zero => rfl
  | succ m ih =>
    rw [quota, List.range_succ, List.flatMap_append, List.count_append, ← quota, ih,
      List.flatMap_singleton, List.count_replicate]
    rcases Nat.lt_trichotomy k m with below | rfl | above
    · have other : ¬ (m == k) = true := by simpa using Nat.ne_of_gt below
      rw [if_pos below, if_neg other, if_pos (Nat.lt_succ_of_lt below)]
      rfl
    · simp
    · have other : ¬ (m == k) = true := by simpa using Nat.ne_of_lt above
      have past : ¬ k < m + 1 := by omega
      rw [if_neg (Nat.lt_asymm above), if_neg other, if_neg past]

theorem Allotted.populated {species : List Species} {count : Nat}
    (allotted : Allotted start (quota species.length count) c)
    (known : start.roster = species.toArray) : c.Populated species count := by
  have agrees := allotted.orderly.agrees
  have roster := allotted.roster.trans known
  refine ⟨roster, ?_, allotted.orderly.numbered, agrees.contains, agrees.position_injective, agrees,
    allotted.counter, fun distinct => ?_⟩
  · have listed : c.lineages.map some = (c.lineages.map Lineage.number).map c.lineage? := by
      rw [List.map_map]
      exact List.map_congr_left fun l present => (allotted.enrolled l present).symm
    rw [listed, allotted.numbers, quota, List.map_flatMap]
    simp only [List.map_replicate]
  · have counted (k : Nat) : c.countOf k = if k < species.length then count else 0 := by
      rw [← count_quota, ← allotted.numbers, countOf_eq, List.count, List.countP_map]
      rfl
    refine List.ext_getElem? fun k => ?_
    rw [getElem?_entries_counts distinct, List.getElem?_map]
    refine Option.map_congr fun label labelled => ?_
    have below : k < species.length := by
      have inside := (List.getElem?_eq_some_iff.1 labelled).1
      rwa [length_labels, roster, List.size_toArray] at inside
    rw [counted, if_pos below]

end Colony

end Vivarium
