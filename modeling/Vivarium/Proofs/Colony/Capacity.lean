import Vivarium.Proofs.Colony.Placement

/-!
# When a reset finds too little room

A reset places creatures for every species of the roster, and new species may have come into it since
the founding. Whether there is room for all is looked at only after the colony was emptied.

1. `reset_of_overfull`: with more creatures to place than squares, a reset leaves an empty colony.
2. `reset_of_room`: with room for all, a reset refuses no creature.
3. `reset_refused`: so a colony that was populated at the founding can be emptied for good, if new
   species came into its roster, and only then.
-/

namespace Vivarium

/-- Whether a fault tells that a creature cannot be placed where it should be, or that there is too
little room for all of them. -/
def Fault.refusesPlacement : Fault → Bool
  | .incompletePlacement => true
  | .placedOutside _ => true
  | .placedOnOccupied _ => true
  | .crowded .. => true
  | _ => false

namespace Colony

variable {κ : Type} {c d : Colony κ}

/-! ## Room for all -/

def squares (c : Colony κ) : Nat := c.board.grid.width * c.board.grid.height

/-- There are more creatures to place, for all species of the roster, than squares. The number of them
is that of the creatures for one species times that of the species. -/
def Overfull (c : Colony κ) (wanted : Value) : Prop :=
  c.settings.count.mul (.int c.roster.size) = .ok wanted ∧
    wanted.gt (.int c.squares) = .ok true

/-- Where the number of creatures of a species is a whole one, so is that of all creatures. -/
theorem exists_overfull_iff {n : Int} (counted : c.settings.count.whole? = some n) :
    (∃ wanted, c.Overfull wanted) ↔ (c.squares : Int) < n * c.roster.size := by
  have product : c.settings.count.mul (.int c.roster.size) = .ok (.int (n * c.roster.size)) :=
    Value.mul_of_whole counted rfl
  have compared : (Value.int (n * c.roster.size)).gt (.int c.squares) =
      .ok (decide ((c.squares : Int) < n * c.roster.size)) := Value.gt_of_whole rfl rfl
  constructor
  · rintro ⟨wanted, multiplied, more⟩
    cases multiplied.symm.trans product
    rw [compared] at more
    exact of_decide_eq_true (Except.ok.inj more)
  · intro more
    exact ⟨_, product, by rw [compared, decide_eq_true more]⟩

/-- What is settled and the number of species decide whether there is room. -/
theorem Kin.overfull_iff (kin : c.Kin d) (size : d.roster.size = c.roster.size) {wanted : Value} :
    d.Overfull wanted ↔ c.Overfull wanted := by
  rw [Overfull, Overfull, Colony.squares, Colony.squares, kin.settings, kin.width_eq, kin.height_eq,
    size]

/-- In a bare colony all squares are free. -/
theorem Bare.free_eq (bare : c.Bare) : c.free = c.squares := by
  rw [free, population, bare.creatures]
  exact Int.sub_zero _

theorem Bare.crowding_eq (bare : c.Bare) :
    c.crowding = (do
      let wanted ← c.settings.count.mul (.int c.roster.size)
      return (wanted, ← wanted.gt (.int c.squares))) := by
  rw [crowding, bare.free_eq]

theorem Bare.crowding_iff (bare : c.Bare) {wanted : Value} :
    c.crowding = .ok (wanted, true) ↔ c.Overfull wanted := by
  rw [bare.crowding_eq]
  constructor
  · intro crowded
    obtain ⟨product, multiplied, crowded⟩ := Fault.exists_of_bind_eq_ok crowded
    obtain ⟨more, compared, crowded⟩ := Fault.exists_of_bind_eq_ok crowded
    cases crowded
    exact ⟨multiplied, compared⟩
  · rintro ⟨multiplied, compared⟩
    rw [multiplied]
    show (wanted.gt (.int c.squares) >>= _) = _
    rw [compared]
    rfl

/-- The number of creatures to place is one, if it is not too large. -/
theorem Bare.crowding_eq_error (bare : c.Bare) (valid : c.settings.validate = .ok ()) {fault : Fault}
    (failed : c.crowding = .error fault) : fault = .tooLargeForDouble := by
  obtain ⟨count, known⟩ := Settings.exists_count valid
  rw [bare.crowding_eq] at failed
  rcases Value.mul_of_numbers known (w := .int c.roster.size) rfl with ⟨product, multiplied⟩ | large
  · rw [multiplied] at failed
    have compared : (product.toValue.gt (.int c.squares) >>= fun more =>
      .ok (product.toValue, more)) = Except.error fault := failed
    have ordered : product.toValue.gt (.int c.squares) = _ :=
      Value.gt_toValue product (.whole c.squares)
    rw [ordered] at compared
    cases compared
  · rw [large] at failed
    cases failed
    rfl

/-! ## With too little room -/

/-- In a bare colony with too little room no creature is placed. -/
theorem Bare.inhabit_of_overfull (bare : c.Bare) (populates : c.populates = true) {wanted : Value}
    (overfull : c.Overfull wanted) :
    c.inhabit = (.error (.telling (.crowded wanted c.squares) [wanted]),
      c.note (crowdedEntry wanted c.squares)) := by
  rw [inhabit, if_pos populates, populate, bare.crowding_iff.2 overfull]
  dsimp only
  rw [bare.free_eq]

/-- A reset of a colony with too little room empties it and places no creature. -/
theorem reset_of_overfull (populates : c.populates = true) {wanted : Value}
    (overfull : c.Overfull wanted) :
    c.reset = (.error (.telling (.crowded wanted c.squares) [wanted]),
      c.cleared.note (crowdedEntry wanted c.squares)) :=
  c.bare_cleared.inhabit_of_overfull populates overfull

/-! ## With room for all -/

/-- A draw below a positive bound fails only if it has no end. -/
theorem nextInt_eq_error {g : Generator} {bound : Int} (positive : 0 < bound) {fault : Fault}
    (failed : g.nextInt bound = .error fault) : fault = .endlessDraw := by
  rw [Generator.nextInt, if_neg (Int.not_le.2 positive)] at failed
  cases drawn : g.below bound.toNat with
  | none =>
    rw [drawn] at failed
    cases failed
    rfl
  | some pair =>
    rw [drawn] at failed
    cases failed

theorem findFree_eq_error {grid : Grid Nat} {tries : Nat} {g : Generator} {fault : Fault}
    (failed : findFree grid tries g = .error fault) : fault = .endlessDraw := by
  induction tries generalizing g with
  | zero =>
    cases failed
    rfl
  | succ tries ih =>
    rcases Fault.cases_of_bind_eq_error failed with stuck | ⟨⟨x, g₁⟩, -, failed⟩
    · exact nextInt_eq_error (Int.ofNat_lt.2 grid.width_pos) stuck
    · rcases Fault.cases_of_bind_eq_error failed with stuck | ⟨⟨y, g₂⟩, -, failed⟩
      · exact nextInt_eq_error (Int.ofNat_lt.2 grid.height_pos) stuck
      · dsimp only at failed
        split at failed
        · cases failed
        · exact ih failed

theorem drawPlace_eq_error {grid : Grid Nat} {g : Generator} {fault : Fault}
    (failed : drawPlace grid g = .error fault) : fault = .endlessDraw := by
  rcases Fault.cases_of_bind_eq_error failed with stuck | ⟨⟨position, g₁⟩, -, failed⟩
  · exact findFree_eq_error stuck
  · rcases Fault.cases_of_bind_eq_error failed with stuck | ⟨⟨direction, g₂⟩, -, failed⟩
    · exact nextInt_eq_error (by decide) stuck
    · cases failed

/-- A creature of the roster is placed on a free square. -/
theorem add_of_free (valid : c.settings.validate = .ok ()) {number : Nat}
    (listed : number < c.roster.size) (g : Generator) {p : Position}
    (inside : c.board.grid.contains p = true) (free : c.board.grid.get? p = none) (d : Direction) :
    ∃ id next, (c.withGenerator g).add (.listed number) (some p) (.int d.index) = (.ok id, next) := by
  have admits : (c.withGenerator g).Admits (.listed number) (some p) (.int d.index) := by
    refine ⟨⟨⟨number, c.roster[number]⟩, ?_⟩, ⟨p, rfl, inside, free⟩, ⟨d, Value.toDirection_index d⟩⟩
    show c.lineage? number = _
    rw [lineage?, Array.getElem?_eq_getElem listed]
    rfl
  obtain ⟨id, added⟩ := (add_isOk_iff (c := c.withGenerator g) valid).2 admits
  exact ⟨id, _, Prod.ext added rfl⟩

/-- To place a creature at random fails only if the draw has no end. -/
theorem settle_eq_error (valid : c.settings.validate = .ok ()) {number : Nat}
    (listed : number < c.roster.size) {fault : Fault}
    (failed : (c.settle number).1 = .error fault) : fault = .endlessDraw := by
  rw [settle] at failed
  cases drawn : drawPlace c.board.grid c.board.coin.generator with
  | error stuck =>
    rw [drawn] at failed
    cases failed
    exact drawPlace_eq_error drawn
  | ok place =>
    obtain ⟨position, direction, g⟩ := place
    obtain ⟨inside, free, below, -⟩ := drawPlace_eq_ok drawn
    obtain ⟨d, rfl⟩ := Direction.exists_index_eq below
    obtain ⟨id, next, added⟩ := add_of_free valid listed g inside free d
    rw [drawn] at failed
    dsimp only at failed
    rw [added] at failed
    cases failed

theorem settleAll_eq_error (valid : c.settings.validate = .ok ()) {numbers : List Nat}
    (listed : ∀ number ∈ numbers, number < c.roster.size) {fault : Fault}
    (failed : (settleAll numbers c).1 = .error fault) : fault = .endlessDraw := by
  induction numbers generalizing c with
  | nil => cases failed
  | cons number rest ih =>
    have first (fault : Fault) (stuck : (c.settle number).1 = .error fault) :=
      settle_eq_error valid (listed number List.mem_cons_self) stuck
    have twin := (settle_settles c number).twin
    rw [settleAll] at failed
    generalize c.settle number = settled at first twin failed
    obtain ⟨result, after⟩ := settled
    cases result with
    | error stuck =>
      cases failed
      exact first _ rfl
    | ok _ =>
      refine ih (c := after) (twin.settings ▸ valid) (fun other later => ?_) failed
      have below := listed other (List.mem_cons_of_mem number later)
      have roster : after.roster = c.roster := twin.roster
      rw [roster]
      exact below

theorem mem_settlers {numbers : List Nat} (settling : c.settlers = .ok numbers) :
    ∀ number ∈ numbers, number < c.roster.size := by
  rw [settlers] at settling
  split at settling
  · cases settling
    exact fun number present => absurd present List.not_mem_nil
  · cases counted : c.settings.count.toCount with
    | error fault =>
      rw [counted] at settling
      cases settling
    | ok count =>
      rw [counted] at settling
      cases settling
      intro number present
      obtain ⟨species, below, same⟩ := List.mem_flatMap.1 present
      rw [List.eq_of_mem_replicate same]
      exact List.mem_range.1 below

theorem settlers_not_refused {fault : Fault} (failed : c.settlers = .error fault) :
    fault.refusesPlacement = false := by
  rw [settlers, Value.toCount] at failed
  split at failed
  · cases failed
  · split at failed
    · cases failed
    · cases failed
      rfl

/-- A reset of a colony with room for all refuses no creature. -/
theorem reset_of_room (valid : c.settings.validate = .ok ())
    (room : ∀ wanted, ¬ c.Overfull wanted) {fault : Fault} (failed : c.reset.1 = .error fault) :
    fault.refusesPlacement = false := by
  rw [reset, inhabit] at failed
  split at failed
  · rw [populate] at failed
    split at failed
    · next stuck crowding =>
      cases failed
      rw [c.bare_cleared.crowding_eq_error valid crowding]
      rfl
    · next wanted crowding => exact absurd (c.bare_cleared.crowding_iff.1 crowding) (room wanted)
    · split at failed
      · next stuck settling =>
        cases failed
        exact settlers_not_refused settling
      · next numbers settling =>
        have settled (fault : Fault) (stuck : (settleAll numbers c.cleared).1 = .error fault) :=
          settleAll_eq_error (c := c.cleared) valid (mem_settlers settling) stuck
        generalize settleAll numbers c.cleared = result at settled failed
        obtain ⟨result, after⟩ := result
        cases result with
        | error stuck =>
          cases failed
          rw [settled _ rfl]
          rfl
        | ok _ => cases failed
  · cases failed

/-! ## Resets of a colony that was populated -/

section Founded

variable {folder : Folder} {settings : Settings} {founding : Founding κ}

/-- A colony that was populated at the founding had room for all. -/
theorem not_overfull_of_created (created : (create folder settings founding).1 = .ok c)
    (populating : founding.populates = true) (wanted : Value) : ¬ c.Overfull wanted := by
  obtain ⟨-, roster, journal, empty, -, founded, done⟩ := create_eq_ok_iff.1 created
  obtain ⟨-, populates, -, bare⟩ := unpopulated_eq_ok founded
  have populated := (inhabit_settles empty).twin
  rw [done] at populated
  have size : c.roster.size = empty.roster.size := congrArg Array.size populated.roster
  intro overfull
  -- The founding ended with creatures in the empty colony, and that would have been refused.
  have refused := bare.inhabit_of_overfull (populates.trans populating)
    ((populated.toKin.overfull_iff size).1 overfull)
  rw [done] at refused
  cases refused

/-- A colony that was populated at the founding, and any operations. If there are now more creatures to
place than squares, a reset tells so, and leaves no creature, no occupied square and no report. With
room for all, whatever else makes a reset fail, it refuses no creature. There is room for all unless a
new species came into the roster. Where the number of creatures of a species is a whole one, there is
room exactly if that many for each species of the roster are no more than the squares. -/
theorem reset_refused [CoinSource κ] (created : (create folder settings founding).1 = .ok c)
    (populating : founding.populates = true) {operations : List Operation} {left : Colony κ}
    (operated : left = (c.performAll operations).2) :
    (∀ wanted, left.Overfull wanted →
      left.reset.1 = .error (.telling (.crowded wanted c.squares) [wanted]) ∧
        left.reset.2.population = 0 ∧ (∀ p, left.reset.2.board.grid.get? p = none) ∧
        left.reset.2.reports = #[]) ∧
    ((∀ wanted, ¬ left.Overfull wanted) → ∀ fault, left.reset.1 = .error fault →
      fault.refusesPlacement = false) ∧
    (left.roster.size = c.roster.size → ∀ wanted, ¬ left.Overfull wanted) ∧
    ∀ n, settings.count.whole? = some n →
      ((∃ wanted, left.Overfull wanted) ↔ (c.squares : Int) < n * left.roster.size) := by
  have reached := Reachable.founded created
  have kin : c.Kin left := by
    rw [operated]
    exact performAll_kin reached.orderly operations
  obtain ⟨valid, settings_eq, populates_eq⟩ := settled_of_created created
  have populates : left.populates = true := (kin.populates.trans populates_eq).trans populating
  have squares : left.squares = c.squares := by
    rw [Colony.squares, Colony.squares, kin.width_eq, kin.height_eq]
  refine ⟨fun wanted overfull => ?_, fun room fault failed => ?_, fun size wanted overfull => ?_, ?_⟩
  · rw [reset_of_overfull populates overfull, squares]
    exact ⟨rfl, rfl, Grid.get?_clear left.board.grid, rfl⟩
  · exact reset_of_room (by rw [kin.settings, settings_eq, valid]) room failed
  · exact not_overfull_of_created created populating wanted ((kin.overfull_iff size).1 overfull)
  · intro n counted
    rw [← squares]
    exact exists_overfull_iff (by rw [kin.settings, settings_eq, counted])

end Founded

/-! ## A cramped colony -/

/-- A world of one square, which asks for two creatures of each species. -/
def cramped : Settings where
  width := .int 1
  height := .int 1
  turnLimit := .int 5
  pause := .int 0
  count := .int 2

/-- A colony on one square that was populated for a roster without species. -/
def crampedSquare : Colony where
  settings := cramped
  roster := #[]
  board :=
    { Board.ofGrid (Grid.ofSize 1 1 Nat.one_pos Nat.one_pos) ⟨.startAt (.int 42) (.number 42), none⟩ with
      journal := #[⟨.info, .simulation, "Placed 0 creatures of 0 species on a 1x1 world"⟩] }
  nextId := 0
  populates := true
  reports := #[]
  sleeps := #[]

def crampedHopper : Colony :=
  (crampedSquare.performAll [.add (.new hopper) (some ⟨0, 0⟩) (.int 1)]).2

theorem crampedSquare_created :
    (create .empty cramped { roster := some [] : Founding }).1 = .ok crampedSquare := rfl

theorem crampedHopper_overfull : crampedHopper.Overfull (.int 2) := ⟨rfl, rfl⟩

/-- There is no room for two hoppers, and the one that was there is lost in a reset. -/
theorem crampedHopper_refused :
    (create .empty cramped { roster := some [] : Founding }).1 = .ok crampedSquare ∧
    crampedHopper.Overfull (.int 2) ∧
    crampedHopper.reset.1 =
      .error (.telling (.crowded (.int 2) crampedSquare.squares) [.int 2]) ∧
    crampedHopper.reset.2.population = 0 := by
  have operated : crampedHopper =
      (crampedSquare.performAll [.add (.new hopper) (some ⟨0, 0⟩) (.int 1)]).2 := rfl
  have refused := (reset_refused crampedSquare_created rfl operated).1 (.int 2)
    crampedHopper_overfull
  exact ⟨crampedSquare_created, crampedHopper_overfull, refused.1, refused.2.1⟩

/-- The colony was populated when it was founded and the hopper was placed, and then a reset finds no
room and leaves the square empty. -/
theorem crampedHopper_emptied :
    (create .empty cramped { roster := some [] : Founding }).1 = .ok crampedSquare ∧
    (crampedSquare.add (.new hopper) (some ⟨0, 0⟩) (.int 1)).1 = .ok 0 ∧
    crampedHopper.population = 1 ∧ crampedHopper.reset.1 = .error (.crowded (.int 2) 1) ∧
    crampedHopper.reset.2.population = 0 := by
  have refused := reset_of_overfull rfl crampedHopper_overfull
  have shown : Fault.telling (.crowded (.int 2) 1) [.int 2] = .crowded (.int 2) 1 := by
    exact Fault.telling_of_told _ (by decide +kernel)
  refine ⟨crampedSquare_created, rfl, rfl, ?_, ?_⟩
  · rw [refused, ← shown]
    rfl
  · rw [refused]
    rfl

end Colony

end Vivarium
