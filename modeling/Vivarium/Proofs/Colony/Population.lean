import Mathlib.Logic.Relation
import Vivarium.Colony.Population

/-!
# How a colony is populated

1. `add_eq`, `add_cases`: what adding a creature comes to.
2. `Settling` lists the few ways in which a colony changes while it is populated, and whatever is done
   to populate it, also when it fails, is a chain of such changes (`populate_settles`).
3. `create_eq_ok_iff`: to found a colony is to reset an empty one.
-/

namespace Vivarium.Colony

variable {κ : Type} {c d : Colony κ}

/-! ## Adding a creature -/

/-- A creature that may be added to a colony. -/
structure Newcomer (c : Colony κ) (d : Creature) : Prop where
  id : d.id = c.nextId
  /-- It is one of a species in the roster. -/
  listed : c.roster[d.lineage.number]? = some d.lineage.species
  inside : c.board.grid.contains d.position = true
  free : c.board.grid.get? d.position = none
  /-- It has the limit that the settings give. -/
  limited : TurnLimit.ofValue c.settings.turnLimit = .ok d.limit
  counter : d.counter = 1
  moves : d.moves = 0
  infections : d.infections = 0
  drawn : d.drawn = true

/-- The creature that a placement makes. -/
theorem creatureFor_eq_ok {σ : Type} {b : Board σ} {p : Board.Placement} {d : Creature}
    (made : b.creatureFor p = .ok d) :
    ∃ lineage position direction limit, p.lineage = some lineage ∧ p.position = some position ∧
      b.grid.contains position = true ∧ b.grid.get? position = none ∧
      TurnLimit.ofValue p.limit = .ok limit ∧ p.direction.toDirection = .ok direction ∧
      d = ⟨p.id, lineage, position, direction, 1, 0, 0, limit, p.drawn⟩ := by
  rw [Board.creatureFor] at made
  split at made
  · next lineage position known asked =>
    split at made
    · cases made
    · next inside =>
      split at made
      · cases made
      · next free =>
        split at made
        · cases made
        · next limit limited =>
          cases turned : p.direction.toDirection with
          | error fault =>
            rw [turned] at made
            cases made
          | ok direction =>
            rw [turned] at made
            cases made
            exact ⟨lineage, position, direction, limit, known, asked, by simpa using inside,
              by simpa using free, limited, rfl, rfl⟩
  · cases made

@[simp]
theorem enlist_board (c : Colony κ) (recruit : Recruit) :
    (c.enlist recruit).2.board = c.board := by
  cases recruit <;> rfl

@[simp]
theorem enlist_settings (c : Colony κ) (recruit : Recruit) :
    (c.enlist recruit).2.settings = c.settings := by
  cases recruit <;> rfl

@[simp]
theorem enlist_nextId (c : Colony κ) (recruit : Recruit) :
    (c.enlist recruit).2.nextId = c.nextId := by
  cases recruit <;> rfl

/-- A recruit that is enlisted is in the roster. -/
theorem enlist_listed {c : Colony κ} {recruit : Recruit} {lineage : Lineage}
    (known : (c.enlist recruit).1 = some lineage) :
    (c.enlist recruit).2.roster[lineage.number]? = some lineage.species := by
  cases recruit with
  | listed number =>
    obtain ⟨species, found, rfl⟩ := Option.map_eq_some_iff.1 known
    exact found
  | new species =>
    cases known
    exact Array.getElem?_push_size

/-- The placement of a creature that is added. -/
def placement (c : Colony κ) (recruit : Recruit) (position : Option Position) (direction : Value) :
    Board.Placement where
  lineage := (c.enlist recruit).1
  position := position
  direction := direction
  limit := c.settings.turnLimit
  id := c.nextId
  drawn := true

/-- Adding a creature goes by what its placement makes. -/
theorem add_eq (c : Colony κ) (recruit : Recruit) (position : Option Position) (direction : Value) :
    c.add recruit position direction =
      match c.board.creatureFor (c.placement recruit position direction) with
      | .error fault => (.error fault, (c.enlist recruit).2)
      | .ok d => (.ok c.nextId,
          { (c.enlist recruit).2 with board := c.board.insert d, nextId := c.nextId + 1 }) := by
  simp only [add, Board.place, enlist_board, enlist_settings, enlist_nextId, placement]
  cases c.board.creatureFor ⟨(c.enlist recruit).1, position, direction, c.settings.turnLimit,
    c.nextId, true⟩ <;> rfl

/-- What a placement makes is a newcomer. -/
theorem newcomer_of_creatureFor {recruit : Recruit} {position : Option Position} {direction : Value}
    {d : Creature} (made : c.board.creatureFor (c.placement recruit position direction) = .ok d) :
    (c.enlist recruit).2.Newcomer d := by
  obtain ⟨lineage, place, turned, limit, known, -, inside, free, limited, -, shape⟩ :=
    creatureFor_eq_ok made
  subst shape
  exact {
    id := by simp [placement]
    listed := enlist_listed known
    inside := by simpa using inside
    free := by simpa using free
    limited := by simpa [placement] using limited
    counter := rfl
    moves := rfl
    infections := rfl
    drawn := rfl }

/-- Adding a creature fails and leaves the colony with the recruit enlisted, or it gives a newcomer
the next number. -/
theorem add_cases (c : Colony κ) (recruit : Recruit) (position : Option Position)
    (direction : Value) :
    (∃ fault, c.add recruit position direction = (.error fault, (c.enlist recruit).2)) ∨
    (∃ d, (c.enlist recruit).2.Newcomer d ∧
      c.add recruit position direction = (.ok (c.enlist recruit).2.nextId,
        { (c.enlist recruit).2 with
          board := (c.enlist recruit).2.board.insert d
          nextId := (c.enlist recruit).2.nextId + 1 })) := by
  rw [add_eq]
  cases made : c.board.creatureFor (c.placement recruit position direction) with
  | error fault => exact .inl ⟨fault, rfl⟩
  | ok d => exact .inr ⟨d, newcomer_of_creatureFor made, by simp⟩

/-! ## Populating -/

/-- A free square is drawn, and the generator goes back to the same start. -/
theorem findFree_eq_ok {grid : Grid Nat} {tries : Nat} {g h : Generator} {position : Position}
    (found : findFree grid tries g = .ok (position, h)) :
    grid.contains position = true ∧ grid.get? position = none ∧ g.SameStart h := by
  induction tries generalizing g with
  | zero => cases found
  | succ tries ih =>
    obtain ⟨⟨x, g₁⟩, drawnX, found⟩ := Fault.exists_of_bind_eq_ok found
    obtain ⟨⟨y, g₂⟩, drawnY, found⟩ := Fault.exists_of_bind_eq_ok found
    obtain ⟨insideX, sameX⟩ := Generator.nextInt_eq_ok drawnX
    obtain ⟨insideY, sameY⟩ := Generator.nextInt_eq_ok drawnY
    dsimp only at found
    split at found
    · next free =>
      cases found
      refine ⟨Grid.contains_iff.2 ⟨?_, insideX, ?_, insideY⟩, Option.isNone_iff_eq_none.1 free, ?_⟩
      · exact Int.natCast_nonneg x
      · exact Int.natCast_nonneg y
      · exact sameX.trans sameY
    · obtain ⟨inside, free, same⟩ := ih found
      exact ⟨inside, free, sameX.trans (sameY.trans same)⟩

theorem drawPlace_eq_ok {grid : Grid Nat} {g h : Generator} {position : Position} {direction : Nat}
    (drawn : drawPlace grid g = .ok (position, direction, h)) :
    grid.contains position = true ∧ grid.get? position = none ∧ direction < 4 ∧ g.SameStart h := by
  obtain ⟨⟨place, g₁⟩, found, drawn⟩ := Fault.exists_of_bind_eq_ok drawn
  obtain ⟨⟨number, g₂⟩, turned, drawn⟩ := Fault.exists_of_bind_eq_ok drawn
  cases drawn
  obtain ⟨inside, free, same⟩ := findFree_eq_ok found
  obtain ⟨below, same'⟩ := Generator.nextInt_eq_ok turned
  exact ⟨inside, free, Int.ofNat_lt.1 below, same.trans same'⟩

/-- The ways in which a colony changes while it is populated. -/
inductive Settling : Colony κ → Colony κ → Prop
  | noted (c : Colony κ) (entry : Journal.Entry) : Settling c (c.note entry)
  /-- Numbers are drawn, and the start stays where it is. -/
  | drew (c : Colony κ) {g : Generator} (same : c.board.coin.generator.SameStart g) :
      Settling c (c.withGenerator g)
  | placed {c : Colony κ} {d : Creature} (newcomer : c.Newcomer d) :
      Settling c { c with board := c.board.insert d, nextId := c.nextId + 1 }

def Settles : Colony κ → Colony κ → Prop := Relation.ReflTransGen Settling

theorem Settles.keeps {P : Colony κ → Prop} (chain : Settles c d)
    (settling : ∀ {c d : Colony κ}, Settling c d → P c → P d) (start : P c) : P d := by
  induction chain with
  | refl => exact start
  | tail _ last ih => exact settling last ih

theorem add_settles (c : Colony κ) (recruit : Recruit) (position : Option Position)
    (direction : Value) :
    Settles (c.enlist recruit).2 (c.add recruit position direction).2 := by
  rcases add_cases c recruit position direction with ⟨fault, added⟩ | ⟨d, newcomer, added⟩
  · rw [added]
    exact .refl
  · rw [added]
    exact .single (.placed newcomer)

theorem settle_settles (c : Colony κ) (number : Nat) : Settles c (c.settle number).2 := by
  rw [settle]
  cases drawn : drawPlace c.board.grid c.board.coin.generator with
  | error fault => exact .refl
  | ok place =>
    obtain ⟨position, direction, g⟩ := place
    have drew : Settles c (c.withGenerator g) := .single (.drew c (drawPlace_eq_ok drawn).2.2.2)
    have added := drew.trans
      (add_settles (c.withGenerator g) (.listed number) (some position) (.int direction))
    dsimp only
    generalize (c.withGenerator g).add (.listed number) (some position) (.int direction) = placed
      at added
    obtain ⟨result, after⟩ := placed
    cases result with
    | error fault => exact added
    | ok id => exact added

theorem settleAll_settles (numbers : List Nat) (c : Colony κ) :
    Settles c (settleAll numbers c).2 := by
  induction numbers generalizing c with
  | nil => exact .refl
  | cons number rest ih =>
    have first := settle_settles c number
    rw [settleAll]
    generalize c.settle number = settled at first
    obtain ⟨result, after⟩ := settled
    cases result with
    | error fault => exact first
    | ok _ => exact first.trans (ih after)

/-- Whatever is done to populate a colony, also when it fails, is a chain of such changes. -/
theorem populate_settles (c : Colony κ) : Settles c c.populate.2 := by
  rw [populate]
  split
  · exact .refl
  · exact .single (.noted c _)
  · split
    · exact .refl
    · next numbers _ =>
      have settled := settleAll_settles numbers c
      generalize settleAll numbers c = result at settled
      obtain ⟨result, after⟩ := result
      cases result with
      | error fault => exact settled
      | ok _ => exact settled.tail (.noted _ _)

theorem inhabit_settles (c : Colony κ) : Settles c c.inhabit.2 := by
  rw [inhabit]
  split
  · exact populate_settles c
  · exact .refl

/-! ## Founding -/

section Founding

variable {folder : Folder} {settings : Settings} {founding : Founding κ} {roster : List Species}
  {journal : Array Journal.Entry}

/-- A colony in which nobody lives and nothing has been done. -/
structure Bare (c : Colony κ) : Prop where
  creatures : c.board.creatures = #[]
  grid : c.board.grid.clear = c.board.grid
  nextId : c.nextId = 0
  unreported : c.reports = #[]

theorem bare_cleared (c : Colony κ) : c.cleared.Bare :=
  ⟨rfl, Grid.clear_clear _, rfl, rfl⟩

/-- What an empty colony is made of. -/
theorem made_of_unpopulated (founded : unpopulated settings founding roster journal = .ok c) :
    ∃ generator grid, generatorOf settings founding = .ok generator ∧
      Grid.ofValues settings.width settings.height = .ok grid ∧
      c = {
        settings := settings
        roster := roster.toArray
        board := { Board.ofGrid grid ⟨generator, founding.script⟩ with journal := journal }
        nextId := 0
        populates := founding.populates
        reports := #[]
        sleeps := #[] } := by
  obtain ⟨generator, seeded, founded⟩ := Fault.exists_of_bind_eq_ok founded
  obtain ⟨grid, made, founded⟩ := Fault.exists_of_bind_eq_ok founded
  exact ⟨generator, grid, seeded, made, (Except.ok.inj founded).symm⟩

/-- An empty colony has the settings, and nobody lives in it. -/
theorem unpopulated_eq_ok (founded : unpopulated settings founding roster journal = .ok c) :
    c.settings = settings ∧ c.populates = founding.populates ∧ c.board.journal = journal ∧ c.Bare := by
  obtain ⟨generator, grid, seeded, made, rfl⟩ := made_of_unpopulated founded
  exact ⟨rfl, rfl, rfl, rfl, Grid.clear_ofValues made, rfl, rfl⟩

/-- The settings of a colony that can be founded without creatures pass the checks if they are valid. -/
theorem checkFounding_of_unpopulated (valid : settings.validate = .ok ())
    (founded : unpopulated settings founding roster journal = .ok c) :
    checkFounding settings founding = .ok () := by
  obtain ⟨generator, -, seeded, -⟩ := made_of_unpopulated founded
  rw [checkFounding, valid, seeded]
  rfl

theorem valid_of_checkFounding (checked : checkFounding settings founding = .ok ()) :
    settings.validate = .ok () := by
  obtain ⟨_, valid, -⟩ := Fault.exists_of_bind_eq_ok checked
  exact valid

/-- What founding comes to with settings that are valid, once the empty colony is there. -/
theorem create_of_unpopulated (valid : settings.validate = .ok ())
    (known : rosterOf folder settings founding = (.ok roster, journal))
    (founded : unpopulated settings founding roster journal = .ok c) :
    (create folder settings founding).1 = c.inhabit.1.map fun _ => c.inhabit.2 := by
  simp only [create, checkFounding_of_unpopulated valid founded, known, founded]
  cases c.inhabit with
  | mk result after => cases result <;> rfl

/-- To found a colony is to check the settings, and to place creatures in an empty one. -/
theorem create_eq_ok_iff :
    (create folder settings founding).1 = .ok c ↔
      settings.validate = .ok () ∧ ∃ roster journal empty,
        rosterOf folder settings founding = (.ok roster, journal) ∧
        unpopulated settings founding roster journal = .ok empty ∧ empty.inhabit = (.ok (), c) := by
  constructor
  · intro created
    rw [create] at created
    split at created
    · cases created
    · next checked =>
      split at created
      · cases created
      · next roster journal known =>
        split at created
        · cases created
        · next empty founded =>
          refine ⟨valid_of_checkFounding checked, roster, journal, empty, known, founded, ?_⟩
          split at created
          · next inhabited =>
            cases created
            exact inhabited
          · cases created
  · rintro ⟨valid, roster, journal, empty, known, founded, done⟩
    rw [create_of_unpopulated valid known founded, done]
    rfl

end Founding

end Vivarium.Colony
