import Vivarium.Proofs.Colony.Lots
import Vivarium.Proofs.Grid
import Vivarium.Proofs.Species.Bundled

/-!
# Checked settings give the population they ask for

The settings are checked against the number of species that they ask for. Room is looked at once more
when a colony is populated, against the species that were loaded and the squares that are free.

1. `Settings.Whole.room`: what the checks come to for settings with whole numbers.
2. `allots_of_settleAll`: creatures that are placed at random are placed by lot.
3. `Vacant.next_placed`: in an empty colony with room for all, each of them finds a free square.
4. `populated_of_valid`: a colony that is founded from checked settings is populated as they ask.
-/

namespace Vivarium

/-! ## Settings with whole numbers -/

namespace Settings

/-- The numbers of columns, of rows, and of creatures of each species are whole ones. -/
structure Whole (s : Settings) (columns rows count : Int) : Prop where
  width : s.width.whole? = some columns
  height : s.height.whole? = some rows
  count : s.count.whole? = some count

/-- There is a square, and there are no more creatures to place than squares. -/
theorem Whole.room {s : Settings} {columns rows count : Int} (whole : s.Whole columns rows count)
    (valid : s.validate = .ok ()) :
    0 < columns ∧ 0 < rows ∧ 0 ≤ count ∧ count * s.speciesFiles.length ≤ columns * rows := by
  have rules := validate_eq_ok_iff_valid.1 valid
  exact ⟨(Value.le_zero_iff whole.width).1 rules.width, (Value.le_zero_iff whole.height).1 rules.height,
    (Value.lt_zero_iff whole.count).1 rules.count,
    (room_iff whole.width whole.height whole.count).1 rules.room⟩

end Settings

namespace Colony

variable {κ : Type} {start c last : Colony κ} {done numbers : List Nat} {fault : Fault}

/-! ## Draws -/

/-- What a creature is placed with at random, is a lot. -/
theorem settle_eq_ok {number : Nat} (settled : c.settle number = (.ok (), last)) :
    ∃ lot, Allots [number] [lot] c last := by
  rw [settle] at settled
  cases drawn : drawPlace c.board.grid c.board.coin.generator with
  | error stuck =>
    rw [drawn] at settled
    cases settled
  | ok place =>
    obtain ⟨position, direction, g⟩ := place
    obtain ⟨inside, free, below, -⟩ := drawPlace_eq_ok drawn
    obtain ⟨d, rfl⟩ := Direction.exists_index_eq below
    rw [drawn] at settled
    dsimp only at settled
    cases added : (c.withGenerator g).add (.listed number) (some position) (.int d.index) with
    | mk result after =>
      rw [added] at settled
      cases result with
      | error fault => cases settled
      | ok id =>
        cases settled
        exact ⟨⟨position, d⟩, .lot inside free added (.none _)⟩

theorem Allots.append {lots lots' : List Lot} {numbers' : List Nat} {mid : Colony κ}
    (first : Allots numbers lots c mid) (second : Allots numbers' lots' mid last) :
    Allots (numbers ++ numbers') (lots ++ lots') c last := by
  induction first with
  | none => exact second
  | lot inside free added _ ih => exact .lot inside free added (ih second)

/-- Creatures that are placed at random are placed by lot. -/
theorem allots_of_settleAll (settled : settleAll numbers c = (.ok (), last)) :
    ∃ lots, Allots numbers lots c last := by
  induction numbers generalizing c with
  | nil =>
    cases settled
    exact ⟨[], .none _⟩
  | cons number rest ih =>
    rw [settleAll] at settled
    cases first : c.settle number with
    | mk result after =>
      rw [first] at settled
      cases result with
      | error fault => cases settled
      | ok _ =>
        obtain ⟨lot, placed⟩ := settle_eq_ok first
        obtain ⟨lots, more⟩ := ih settled
        exact ⟨lot :: lots, placed.append more⟩

/-! ## Empty colonies with room for all -/

/-- An empty colony with checked settings, which ask for so many creatures of each species, and with
room for them. -/
structure Vacant (start : Colony κ) (species : List Species) (count : Nat) : Prop where
  bare : start.Bare
  valid : start.settings.validate = .ok ()
  roster : start.roster = species.toArray
  counted : start.settings.count.whole? = some (count : Int)
  room : species.length * count ≤ start.squares

namespace Vacant

variable {species : List Species} {count : Nat}

theorem size_roster (vacant : start.Vacant species count) : start.roster.size = species.length := by
  rw [vacant.roster, List.size_toArray]

/-- There are not too many creatures to place. -/
theorem crowding_eq (vacant : start.Vacant species count) :
    start.crowding = .ok (.int (count * species.length), false) := by
  have compared : (Value.int (count * species.length)).gt (.int start.squares) = .ok false := by
    rw [Value.gt_of_whole rfl rfl, decide_eq_false]
    have room := vacant.room
    rw [Nat.mul_comm] at room
    exact_mod_cast Nat.not_lt.2 room
  rw [vacant.bare.crowding_eq, vacant.size_roster, Value.mul_of_whole vacant.counted rfl]
  show ((Value.int (count * species.length)).gt (.int start.squares) >>= fun more => .ok (_, more)) = _
  rw [compared]
  rfl

theorem settlers_eq (vacant : start.Vacant species count) :
    start.settlers = .ok (quota species.length count) := by
  rw [settlers, Value.toCount, vacant.counted, vacant.size_roster]
  split
  · next none =>
    have length : species.length = 0 := by
      rw [← vacant.size_roster]
      exact Array.isEmpty_iff_size_eq_zero.1 none
    rw [length]
    rfl
  · rfl

/-- The creatures are placed one after the other. -/
theorem populate_eq (vacant : start.Vacant species count) : start.populate =
    match settleAll (quota species.length count) start with
    | (.error fault, after) => (.error fault, after)
    | (.ok _, after) => (.ok (), after.note after.placedEntry) := by
  have settling := vacant.settlers_eq
  rw [populate, vacant.crowding_eq]
  generalize start.settlers = asked at settling ⊢
  cases settling
  rfl

theorem listed (vacant : start.Vacant species count) :
    ∀ number ∈ quota species.length count, number < start.roster.size := by
  intro number asked
  rw [vacant.size_roster]
  exact lt_of_mem_quota asked

/-- Only the draws can fail. -/
theorem populate_eq_error (vacant : start.Vacant species count)
    (failed : start.populate = (.error fault, last)) : fault = .endlessDraw := by
  rw [vacant.populate_eq] at failed
  cases settled : settleAll (quota species.length count) start with
  | mk result after =>
    rw [settled] at failed
    cases result with
    | error stuck =>
      cases failed
      exact settleAll_eq_error vacant.valid vacant.listed (congrArg Prod.fst settled)
    | ok _ => cases failed

variable [CoinSource κ]

theorem populated (vacant : start.Vacant species count) {lots : List Lot}
    (allots : Allots (quota species.length count) lots start c) : c.Populated species count :=
  (allots.allotted (.none vacant.bare)).populated vacant.roster

/-- Whatever the lots were for those who came before, there is a square for the next one, and any free
square will do. -/
theorem next_placed (vacant : start.Vacant species count) {number : Nat} {rest : List Nat}
    (split : quota species.length count = done ++ number :: rest) {lots : List Lot}
    (allots : Allots done lots start c) :
    (∃ p, c.board.grid.contains p = true ∧ c.board.grid.get? p = none) ∧
      ∀ g p (d : Direction), c.board.grid.contains p = true → c.board.grid.get? p = none →
        ∃ id next, (c.withGenerator g).add (.listed number) (some p) (.int d.index) = (.ok id, next) := by
  have allotted : Allotted start done c := allots.allotted (.none vacant.bare)
  have listed := vacant.listed number (by rw [split]; simp)
  refine ⟨allotted.exists_free ?_, fun g p d inside free =>
    allotted.accepts vacant.valid listed g inside free d⟩
  have length := congrArg List.length split
  rw [length_quota, List.length_append, List.length_cons] at length
  have room := vacant.room
  omega

theorem populate_eq_ok (vacant : start.Vacant species count)
    (done : start.populate = (.ok (), last)) : last.Populated species count := by
  rw [vacant.populate_eq] at done
  cases settled : settleAll (quota species.length count) start with
  | mk result after =>
    rw [settled] at done
    cases result with
    | error fault => cases done
    | ok _ =>
      cases done
      obtain ⟨lots, allots⟩ := allots_of_settleAll settled
      have allotted : Allotted start (quota species.length count) after :=
        allots.allotted (.none vacant.bare)
      exact (allotted.note _).populated vacant.roster

end Vacant

/-! ## Founding -/

section Founding

variable {folder : Folder} {settings : Settings} {founding : Founding κ} {roster : List Species}
  {journal : Array Journal.Entry} {columns rows count : Int}

/-- The species are loaded one after the other. What the journal tells of a fault is left open. -/
theorem loadRoster_cons (folder : Folder) (name : String) (rest : List String)
    (journal : Array Journal.Entry) : ∃ told : Fault → Array Journal.Entry,
    loadRoster folder (name :: rest) journal =
      match Species.load folder name with
      | .error fault => (.error fault, told fault)
      | .ok (species, home) =>
        match loadRoster folder rest (journal ++ (Species.loaded species home).toArray) with
        | (.ok more, after) => (.ok (species :: more), after)
        | (.error fault, after) => (.error fault, after) :=
  ⟨_, rfl⟩

theorem loadRoster_of_ok {name : String} {rest : List String} {before : Array Journal.Entry}
    {species : Species} {home : Species.Home} (first : Species.load folder name = .ok (species, home))
    (more : loadRoster folder rest (before ++ (Species.loaded species home).toArray) =
      (.ok roster, journal)) :
    loadRoster folder (name :: rest) before = (.ok (species :: roster), journal) := by
  obtain ⟨told, loads⟩ := loadRoster_cons folder name rest before
  rw [loads, first]
  simp only [more]

/-- As many species are loaded as are asked for. -/
theorem length_of_loadRoster {asked : List String} {before : Array Journal.Entry}
    (loads : loadRoster folder asked before = (.ok roster, journal)) : roster.length = asked.length := by
  induction asked generalizing before roster with
  | nil =>
    cases loads
    rfl
  | cons name rest ih =>
    obtain ⟨told, unfolded⟩ := loadRoster_cons folder name rest before
    rw [unfolded] at loads
    cases first : Species.load folder name with
    | error fault =>
      rw [first] at loads
      cases loads
    | ok found =>
      rw [first] at loads
      dsimp only at loads
      cases more : loadRoster folder rest (before ++ (Species.loaded found.1 found.2).toArray) with
      | mk result after =>
        rw [more] at loads
        cases result with
        | error fault => cases loads
        | ok others =>
          cases loads
          rw [List.length_cons, List.length_cons, ih more]

theorem unpopulated_eq_error (whole : settings.Whole columns rows count)
    (valid : settings.validate = .ok ()) {fault : Fault}
    (failed : unpopulated settings founding roster journal = .error fault) :
    generatorOf settings founding = .error fault ∨ fault = .uncountable ∨ fault = .noRoom := by
  obtain ⟨left, low, -⟩ := whole.room valid
  rcases Fault.cases_of_bind_eq_error failed with refused | ⟨generator, -, failed⟩
  · exact .inl refused
  right
  rcases Fault.cases_of_bind_eq_error failed with failed | ⟨grid, -, failed⟩
  · rw [Grid.ofValues_of_whole whole.width whole.height left low] at failed
    cases checked : Grid.checkRoom columns rows with
    | error stuck =>
      rw [checked] at failed
      cases failed
      exact Grid.checkRoom_eq_error checked
    | ok _ =>
      rw [checked] at failed
      cases failed
  · cases failed

/-- The empty colony has as many squares as its settings say, and room for all. -/
theorem vacant_of_unpopulated (whole : settings.Whole columns rows count)
    (valid : settings.validate = .ok ()) (loaded : roster.length = settings.speciesFiles.length)
    (founded : unpopulated settings founding roster journal = .ok start) :
    start.Vacant roster count.toNat ∧ (start.board.grid.width : Int) = columns ∧
      (start.board.grid.height : Int) = rows := by
  obtain ⟨left, low, nonneg, room⟩ := whole.room valid
  obtain ⟨same, -, -, bare⟩ := unpopulated_eq_ok founded
  obtain ⟨generator, grid, -, made, rfl⟩ := made_of_unpopulated founded
  have size : (grid.width : Int) = columns ∧ (grid.height : Int) = rows := by
    rw [Grid.ofValues_of_whole whole.width whole.height left low] at made
    cases checked : Grid.checkRoom columns rows with
    | error stuck =>
      rw [checked] at made
      cases made
    | ok _ =>
      rw [checked] at made
      cases made
      exact ⟨Int.toNat_of_nonneg (Int.le_of_lt left), Int.toNat_of_nonneg (Int.le_of_lt low)⟩
  refine ⟨⟨bare, valid, rfl, ?_, ?_⟩, size⟩
  · rw [whole.count, Int.toNat_of_nonneg nonneg]
  · show roster.length * count.toNat ≤ grid.width * grid.height
    rw [← size.1, ← size.2, ← loaded, ← Int.toNat_of_nonneg nonneg, Int.mul_comm] at room
    exact_mod_cast room

/-- Once the species were loaded, the empty colony is made and populated. -/
theorem create_of_loads (valid : settings.validate = .ok ())
    (loads : loadRoster folder settings.speciesFiles #[] = (.ok roster, journal))
    (asked : founding.roster = none) (populating : founding.populates = true) :
    (create folder settings founding).1 =
      match (unpopulated settings founding roster journal : Except Fault (Colony κ)) with
      | .error fault => .error fault
      | .ok empty =>
        match empty.populate with
        | (.ok _, after) => .ok after
        | (.error fault, _) => .error fault := by
  have known : rosterOf folder settings founding = (.ok roster, journal) := by
    rw [rosterOf, asked]
    exact loads
  cases founded : (unpopulated settings founding roster journal : Except Fault (Colony κ)) with
  | error fault =>
    -- The seed is looked at together with the settings, before the species are loaded.
    rw [create, checkFounding, valid]
    rcases Fault.cases_of_bind_eq_error founded with refused | ⟨generator, seeded, -⟩
    · rw [refused]
      rfl
    · rw [seeded]
      dsimp only [bind, Except.bind, pure, Except.pure]
      rw [known]
      dsimp only
      rw [founded]
  | ok empty =>
    have populates : empty.populates = true := (unpopulated_eq_ok founded).2.1.trans populating
    rw [create_of_unpopulated valid known founded, inhabit, if_pos populates]
    dsimp only
    cases empty.populate with
    | mk result after => cases result <;> rfl

/-- If the colony is founded, it is populated as the settings ask. -/
theorem populated_of_created [CoinSource κ] (valid : settings.validate = .ok ())
    (whole : settings.Whole columns rows count)
    (loads : loadRoster folder settings.speciesFiles #[] = (.ok roster, journal))
    (asked : founding.roster = none) (populating : founding.populates = true)
    (created : (create folder settings founding).1 = .ok c) :
    c.Populated roster count.toNat ∧ (c.board.grid.width : Int) = columns ∧
      (c.board.grid.height : Int) = rows := by
  rw [create_of_loads valid loads asked populating] at created
  cases founded : (unpopulated settings founding roster journal : Except Fault (Colony κ)) with
  | error fault =>
    rw [founded] at created
    cases created
  | ok empty =>
    obtain ⟨vacant, width, height⟩ :=
      vacant_of_unpopulated whole valid (length_of_loadRoster loads) founded
    have twin := (populate_settles empty).twin
    rw [founded] at created
    dsimp only at created
    cases populated : empty.populate with
    | mk result after =>
      rw [populated] at created twin
      cases result with
      | error fault => cases created
      | ok _ =>
        cases created
        exact ⟨vacant.populate_eq_ok populated, by rw [twin.width_eq, width],
          by rw [twin.height_eq, height]⟩

/-- If the colony cannot be founded, its grid is too large or a draw has no end. -/
theorem create_eq_error (valid : settings.validate = .ok ())
    (whole : settings.Whole columns rows count)
    (loads : loadRoster folder settings.speciesFiles #[] = (.ok roster, journal))
    (asked : founding.roster = none) (populating : founding.populates = true)
    (failed : (create folder settings founding).1 = .error fault) :
    generatorOf settings founding = .error fault ∨
      fault = .uncountable ∨ fault = .noRoom ∨ fault = .endlessDraw := by
  rw [create_of_loads valid loads asked populating] at failed
  cases founded : (unpopulated settings founding roster journal : Except Fault (Colony κ)) with
  | error stuck =>
    rw [founded] at failed
    cases failed
    exact (unpopulated_eq_error whole valid founded).imp_right (Or.imp_right .inl)
  | ok empty =>
    obtain ⟨vacant, -⟩ := vacant_of_unpopulated whole valid (length_of_loadRoster loads) founded
    rw [founded] at failed
    dsimp only at failed
    cases populated : empty.populate with
    | mk result after =>
      rw [populated] at failed
      cases result with
      | error stuck =>
        cases failed
        exact .inr (.inr (.inr (vacant.populate_eq_error populated)))
      | ok _ => cases failed

/-- Settings that were checked, with whole numbers for the columns, the rows and the creatures of each
species, and species that are all loaded. A colony that is founded from them is populated as they ask.
If it cannot be founded, its seed is none for a generator, its grid is too large, or a draw of the
generator has no end: no creature is refused, and there is room for all.

The creatures are placed one after the other, and what is drawn for them are lots. Whatever lots are
drawn, when it is the turn of a creature, a square is free, and the creature can be placed on any free
square. When all have been placed, the colony is populated as the settings ask. -/
theorem populated_of_valid [CoinSource κ] (valid : settings.validate = .ok ())
    (whole : settings.Whole columns rows count)
    (loads : loadRoster folder settings.speciesFiles #[] = (.ok roster, journal))
    (asked : founding.roster = none) (populating : founding.populates = true) :
    (∀ c, (create folder settings founding).1 = .ok c → c.Populated roster count.toNat ∧
      (c.board.grid.width : Int) = columns ∧ (c.board.grid.height : Int) = rows) ∧
    (∀ fault, (create folder settings founding).1 = .error fault →
      generatorOf settings founding = .error fault ∨
        fault = .uncountable ∨ fault = .noRoom ∨ fault = .endlessDraw) ∧
    ∀ empty, unpopulated settings founding roster journal = .ok empty →
      empty.settlers = .ok (quota roster.length count.toNat) ∧
      (∀ done c, settleAll done empty = (.ok (), c) → ∃ lots, Allots done lots empty c) ∧
      (∀ done number rest, quota roster.length count.toNat = done ++ number :: rest →
        ∀ lots c, Allots done lots empty c →
          (∃ p, c.board.grid.contains p = true ∧ c.board.grid.get? p = none) ∧
          ∀ g p (d : Direction), c.board.grid.contains p = true → c.board.grid.get? p = none →
            ∃ id next,
              (c.withGenerator g).add (.listed number) (some p) (.int d.index) = (.ok id, next)) ∧
      ∀ lots c, Allots (quota roster.length count.toNat) lots empty c →
        c.Populated roster count.toNat := by
  refine ⟨fun c created => populated_of_created valid whole loads asked populating created,
    fun fault failed => create_eq_error valid whole loads asked populating failed,
    fun empty founded => ?_⟩
  obtain ⟨vacant, -⟩ := vacant_of_unpopulated whole valid (length_of_loadRoster loads) founded
  refine ⟨vacant.settlers_eq, fun done c settled => allots_of_settleAll settled, ?_, ?_⟩
  · intro done number rest split lots c allots
    exact vacant.next_placed split allots
  · intro lots c allots
    exact vacant.populated allots

end Founding

/-! ## A lane for rovers -/

/-- The lane, for one creature of each of two species, which are both loaded as rovers. -/
def roverSettings : Settings :=
  { lane with count := .int 1, speciesFiles := ["Rover", "Rover"] }

/-- A rover in each of the outer squares of the lane, drawn from the right one on. -/
def roverLots : List Lot := [⟨⟨2, 0⟩, .west⟩, ⟨⟨0, 0⟩, .east⟩]

/-- The lane can be founded with two rovers, one of each species. With these lots they would be in its
outer squares. -/
theorem rovers_populated :
    roverSettings.validate = .ok () ∧ roverSettings.Whole 3 1 1 ∧
    (∃ c : Colony, (create .empty roverSettings {}).1 = .ok c ∧ c.population = 2 ∧
      c.Populated [Species.rover, Species.rover] 1 ∧ (c.board.grid.width : Int) = 3) ∧
    ∃ journal empty last,
      loadRoster .empty roverSettings.speciesFiles #[] = (.ok [Species.rover, Species.rover], journal) ∧
      unpopulated roverSettings {} [Species.rover, Species.rover] journal =
        (.ok empty : Except Fault Colony) ∧
      Allots (quota 2 1) roverLots empty last ∧ last.Populated [Species.rover, Species.rover] 1 := by
  have valid : roverSettings.validate = .ok () := rfl
  have whole : roverSettings.Whole 3 1 1 := ⟨rfl, rfl, rfl⟩
  have loads : ∃ journal, loadRoster .empty roverSettings.speciesFiles #[] =
      (.ok [Species.rover, Species.rover], journal) :=
    ⟨_, loadRoster_of_ok Species.load_rover (loadRoster_of_ok Species.load_rover rfl)⟩
  obtain ⟨journal, loads⟩ := loads
  obtain ⟨empty, founded⟩ : ∃ empty, unpopulated roverSettings {} [Species.rover, Species.rover]
    journal = (.ok empty : Except Fault Colony) := ⟨_, rfl⟩
  have allots : ∃ last, Allots (quota 2 1) roverLots empty last := by
    cases founded
    have g : Generator := .startAt (.int 0) (.number 0)
    exact ⟨_, .lot (g := g) rfl rfl rfl (.lot (g := g) rfl rfl rfl (.none _))⟩
  obtain ⟨last, allots⟩ := allots
  obtain ⟨created, -, drawn⟩ :=
    populated_of_valid valid whole loads (rfl : ({} : Founding).roster = none) rfl
  obtain ⟨-, -, -, populated⟩ := drawn empty founded
  refine ⟨valid, whole, ?_, journal, empty, last, loads, founded, allots,
    populated roverLots last allots⟩
  have pair : (create .empty roverSettings {} : Except Fault Colony × _).1.toOption.map population =
      some 2 := by
    decide +kernel
  obtain ⟨c, made, two⟩ := Fault.exists_of_toOption_map pair
  obtain ⟨peopled, width, -⟩ := created c made
  exact ⟨c, made, two, peopled, width⟩

end Colony

end Vivarium
