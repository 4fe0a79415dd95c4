import Vivarium.Proofs.Colony.Founding
import Vivarium.Proofs.Colony.Logs

/-!
# A reset is a fresh start

As long as no new species comes into the roster, a reset leaves a colony as if it had just been
founded, whatever has become of it before. With a seed it is as at first. Without one it is as it
would be if it were founded then, by what comes from outside then.

1. `exists_unpopulated`: an emptied colony is in the state of one that is founded anew, still empty.
2. `Settles.newly`: a creature that was just placed begins its program and has done nothing yet.
3. `reset_of_lasting`: a reset succeeds where founding does not depend on luck.
4. `reset_fresh`: a colony after a reset is in the state of one that is founded with its roster, and
   no operations tell them apart.
-/

namespace Vivarium.Colony

variable {κ : Type} {c d : Colony κ} {folder : Folder} {settings : Settings} {founding : Founding κ}
  {roster : List Species} {journal : Array Journal.Entry}

/-! ## Founding anew -/

/-- The founding that finds less from outside: some of it was used. -/
def Founding.after (founding : Founding κ) (k : Nat) : Founding κ :=
  { founding with entropy := founding.entropy.after k }

section Alike

variable (founding) {other : Entropy}
  (alike : founding.entropy.Alike other (founding.seed.getD settings.seed))

include alike

theorem generatorOf_of_alike :
    generatorOf settings { founding with entropy := other } = generatorOf settings founding :=
  congrArg (Except.map _) (Origin.ofValue_of_alike alike)

theorem unpopulated_of_alike :
    unpopulated settings { founding with entropy := other } roster journal =
      unpopulated settings founding roster journal :=
  congrArg (· >>= _) (generatorOf_of_alike founding alike)

theorem create_of_alike :
    create folder settings { founding with entropy := other } = create folder settings founding := by
  have known : rosterOf folder settings { founding with entropy := other } =
      rosterOf folder settings founding := rfl
  rw [create, create, checkFounding, checkFounding, generatorOf_of_alike founding alike, known]
  simp only [unpopulated_of_alike founding alike]

end Alike

/-- What is left when a twin of an empty colony is emptied is an empty colony that is founded anew, in
which no account is kept of before. -/
theorem exists_unpopulated (founded : unpopulated settings founding roster journal = .ok c)
    (unscripted : founding.script = none) (twin : c.Twin d) :
    ∃ k, ∀ journal, ∃ empty, unpopulated settings (founding.after k) roster journal = .ok empty ∧
      empty.SameState d.cleared := by
  obtain ⟨generator, grid, seeded, made, rfl⟩ := made_of_unpopulated founded
  obtain ⟨origin, rfl, later⟩ := Generator.exists_origin seeded
  obtain ⟨k, since⟩ := twin.origin
  refine ⟨1 + k, fun journal => ?_⟩
  have seeded' : generatorOf settings (founding.after (1 + k)) =
      .ok (.startAt (founding.seed.getD settings.seed) (origin.after (1 + k))) := later (1 + k)
  rw [unpopulated, seeded', made]
  refine ⟨_, rfl, twin.settings, twin.roster, ?_, rfl, ?_, rfl, twin.populates, rfl⟩
  · exact twin.squares.trans (Grid.clear_ofValues made)
  · have start : d.board.coin.generator.reset =
        .startAt (founding.seed.getD settings.seed) (origin.after (1 + k)) := by
      rw [Generator.reset, twin.seed, since]
      show Generator.startAt _ ((Generator.startAt _ origin).origin.after k) = _
      rw [Generator.origin_startAt, Origin.after_after]
      rfl
    have alone := twin.unscripted unscripted
    show Dice.mk d.board.coin.generator.reset d.board.coin.script = Dice.mk _ founding.script
    rw [start, alone, unscripted]

/-! ## What a reset leaves -/

/-- Colonies in the same state are populated alike. -/
theorem SameState.inhabit [CoinSource κ] (same : c.SameState d) :
    d.inhabit.1 = c.inhabit.1 ∧ c.inhabit.2.SameState d.inhabit.2 := by
  obtain ⟨e, past, past', rfl, rfl⟩ := same.exists_recalling
  have first : (e.recalling past).inhabit = _ := (givenPast past).inhabit (c := e) trivial
  have second : (e.recalling past').inhabit = _ := (givenPast past').inhabit (c := e) trivial
  rw [first, second]
  exact ⟨rfl, (sameState_recalling _ past).symm.trans (sameState_recalling _ past')⟩

/-- A reset comes to what a founding comes to. -/
theorem reset_of_twin [CoinSource κ] (founded : unpopulated settings founding roster journal = .ok c)
    (unscripted : founding.script = none) (twin : c.Twin d) :
    ∃ k, ∀ journal, ∃ empty, unpopulated settings (founding.after k) roster journal = .ok empty ∧
      d.reset.1 = empty.inhabit.1 ∧ empty.inhabit.2.SameState d.reset.2 := by
  obtain ⟨k, anew⟩ := exists_unpopulated founded unscripted twin
  refine ⟨k, fun journal => ?_⟩
  obtain ⟨empty, founded', same⟩ := anew journal
  exact ⟨empty, founded', same.inhabit⟩

/-- Founding does not depend on luck: where there is no seed, creatures can be placed by whatever comes
from outside next. -/
def Lasting (folder : Folder) (settings : Settings) (founding : Founding κ) : Prop :=
  founding.seed.getD settings.seed = .null →
    ∀ k, (create folder settings (founding.after k)).1.isOk = true

theorem lasting_of_seed (given : founding.seed.getD settings.seed ≠ .null) :
    Lasting folder settings founding := fun none => absurd none given

/-- A twin of a founded colony is reset without a fault. With a seed it is then in the state of that
colony at its founding. -/
theorem reset_of_lasting [CoinSource κ] (created : (create folder settings founding).1 = .ok c)
    (unscripted : founding.script = none) (lasting : Lasting folder settings founding)
    (twin : c.Twin d) :
    d.reset.1 = .ok () ∧
      (founding.seed.getD settings.seed ≠ .null → c.SameState d.reset.2) := by
  obtain ⟨valid, roster, journal, empty, known, founded, done⟩ := create_eq_ok_iff.1 created
  have populated := (inhabit_settles empty).twin
  rw [done] at populated
  obtain ⟨k, anew⟩ := reset_of_twin founded unscripted (populated.trans twin)
  obtain ⟨again, founded', ended, state⟩ := anew journal
  by_cases given : founding.seed.getD settings.seed = .null
  · have succeeded := lasting given k
    have known' : rosterOf folder settings (founding.after k) = (.ok roster, journal) := known
    rw [create_of_unpopulated valid known' founded'] at succeeded
    refine ⟨?_, fun seed => absurd given seed⟩
    rw [ended]
    generalize again.inhabit.1 = result at succeeded
    cases result with
    | error fault => cases succeeded
    | ok _ => rfl
  · have same : unpopulated settings (founding.after k) roster journal =
        unpopulated settings founding roster journal :=
      unpopulated_of_alike founding (founding.entropy.alike_after given k)
    cases founded.symm.trans (same.symm.trans founded')
    rw [done] at ended state
    exact ⟨ended, fun _ => state⟩

/-! ## Colonies that were just populated -/

/-- A colony in which no round was played and no creature has done anything yet. -/
structure Newly (c : Colony κ) : Prop where
  untouched : ∀ d ∈ c.board.creatures, d.counter = 1 ∧ d.moves = 0 ∧ d.infections = 0
  unreported : c.reports = #[]

theorem Settles.newly (chain : Settles c d) (newly : c.Newly) : d.Newly := by
  refine chain.keeps (P := Newly) ?_ newly
  intro c d settling newly
  cases settling with
  | noted | drew => exact ⟨newly.untouched, newly.unreported⟩
  | @placed e newcomer =>
    refine ⟨fun d present => ?_, newly.unreported⟩
    have pushed : (c.board.insert e).creatures = c.board.creatures.push e := by
      rw [Board.insert, Board.draw_eq]
    rw [pushed] at present
    rcases Array.mem_push.1 present with old | rfl
    · exact newly.untouched d old
    · exact ⟨newcomer.counter, newcomer.moves, newcomer.infections⟩

theorem Bare.inhabit_newly (bare : c.Bare) : c.inhabit.2.Newly := by
  refine (inhabit_settles c).newly ⟨fun d present => ?_, bare.unreported⟩
  rw [bare.creatures] at present
  exact absurd present (Array.not_mem_empty d)

theorem reset_newly (c : Colony κ) : c.reset.2.Newly := c.bare_cleared.inhabit_newly

/-! ## A fresh start -/

/-- A colony that was just founded, and one that cannot be told from it: whatever is done to both has the
same answers, leaves them in the same state and shows the same pictures. -/
structure Renews [CoinSource κ] (fresh d : Colony κ) : Prop where
  newly : fresh.Newly
  state : fresh.SameState d
  later : ∀ operations, (d.performAll operations).1 = (fresh.performAll operations).1 ∧
    (fresh.performAll operations).2.SameState (d.performAll operations).2 ∧
    ∀ round, (d.performAll operations).2.picture round = (fresh.performAll operations).2.picture round

theorem SameState.renews [CoinSource κ] (same : c.SameState d) (newly : c.Newly) : c.Renews d :=
  ⟨newly, same, fun operations =>
    have ⟨answers, after⟩ := same.performAll operations
    ⟨answers, after, after.picture_eq⟩⟩

/-- A colony that was founded with the generator alone, and any operations that give the roster no
new species: rounds, also such as fail, turns of single creatures, changes of direction, creatures
added, and resets. With a seed, a reset succeeds and leaves the state of a colony that is founded with
this roster: the same creatures, grid, reports, next number and generator. Its creatures have done
nothing yet, and no round is reported. From there on, whatever is done to both colonies has the same
answers, leaves them in the same state and shows the same pictures.

Without a seed, this is so of a colony that is founded by what comes from outside at the reset. If it
cannot be founded, the reset fails with the same fault. -/
theorem reset_fresh [CoinSource κ] (created : (create folder settings founding).1 = .ok c)
    (unscripted : founding.script = none) {operations : List Operation}
    (unlisted : ∀ operation ∈ operations, operation.enlists = false) {left : Colony κ}
    (operated : left = (c.performAll operations).2) :
    let listed := { founding with roster := some c.roster.toList }
    (founding.seed.getD settings.seed ≠ .null → ∃ fresh,
      (create folder settings listed).1 = .ok fresh ∧ left.reset.1 = .ok () ∧
        fresh.Renews left.reset.2) ∧
    ∃ k, (∀ fault, (create folder settings (listed.after k)).1 = .error fault →
        left.reset.1 = .error fault) ∧
      ∀ fresh, (create folder settings (listed.after k)).1 = .ok fresh →
        left.reset.1 = .ok () ∧ fresh.Renews left.reset.2 := by
  intro listed
  obtain ⟨valid, roster, journal, empty, -, founded, done⟩ := create_eq_ok_iff.1 created
  have populated : empty.Twin c := by
    have chain := inhabit_settles empty
    rw [done] at chain
    exact chain.twin
  have since : c.Twin left := by
    rw [operated]
    exact performAll_twin (Reachable.founded created).orderly unlisted
  obtain ⟨k, anew⟩ := reset_of_twin founded unscripted (populated.trans since)
  obtain ⟨again, founded', ended, state⟩ := anew #[]
  -- The colony that is founded with the roster is the one that the reset comes to.
  have made : (create folder settings (listed.after k)).1 =
      again.inhabit.1.map fun _ => again.inhabit.2 := by
    have roster_eq : c.roster.toList = roster := by
      obtain ⟨_, _, -, -, rfl⟩ := made_of_unpopulated founded
      rw [populated.roster]
    have known : rosterOf folder settings (listed.after k) = (.ok roster, #[]) := by
      rw [← roster_eq]
      rfl
    exact create_of_unpopulated valid known founded'
  have renews : again.inhabit.2.Renews left.reset.2 :=
    state.renews (unpopulated_eq_ok founded').2.2.2.inhabit_newly
  constructor
  · intro given
    obtain ⟨reset, -⟩ := reset_of_lasting created unscripted (lasting_of_seed given) since
    have same : create folder settings (listed.after k) = create folder settings listed :=
      create_of_alike listed (founding.entropy.alike_after given k)
    rw [same, ← ended, reset] at made
    exact ⟨_, made, reset, renews⟩
  · refine ⟨k, fun fault failed => ?_, fun fresh founded => ?_⟩
    · rw [made] at failed
      rw [ended]
      generalize again.inhabit.1 = result at failed
      cases result with
      | error cause =>
        cases failed
        rfl
      | ok _ => cases failed
    · rw [made] at founded
      rw [ended]
      generalize again.inhabit.1 = result at founded
      cases result with
      | error cause => cases founded
      | ok _ =>
        cases founded
        exact ⟨rfl, renews⟩

/-- On the lane that was populated with a hopper, the hopper is turned round between two rounds, another
one is added, and then a reset is a fresh start, with one hopper. -/
theorem hopLane_fresh :
    (create .empty hopSettings {}).1 = .ok hopLane ∧
    ∃ fresh left, left = (hopLane.performAll
        [.step 0, .face 0 (.int 3), .add (.listed 0) (some ⟨0, 0⟩) (.int 1), .step 1]).2 ∧
      (create .empty hopSettings { roster := some hopLane.roster.toList : Founding }).1 = .ok fresh ∧
      left.population = 2 ∧ left.reset.2.population = 1 ∧ fresh.Renews left.reset.2 := by
  obtain ⟨created, single⟩ := hopLane_created
  have unlisted : ∀ operation ∈ [Operation.step 0, .face 0 (.int 3),
      .add (.listed 0) (some ⟨0, 0⟩) (.int 1), .step 1], operation.enlists = false := by decide
  obtain ⟨given, -⟩ := reset_fresh created rfl unlisted rfl
  obtain ⟨fresh, again, -, renews⟩ := given nofun
  have twin := performAll_twin (Reachable.founded created).orderly unlisted
  obtain ⟨-, first⟩ := reset_of_lasting created rfl (lasting_of_seed nofun) twin
  refine ⟨created, fresh, _, rfl, again, by decide +kernel, ?_, renews⟩
  rw [population, (first nofun).creatures]
  exact single

end Vivarium.Colony
