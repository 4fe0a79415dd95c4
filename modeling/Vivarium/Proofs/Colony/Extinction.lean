import Vivarium.Proofs.Board.Jumps
import Vivarium.Proofs.Colony.Census

/-!
# Species that die out

While a colony plays on, a species gains a creature only when one of its creatures infects one of
another species, which loses it.

1. `Play.countOf_cases`: what one play makes of the number of creatures of every species.
2. `Plays.induct`: what holds of a colony in order and is kept by every play of such a colony, holds
   however it plays on.
3. `reachable_extinction`: so a species without creatures stays without, one that never infects never
   grows, and where all creatures are of one species no more infections are reported.
-/

namespace Vivarium.Colony

variable {κ : Type} {c e : Colony κ} {n : Nat}

/-! ## Colonies of one species -/

/-- All creatures are of the species with a number. -/
def Uniform (n : Nat) (c : Colony κ) : Prop := ∀ l ∈ c.lineages, l.number = n

/-- A colony in order whose creatures are all of one species. -/
structure Settled (n : Nat) (c : Colony κ) : Prop where
  orderly : c.Orderly
  uniform : c.Uniform n

/-- No infection is reported between one colony and a later one. -/
def Quiet (c e : Colony κ) : Prop := ∀ r ∈ e.reports, r ∈ c.reports ∨ r.infections = 0

namespace Quiet

theorem of_eq (same : e.reports = c.reports) : Quiet c e := fun _ there => .inl (same ▸ there)

theorem trans {x y z : Colony κ} (first : Quiet x y) (second : Quiet y z) : Quiet x z := by
  intro r there
  rcases second r there with earlier | none
  · exact first r earlier
  · exact .inr none

end Quiet

theorem quiet_sleep (c : Colony κ) (clock : Clock) (delay : Value) : Quiet c (c.sleep clock delay).2 := by
  rw [sleep]
  split <;> exact .of_eq rfl

variable [CoinSource κ]

/-! ## One play -/

/-- A play leaves the number of creatures of every species as it is; or a creature infects one of
another species, and its own species gains the creature that the other one loses. -/
theorem Play.countOf_cases (play : Play c e) (agrees : c.board.Agrees) :
    (∀ n, e.countOf n = c.countOf n) ∨
    ∃ slot d address lost, c.board.creatures[slot]? = some d ∧ c.turn slot = (.ok .infect, e) ∧
      d.program.fetch address = .ok (.act .infect) ∧ lost ≠ d.lineage.number ∧
      ∀ n, e.countOf n =
        c.countOf n - (if lost = n then 1 else 0) + if d.lineage.number = n then 1 else 0 := by
  rcases play.spread_cases agrees with
    ⟨same, -⟩ | ⟨slot, d, address, victim, other, here, infect, fetched, there, apart, set⟩
  · exact .inl fun n => by rw [countOf_eq, countOf_eq, same]
  · have known : c.lineages[victim]? = some other.lineage := by
      rw [getElem?_lineages, there]
      rfl
    obtain ⟨inside, lost⟩ := List.getElem?_eq_some_iff.1 known
    refine .inr ⟨slot, d, address, other.lineage.number, here, infect, fetched, apart, fun n => ?_⟩
    rw [countOf_eq, countOf_eq, set, List.countP_set inside, lost]
    simp only [beq_iff_eq]

/-- A play by which a species grows is a turn in which one of its creatures infects. -/
theorem Play.countOf_lt (play : Play c e) (agrees : c.board.Agrees)
    (grows : c.countOf n < e.countOf n) :
    e.countOf n = c.countOf n + 1 ∧
      ∃ slot d address, c.board.creatures[slot]? = some d ∧ d.lineage.number = n ∧
        d.program.fetch address = .ok (.act .infect) ∧ c.turn slot = (.ok .infect, e) := by
  rcases play.countOf_cases agrees with
    same | ⟨slot, d, address, lost, here, infect, fetched, apart, counted⟩
  · exact absurd (same n) (Nat.ne_of_gt grows)
  · have count := counted n
    -- Only the species of the one that infects gains; the other ones lose a creature or stay.
    by_cases own : d.lineage.number = n
    · rw [if_pos own, if_neg fun same => apart (same.trans own.symm)] at count
      exact ⟨count, slot, d, address, here, own, fetched, infect⟩
    · rw [if_neg own] at count
      omega

/-- A species without creatures has none to infect with. -/
theorem Play.countOf_eq_zero (play : Play c e) (agrees : c.board.Agrees)
    (extinct : c.countOf n = 0) : e.countOf n = 0 := by
  by_contra living
  obtain ⟨-, slot, d, -, here, own, -, -⟩ := play.countOf_lt (n := n) agrees (by omega)
  rw [countOf_eq, List.countP_eq_zero] at extinct
  exact extinct _ (lineage_mem here) (beq_iff_eq.2 own)

/-- A species whose program never infects does not grow. -/
theorem Play.countOf_le (play : Play c e) (agrees : c.board.Agrees) (enrolled : c.Enrolled)
    {species : Species} (listed : c.roster[n]? = some species)
    (harmless : ¬species.program.Has (.act .infect)) : e.countOf n ≤ c.countOf n := by
  by_contra grows
  obtain ⟨-, slot, d, address, here, own, fetched, -⟩ :=
    play.countOf_lt (n := n) agrees (Nat.not_le.1 grows)
  have known := (lineage?_eq_some_iff.1 (enrolled _ (lineage_mem here))).2
  rw [own, listed] at known
  obtain rfl := Option.some.inj known
  exact harmless (Program.Has.of_fetch fetched)

/-- Among creatures of one species nobody is infected. -/
theorem Play.uniform (play : Play c e) (agrees : c.board.Agrees) (uniform : c.Uniform n) :
    e.Uniform n ∧ e.infections = c.infections := by
  rcases play.spread_cases agrees with
    ⟨same, deeds⟩ | ⟨slot, d, address, victim, other, here, -, -, there, apart, -⟩
  · exact ⟨fun l present => uniform l (same ▸ present), deeds⟩
  · have kin : other.lineage.number = d.lineage.number :=
      (uniform _ (lineage_mem there)).trans (uniform _ (lineage_mem here)).symm
    exact absurd kin apart

/-! ## Chains of plays -/

/-- What every play of a colony in order keeps, is kept however a colony in order plays on. -/
theorem Plays.induct {P : Colony κ → Prop} (chain : Plays c e) (orderly : c.Orderly)
    (enrolled : c.Enrolled) (start : P c)
    (play : ∀ {x y : Colony κ}, Play x y → x.board.Agrees → x.Enrolled → x.roster = c.roster →
      P x → P y) :
    (e.Orderly ∧ e.Enrolled ∧ e.roster = c.roster) ∧ P e := by
  refine chain.keeps (P := fun x => (x.Orderly ∧ x.Enrolled ∧ x.roster = c.roster) ∧ P x) ?_
    ⟨⟨orderly, enrolled, rfl⟩, start⟩
  rintro x y next ⟨⟨orderly, enrolled, roster⟩, held⟩
  exact ⟨⟨next.change.orderly orderly, next.enrolled orderly enrolled,
    next.roster_eq.trans roster⟩, play next orderly.agrees enrolled roster held⟩

theorem Plays.settled (chain : Plays c e) (settled : c.Settled n) :
    e.Settled n ∧ e.infections = c.infections := by
  refine chain.keeps (P := fun x => x.Settled n ∧ x.infections = c.infections) ?_ ⟨settled, rfl⟩
  rintro x y next ⟨settled, deeds⟩
  obtain ⟨uniform, more⟩ := next.uniform settled.orderly.agrees settled.uniform
  exact ⟨⟨next.change.orderly settled.orderly, uniform⟩, more.trans deeds⟩

/-! ## Reports -/

namespace Settled

/-- Among creatures of one species a round reports no infections. -/
theorem infections_step (settled : c.Settled n) {round : Int} {r : Report}
    (stepped : c.step round = (.ok r, e)) : r.infections = 0 := by
  have turns := takeTurns_plays (List.range c.population) c Table.empty
  rw [step] at stepped
  generalize takeTurns (List.range c.population) Table.empty c.board = taken at turns stepped
  obtain ⟨result, board⟩ := taken
  cases result with
  | error fault => cases stepped
  | ok actions =>
    cases stepped
    show (c.withBoard board).infections - c.infections = 0
    rw [(turns.settled settled).2, Nat.sub_self]

theorem quiet_step (settled : c.Settled n) (round : Int) : Quiet c (c.step round).2 := by
  rcases reports_step c round with ⟨fault, after, stepped, same⟩ | ⟨r, after, stepped, pushed⟩
  · rw [stepped]
    exact .of_eq same
  · rw [stepped]
    intro other there
    rw [pushed] at there
    rcases Array.mem_push.1 there with earlier | rfl
    · exact .inl earlier
    · exact .inr (settled.infections_step stepped)

theorem quiet_playRounds (settled : c.Settled n) (clock : Clock) (delay : Value) (count : Nat) (round : Int) :
    Quiet c (playRounds clock delay count round c).2 := by
  induction count generalizing round c with
  | zero => exact .of_eq rfl
  | succ count ih =>
    have stepped := settled.quiet_step round
    have settled' := ((step_plays c round).settled settled).1
    rw [playRounds]
    generalize c.step round = played at stepped settled'
    -- The rounds stop at a fault of the round or of the pause after it.
    obtain ⟨result, after⟩ := played
    cases result with
    | error fault => exact stepped
    | ok r =>
      have slept := stepped.trans (quiet_sleep after clock delay)
      have rested' := ((sleep_plays after clock delay).settled settled').1
      dsimp only
      generalize after.sleep clock delay = paused at slept rested'
      obtain ⟨result, rested⟩ := paused
      cases result with
      | error fault => exact slept
      | ok _ =>
        have more := slept.trans (ih rested' (round + 1))
        dsimp only
        generalize playRounds clock delay count (round + 1) rested = played at more
        obtain ⟨result, last⟩ := played
        cases result <;> exact more

theorem quiet_run (settled : c.Settled n) (rounds pause : Option Value) :
    Quiet c (c.run rounds pause).2 := by
  rw [run]
  split
  · exact .of_eq rfl
  · next count counted =>
    have played := settled.quiet_playRounds .system (pause.getD c.settings.pause) count.toNat
      c.reports.size
    generalize playRounds .system (pause.getD c.settings.pause) count.toNat c.reports.size c = result
      at played
    obtain ⟨result, after⟩ := result
    cases result <;> exact played

theorem quiet_perform (settled : c.Settled n) {operation : Operation}
    (plays : operation.plays = true) : Quiet c (c.perform operation).2 := by
  cases operation with
  | add | reset => cases plays
  | face slot direction =>
    show Quiet c (c.face slot direction).2
    rw [face]
    split <;> exact .of_eq rfl
  | turn slot => exact .of_eq rfl
  | step round => exact settled.quiet_step round
  | run rounds pause => exact settled.quiet_run rounds pause

/-- However a colony of one species plays on, no infections are reported. -/
theorem quiet_performAll (settled : c.Settled n) {operations : List Operation}
    (plays : ∀ operation ∈ operations, operation.plays = true) :
    Quiet c (c.performAll operations).2 := by
  induction operations generalizing c with
  | nil => exact .of_eq rfl
  | cons operation rest ih =>
    have now := plays operation List.mem_cons_self
    have settled' := ((perform_plays c now).settled settled).1
    have later := ih settled' fun other there => plays other (List.mem_cons_of_mem _ there)
    exact (settled.quiet_perform now).trans later

end Settled

/-! ## A reachable colony -/

/-- A reachable colony that plays on: creatures are turned and have turns, and rounds are played, of
which some may fail. The number of creatures of a species grows only in a turn in which a creature of
that very species infects, and then by one. So a species without creatures stays without; one whose
program never infects does not grow; and once all creatures are of one species, no round that ends
reports an infection. -/
theorem reachable_extinction (reached : Reachable c) :
    (∀ operations, (∀ operation ∈ operations, operation.plays = true) →
      Plays c (c.performAll operations).2) ∧
    ∀ x, Plays c x →
      (∀ y, Play x y → ∀ n, x.countOf n < y.countOf n → y.countOf n = x.countOf n + 1 ∧
        ∃ slot d, x.board.creatures[slot]? = some d ∧ d.lineage.number = n ∧
          x.turn slot = (.ok .infect, y)) ∧
      ∀ y, Plays x y → ∀ n,
        (x.countOf n = 0 → y.countOf n = 0) ∧
        (∀ species, c.roster[n]? = some species → ¬species.program.Has (.act .infect) →
          y.countOf n ≤ x.countOf n) ∧
        ((∀ d ∈ x.board.creatures, d.lineage.number = n) →
          (∀ round r after, y.step round = (.ok r, after) → r.infections = 0) ∧
          ∀ operations, (∀ operation ∈ operations, operation.plays = true) →
            ∀ r ∈ (y.performAll operations).2.reports, r ∈ y.reports ∨ r.infections = 0) := by
  refine ⟨fun operations plays => performAll_plays plays, fun x before => ?_⟩
  obtain ⟨⟨orderly, enrolled, roster⟩, -⟩ :=
    before.induct (P := fun _ => True) reached.orderly reached.enrolled trivial
      fun _ _ _ _ held => held
  refine ⟨?_, fun y chain n => ⟨?_, ?_, ?_⟩⟩
  · intro y play n grows
    obtain ⟨one, slot, d, -, here, own, -, infects⟩ := play.countOf_lt orderly.agrees grows
    exact ⟨one, slot, d, here, own, infects⟩
  · intro extinct
    exact (chain.induct (P := fun z => z.countOf n = 0) orderly enrolled extinct
      fun play agrees _ _ none => play.countOf_eq_zero agrees none).2
  · intro species listed harmless
    rw [← roster] at listed
    refine (chain.induct (P := fun z => z.countOf n ≤ x.countOf n) orderly enrolled
      (Nat.le_refl _) fun play agrees enrolled same fewer => ?_).2
    exact Nat.le_trans (play.countOf_le agrees enrolled (same ▸ listed) harmless) fewer
  · intro uniform
    have settled : x.Settled n := ⟨orderly, fun l present => by
      obtain ⟨d, living, rfl⟩ := List.mem_map.1 present
      exact uniform d (Array.mem_toList_iff.1 living)⟩
    have settled' := (chain.settled settled).1
    exact ⟨fun round r after stepped => settled'.infections_step stepped,
      fun operations plays => settled'.quiet_performAll plays⟩

/-- Where the hopper was infected there is no hopper any more, nor will there be one again, and no
more infections are reported. -/
theorem huntedLane_extinction :
    Reachable huntedLane ∧ huntedLane.countOf 0 = 0 ∧ huntedLane.countOf 1 = 2 ∧
      ∀ operations, (∀ operation ∈ operations, operation.plays = true) →
        (huntedLane.performAll operations).2.countOf 0 = 0 ∧
        ∀ r ∈ (huntedLane.performAll operations).2.reports,
          r ∈ huntedLane.reports ∨ r.infections = 0 := by
  have extinct : huntedLane.countOf 0 = 0 := by decide +kernel
  have traps : ∀ d ∈ huntedLane.board.creatures, d.lineage.number = 1 := by decide +kernel
  obtain ⟨chain, always⟩ := reachable_extinction huntedLane_reachable
  obtain ⟨-, later⟩ := always huntedLane (.refl _)
  refine ⟨huntedLane_reachable, extinct, by decide +kernel, fun operations plays => ⟨?_, ?_⟩⟩
  · exact (later _ (chain operations plays) 0).1 extinct
  · exact ((later huntedLane (.refl _) 1).2.2 traps).2 operations plays

end Vivarium.Colony
