import Vivarium.Proofs.Colony.Occupancy

/-!
# The species of a colony's creatures

1. `Play.spread_cases`: while a colony plays on, species and infections stay as they are, but in a
   turn that infects a creature of another species.
2. `Reachable.enrolled`: so every creature is one of a species in the roster, with its number there.
-/

namespace Vivarium.Colony

variable {κ : Type}

/-! ## What a play makes of them -/

def lineages (c : Colony κ) : List Lineage := c.board.creatures.toList.map Creature.lineage

theorem length_lineages (c : Colony κ) : c.lineages.length = c.population := by
  rw [lineages, List.length_map, Array.length_toList, population]

theorem getElem?_lineages (c : Colony κ) (slot : Nat) :
    c.lineages[slot]? = (c.board.creatures[slot]?).map Creature.lineage := by
  rw [lineages, List.getElem?_map, Array.getElem?_toList]

theorem lineage_mem {c : Colony κ} {slot : Nat} {d : Creature}
    (here : c.board.creatures[slot]? = some d) : d.lineage ∈ c.lineages :=
  List.mem_map_of_mem (Array.mem_toList_iff.2 (Array.mem_of_getElem? here))

/-- What becomes of species and infections while a colony plays on: they stay, or a creature infects
one of another species, which becomes one of its own. -/
theorem Play.spread_cases [CoinSource κ] {c e : Colony κ} (play : Play c e)
    (agrees : c.board.Agrees) :
    (e.lineages = c.lineages ∧ e.infections = c.infections) ∨
    ∃ slot d address victim other, c.board.creatures[slot]? = some d ∧
      c.turn slot = (.ok .infect, e) ∧ d.program.fetch address = .ok (.act .infect) ∧
      c.board.creatures[victim]? = some other ∧ other.lineage.number ≠ d.lineage.number ∧
      e.lineages = c.lineages.set victim d.lineage := by
  have same {e : Colony κ}
      (alike : e.board.creatures.toList.map (fun d => (d.lineage, d.infections)) =
        c.board.creatures.toList.map fun d => (d.lineage, d.infections)) :
      e.lineages = c.lineages ∧ e.infections = c.infections := by
    have species := congrArg (List.map Prod.fst) alike
    have deeds := congrArg (List.map Prod.snd) alike
    rw [List.map_map, List.map_map] at species deeds
    exact ⟨species, congrArg (List.foldr (· + ·) 0) deeds⟩
  cases play with
  | noted | reported | rested => exact .inl ⟨rfl, rfl⟩
  | @faced slot d here direction =>
    have there := Board.getElem?_put_self here { d with direction := direction }
    rw [Board.update_eq_put here, Board.redraw_eq there]
    exact .inl (same (Board.toList_map_put_of_eq here rfl))
  | @turned slot d here =>
    obtain ⟨address, coin, -, turned⟩ := Board.turn_turned agrees here
    rcases turned.spread_cases here with alike | ⟨infect, fetched, victim, other, there, enemy, set⟩
    · exact .inl (same alike)
    · have infects : c.turn slot = (.ok .infect, c.withBoard (c.board.turn slot).2) := by
        rw [turn, infect]
      exact .inr ⟨slot, d, address, victim, other, here, infects, fetched, there,
        beq_eq_false_iff_ne.1 enemy, set⟩

theorem Play.roster_eq [CoinSource κ] {c e : Colony κ} (play : Play c e) : e.roster = c.roster := by
  cases play <;> rfl

theorem Plays.roster_eq [CoinSource κ] {c e : Colony κ} (chain : Plays c e) : e.roster = c.roster :=
  chain.keeps (P := fun d => d.roster = c.roster) (fun play same => play.roster_eq.trans same) rfl

/-! ## Species of the roster -/

/-- Every creature is one of a species in the roster. -/
def Enrolled (c : Colony κ) : Prop := ∀ l ∈ c.lineages, c.lineage? l.number = some l

theorem lineage?_eq_some_iff {c : Colony κ} {number : Nat} {l : Lineage} :
    c.lineage? number = some l ↔ l.number = number ∧ c.roster[number]? = some l.species := by
  rw [lineage?, Option.map_eq_some_iff]
  constructor
  · rintro ⟨species, listed, rfl⟩
    exact ⟨rfl, listed⟩
  · rintro ⟨rfl, listed⟩
    exact ⟨l.species, listed, rfl⟩

theorem Enrolled.number_lt {c : Colony κ} (enrolled : c.Enrolled) {l : Lineage}
    (present : l ∈ c.lineages) : l.number < c.roster.size := by
  have listed := (lineage?_eq_some_iff.1 (enrolled l present)).2
  exact (Array.getElem?_eq_some_iff.1 listed).1

theorem Play.enrolled [CoinSource κ] {c e : Colony κ} (play : Play c e) (orderly : c.Orderly)
    (enrolled : c.Enrolled) : e.Enrolled := by
  intro l present
  have known (l : Lineage) : e.lineage? l.number = c.lineage? l.number := by
    rw [lineage?, lineage?, play.roster_eq]
  rw [known]
  rcases play.spread_cases orderly.agrees with
    ⟨same, -⟩ | ⟨slot, d, -, victim, -, here, -, -, -, -, set⟩
  · exact enrolled l (same ▸ present)
  · -- The species of the victim is now the attacker's, which was enrolled before.
    rw [set] at present
    rcases List.mem_or_eq_of_mem_set present with old | rfl
    · exact enrolled l old
    · exact enrolled _ (lineage_mem here)

/-- Every change keeps the creatures of an orderly colony enrolled. -/
theorem Change.enrolled [CoinSource κ] {c e : Colony κ} (change : Change c e) (orderly : c.Orderly)
    (enrolled : c.Enrolled) : e.Enrolled := by
  cases change with
  | noted entry => exact (Play.noted c entry).enrolled orderly enrolled
  | faced here direction => exact (Play.faced here direction).enrolled orderly enrolled
  | turned here => exact (Play.turned here).enrolled orderly enrolled
  | reported report => exact (Play.reported c report).enrolled orderly enrolled
  | rested delay => exact (Play.rested c delay).enrolled orderly enrolled
  | drew => exact enrolled
  | enlisted species =>
    intro l present
    have listed := (lineage?_eq_some_iff.1 (enrolled l present)).2
    have below := enrolled.number_lt present
    refine lineage?_eq_some_iff.2 ⟨rfl, ?_⟩
    show (c.roster.push species)[l.number]? = some l.species
    rw [Array.getElem?_push, if_neg (Nat.ne_of_lt below), listed]
  | @placed d newcomer =>
    have pushed : lineages { c with board := c.board.insert d, nextId := c.nextId + 1 } =
        c.lineages ++ [d.lineage] := by
      rw [lineages, Board.insert, Board.draw_eq, Array.toList_push, List.map_append]
      rfl
    intro l present
    rw [pushed, List.mem_append, List.mem_singleton] at present
    rcases present with old | rfl
    · exact enrolled l old
    · exact lineage?_eq_some_iff.2 ⟨rfl, newcomer.listed⟩
  | cleared =>
    intro l present
    cases present

theorem Reachable.enrolled [CoinSource κ] {c : Colony κ} (reached : Reachable c) : c.Enrolled := by
  have both : c.Orderly ∧ c.Enrolled := by
    refine reached.invariant (P := fun c => c.Orderly ∧ c.Enrolled) ?_ ?_
    · intro settings founding roster journal c founded
      refine ⟨unpopulated_orderly founded, ?_⟩
      obtain ⟨generator, grid, seeded, made, rfl⟩ := made_of_unpopulated founded
      intro l present
      cases present
    · intro c d change ⟨orderly, enrolled⟩
      exact ⟨change.orderly orderly, change.enrolled orderly enrolled⟩
  exact both.2

end Vivarium.Colony
