import Mathlib.Algebra.BigOperators.Group.Finset.Basic
import Mathlib.Algebra.GroupWithZero.Nat
import Vivarium.Proofs.Board.Revision
import Vivarium.Proofs.Colony.Lineage

/-!
# Counting the creatures of a colony

1. `Enrolled.sum_countOf`: each creature is counted for one species of the roster.
2. `SameTally`: colonies that count alike, and so have the same counts and reports.
3. `leading_eq_some_iff`: the scan for the leader finds the first entry with the greatest number.
4. `reachable_census`: the counts of a reachable colony whose species have different labels.
-/

namespace Vivarium.Colony

variable {κ : Type}

/-! ## Counts -/

theorem countOf_eq (c : Colony κ) (number : Nat) :
    c.countOf number = c.lineages.countP fun l => l.number == number := by
  rw [lineages, List.countP_map]
  rfl

/-- A creature that has a species' number is of that very species. -/
theorem Enrolled.countOf_eq_countP {c : Colony κ} (enrolled : c.Enrolled) (n : Nat) :
    c.countOf n = c.board.creatures.toList.countP fun d => c.lineage? n = some d.lineage := by
  refine List.countP_congr fun d present => ?_
  have listed := enrolled _ (List.mem_map_of_mem present)
  rw [beq_iff_eq, decide_eq_true_iff]
  constructor
  · rintro rfl
    exact listed
  · intro known
    exact (lineage?_eq_some_iff.1 known).1

theorem length_labelsAfter (before names : List String) :
    (labelsAfter before names).length = names.length := by
  induction names generalizing before with
  | nil => rfl
  | cons name rest ih => rw [labelsAfter, List.length_cons, ih, List.length_cons]

theorem length_labels (c : Colony κ) : c.labels.length = c.roster.size := by
  rw [labels, length_labelsAfter, List.length_map, Array.length_toList]

theorem labels_of_roster {c d : Colony κ} (roster : d.roster = c.roster) : d.labels = c.labels := by
  rw [labels, labels, roster]

/-- There is a count to go with each label. -/
theorem map_fst_zip_labels (c : Colony κ) :
    (c.labels.zip ((List.range c.roster.size).map c.countOf)).map (·.1) = c.labels :=
  List.map_fst_zip (by rw [length_labels, List.length_map, List.length_range])

theorem mem_keys_counts {c : Colony κ} {label : String} : label ∈ c.counts.keys ↔ label ∈ c.labels := by
  rw [counts, Table.mem_keys_ofList, map_fst_zip_labels]

/-- A count for each species of the roster, if labels do not repeat. -/
theorem entries_counts {c : Colony κ} (distinct : c.labels.Nodup) :
    c.counts.entries = c.labels.zip ((List.range c.roster.size).map c.countOf) := by
  refine Table.entries_ofList ?_
  rw [map_fst_zip_labels]
  exact distinct

theorem getElem?_entries_counts {c : Colony κ} (distinct : c.labels.Nodup) (n : Nat) :
    c.counts.entries[n]? = (c.labels[n]?).map fun label => (label, c.countOf n) := by
  rw [entries_counts distinct]
  cases labelled : c.labels[n]? with
  | none =>
    have after : c.labels.length ≤ n := List.getElem?_eq_none_iff.1 labelled
    exact List.getElem?_eq_none (by rw [List.length_zip]; omega)
  | some label =>
    have below : n < c.roster.size := by
      rw [← length_labels]
      exact (List.getElem?_eq_some_iff.1 labelled).1
    refine List.getElem?_zip_eq_some.2 ⟨labelled, ?_⟩
    rw [List.getElem?_map, List.getElem?_range below]
    rfl

/-- Nobody is left out when all species of the roster are counted. -/
theorem Enrolled.sum_countOf {c : Colony κ} (enrolled : c.Enrolled) :
    ((List.range c.roster.size).map c.countOf).sum = c.population := by
  -- The counts are multiplicities, and no number lies outside the roster.
  let numbers : Multiset Nat := c.lineages.map Lineage.number
  have counted (n : Nat) : c.countOf n = numbers.count n := by
    rw [countOf_eq, Multiset.coe_count, List.count, List.countP_map]
    rfl
  have below : ∀ n ∈ numbers, n ∈ Finset.range c.roster.size := by
    intro n present
    obtain ⟨l, living, rfl⟩ := List.mem_map.1 (Multiset.mem_coe.1 present)
    exact Finset.mem_range.2 (enrolled.number_lt living)
  calc ((List.range c.roster.size).map c.countOf).sum
      = ∑ n ∈ Finset.range c.roster.size, c.countOf n := rfl
    _ = ∑ n ∈ Finset.range c.roster.size, numbers.count n :=
        Finset.sum_congr rfl fun n _ => counted n
    _ = c.population := by
        rw [Multiset.sum_count_eq_card below, Multiset.coe_card, List.length_map, length_lineages]

/-! ## Colonies that count alike -/

def tally (d : Creature) : Nat × Nat × Nat := (d.lineage.number, d.moves, d.infections)

/-- Creatures count the same when their programs and limits are revised. -/
theorem map_tally_revise {σ : Type} (r : Revision) (b : Board σ) :
    (b.revise r).creatures.toList.map tally = b.creatures.toList.map tally := by
  refine b.map_revise r fun slot d => ?_
  have number : (r.creature slot d).lineage.number = d.lineage.number := r.number d.lineage
  rw [tally, tally, number]
  rfl

/-- Two colonies with the same labels and with creatures that count the same. -/
structure SameTally (c d : Colony κ) : Prop where
  labels : d.labels = c.labels
  tallies : d.board.creatures.toList.map tally = c.board.creatures.toList.map tally

namespace SameTally

variable {c d : Colony κ}

theorem population_eq (same : SameTally c d) : d.population = c.population := by
  have lengths := congrArg List.length same.tallies
  rw [List.length_map, List.length_map] at lengths
  exact lengths

theorem map_eq {α : Type} (same : SameTally c d) (f : Nat × Nat × Nat → α) :
    d.board.creatures.toList.map (fun x => f (tally x)) =
      c.board.creatures.toList.map fun x => f (tally x) := by
  have images := congrArg (List.map f) same.tallies
  rw [List.map_map, List.map_map] at images
  exact images

theorem moves_eq (same : SameTally c d) : d.moves = c.moves :=
  congrArg (List.foldr (· + ·) 0) (same.map_eq fun t => t.2.1)

theorem infections_eq (same : SameTally c d) : d.infections = c.infections :=
  congrArg (List.foldr (· + ·) 0) (same.map_eq fun t => t.2.2)

theorem countOf_eq (same : SameTally c d) : d.countOf = c.countOf := by
  funext number
  have counted (x : Colony κ) : x.countOf number =
      (x.board.creatures.toList.map fun y => (tally y).1).countP (· == number) := by
    rw [List.countP_map]
    rfl
  rw [counted, counted, same.map_eq fun t => t.1]

theorem counts_eq (same : SameTally c d) : d.counts = c.counts := by
  have size : d.roster.size = c.roster.size := by
    rw [← length_labels, ← length_labels, same.labels]
  rw [counts, counts, same.labels, size, same.countOf_eq]

theorem finishedEntry_eq (same : SameTally c d) (rounds : Value) :
    d.finishedEntry rounds = c.finishedEntry rounds := by
  rw [finishedEntry, finishedEntry, same.counts_eq]

/-- Rounds between colonies that count alike have the same report. -/
theorem report_eq {c' d' : Colony κ} (before : SameTally c d) (after : SameTally c' d')
    (round : Int) (actions : Table String Nat) :
    report d d' round actions = report c c' round actions := by
  simp only [report, after.population_eq, after.counts_eq, before.moves_eq, after.moves_eq,
    before.infections_eq, after.infections_eq]

end SameTally

/-! ## The leader -/

theorem leading_eq_none_iff {best : Option String} {most : Nat} {entries : List (String × Nat)} :
    leading best most entries = none ↔ best = none ∧ ∀ e ∈ entries, e.2 ≤ most := by
  induction entries generalizing best most with
  | nil => simp [leading]
  | cons entry rest ih =>
    obtain ⟨label, count⟩ := entry
    rw [leading]
    split
    · next more =>
      rw [ih]
      constructor
      · rintro ⟨found, -⟩
        cases found
      · rintro ⟨-, all⟩
        exact absurd (all _ List.mem_cons_self) (Nat.not_le.2 more)
    · next less =>
      rw [ih, List.forall_mem_cons]
      constructor
      · rintro ⟨unfound, all⟩
        exact ⟨unfound, Nat.not_lt.1 less, all⟩
      · rintro ⟨unfound, -, all⟩
        exact ⟨unfound, all⟩

/-- An entry that has the greatest number and is the first one that has it. -/
structure Leads (entries : List (String × Nat)) (n : Nat) (label : String) (count : Nat) :
    Prop where
  there : entries[n]? = some (label, count)
  most : ∀ e ∈ entries, e.2 ≤ count
  first : ∀ m < n, ∀ e, entries[m]? = some e → e.2 < count

theorem leads_cons_zero_iff {entry : String × Nat} {rest : List (String × Nat)} {label : String}
    {count : Nat} :
    Leads (entry :: rest) 0 label count ↔ entry = (label, count) ∧ ∀ e ∈ rest, e.2 ≤ count := by
  constructor
  · rintro ⟨there, most, -⟩
    exact ⟨Option.some.inj there, (List.forall_mem_cons.1 most).2⟩
  · rintro ⟨rfl, most⟩
    refine ⟨rfl, List.forall_mem_cons.2 ⟨Nat.le_refl _, most⟩, fun m earlier => ?_⟩
    exact absurd earlier (Nat.not_lt_zero m)

theorem leads_cons_succ_iff {entry : String × Nat} {rest : List (String × Nat)} {n : Nat}
    {label : String} {count : Nat} :
    Leads (entry :: rest) (n + 1) label count ↔ entry.2 < count ∧ Leads rest n label count := by
  constructor
  · rintro ⟨there, most, first⟩
    refine ⟨first 0 (Nat.succ_pos n) entry rfl, there, (List.forall_mem_cons.1 most).2, ?_⟩
    intro m earlier
    exact first (m + 1) (Nat.succ_lt_succ earlier)
  · rintro ⟨less, there, most, first⟩
    refine ⟨there, List.forall_mem_cons.2 ⟨Nat.le_of_lt less, most⟩, ?_⟩
    intro m earlier e entry
    cases m with
    | zero =>
      cases entry
      exact less
    | succ m => exact first m (Nat.lt_of_succ_lt_succ earlier) e entry

/-- The scan for the leader finds the first entry with the greatest number, if that is above the one
it began with. -/
theorem leading_eq_some_iff {best : Option String} {most : Nat} {entries : List (String × Nat)}
    {label : String} :
    leading best most entries = some label ↔
      (best = some label ∧ ∀ e ∈ entries, e.2 ≤ most) ∨
      ∃ n count, Leads entries n label count ∧ most < count := by
  -- The scan goes on with another best entry and its number, so both are general.
  induction entries generalizing best most with
  | nil =>
    rw [leading]
    constructor
    · exact fun found => .inl ⟨found, by simp⟩
    · rintro (⟨found, -⟩ | ⟨n, count, leads, -⟩)
      · exact found
      · cases leads.there
  | cons entry rest ih =>
    obtain ⟨first, number⟩ := entry
    rw [leading]
    split
    · next more =>
      rw [ih]
      constructor
      · rintro (⟨found, all⟩ | ⟨n, count, leads, above⟩)
        · exact .inr ⟨0, number, leads_cons_zero_iff.2 ⟨by rw [Option.some.inj found], all⟩, more⟩
        · exact .inr ⟨n + 1, count, leads_cons_succ_iff.2 ⟨above, leads⟩, Nat.lt_trans more above⟩
      · rintro (⟨-, all⟩ | ⟨n, count, leads, above⟩)
        · exact absurd (all _ List.mem_cons_self) (Nat.not_le.2 more)
        · cases n with
          | zero =>
            obtain ⟨same, all⟩ := leads_cons_zero_iff.1 leads
            cases same
            exact .inl ⟨rfl, all⟩
          | succ n =>
            obtain ⟨less, leads⟩ := leads_cons_succ_iff.1 leads
            exact .inr ⟨n, count, leads, less⟩
    · next less =>
      rw [ih]
      constructor
      · rintro (⟨found, all⟩ | ⟨n, count, leads, above⟩)
        · exact .inl ⟨found, List.forall_mem_cons.2 ⟨Nat.not_lt.1 less, all⟩⟩
        · exact .inr ⟨n + 1, count, leads_cons_succ_iff.2 ⟨by omega, leads⟩, above⟩
      · rintro (⟨found, all⟩ | ⟨n, count, leads, above⟩)
        · exact .inl ⟨found, (List.forall_mem_cons.1 all).2⟩
        · cases n with
          | zero =>
            obtain ⟨same, -⟩ := leads_cons_zero_iff.1 leads
            cases same
            exact absurd above less
          | succ n => exact .inr ⟨n, count, (leads_cons_succ_iff.1 leads).2, above⟩

theorem forall_mem_counts {c : Colony κ} (distinct : c.labels.Nodup) (P : Nat → Prop) :
    (∀ e ∈ c.counts.entries, P e.2) ↔ ∀ m < c.roster.size, P (c.countOf m) := by
  constructor
  · intro all m below
    have labelled := List.getElem?_eq_getElem (c.length_labels.symm ▸ below)
    have entry := getElem?_entries_counts distinct m
    rw [labelled] at entry
    exact all _ (List.mem_of_getElem? entry)
  · intro all e present
    obtain ⟨m, there⟩ := List.mem_iff_getElem?.1 present
    rw [getElem?_entries_counts distinct] at there
    obtain ⟨label, labelled, rfl⟩ := Option.map_eq_some_iff.1 there
    exact all m (c.length_labels ▸ (List.getElem?_eq_some_iff.1 labelled).1)

theorem leads_counts_iff {c : Colony κ} (distinct : c.labels.Nodup) {n : Nat} {label : String}
    {count : Nat} :
    Leads c.counts.entries n label count ↔
      c.labels[n]? = some label ∧ c.countOf n = count ∧
        (∀ m < c.roster.size, c.countOf m ≤ count) ∧ ∀ m < n, c.countOf m < count := by
  have listed (m : Nat) := getElem?_entries_counts distinct m
  constructor
  · rintro ⟨there, most, first⟩
    rw [listed] at there
    obtain ⟨label, labelled, same⟩ := Option.map_eq_some_iff.1 there
    cases same
    refine ⟨labelled, rfl, (forall_mem_counts distinct (· ≤ c.countOf n)).1 most, ?_⟩
    intro m earlier
    have below := Nat.lt_trans earlier (List.getElem?_eq_some_iff.1 labelled).1
    refine first m earlier (c.labels[m], c.countOf m) ?_
    rw [listed, List.getElem?_eq_getElem below]
    rfl
  · rintro ⟨labelled, rfl, most, first⟩
    refine ⟨by rw [listed, labelled]; rfl, (forall_mem_counts distinct (· ≤ c.countOf n)).2 most, ?_⟩
    intro m earlier e there
    rw [listed] at there
    obtain ⟨label, -, rfl⟩ := Option.map_eq_some_iff.1 there
    exact first m earlier

/-! ## The census of a reachable colony -/

/-- A reachable colony whose species have different labels. Every creature is one of a species in
the roster. The counts have one entry for each species, in the order of the roster: its label and
the number of creatures of that very species. Together they count every creature. The leader is the
first species with the greatest count; there is none exactly if there are no creatures. -/
theorem reachable_census [CoinSource κ] {c : Colony κ} (reached : Reachable c)
    (distinct : c.labels.Nodup) :
    (∀ (slot : Nat) d, c.board.creatures[slot]? = some d →
      c.lineage? d.lineage.number = some d.lineage) ∧
    c.labels.length = c.roster.size ∧
    (∀ n : Nat, c.counts.entries[n]? = (c.labels[n]?).map fun label =>
      (label, c.board.creatures.toList.countP fun d => c.lineage? n = some d.lineage)) ∧
    c.counts.values.sum = c.population ∧
    (∀ label, c.leader = some label ↔ 0 < c.population ∧ ∃ n, c.labels[n]? = some label ∧
      (∀ m < c.roster.size, c.countOf m ≤ c.countOf n) ∧ ∀ m < n, c.countOf m < c.countOf n) ∧
    (c.leader = none ↔ c.population = 0) := by
  have enrolled := reached.enrolled
  have values : c.counts.values = (List.range c.roster.size).map c.countOf := by
    rw [Table.values, entries_counts distinct]
    exact List.map_snd_zip (by rw [length_labels, List.length_map, List.length_range])
  have total : c.counts.values.sum = c.population := by rw [values, enrolled.sum_countOf]
  have vacant : (∀ m < c.roster.size, c.countOf m ≤ 0) ↔ c.population = 0 := by
    rw [← total, values, List.sum_eq_zero_iff_forall_eq_nat]
    simp
  refine ⟨?_, c.length_labels, ?_, total, ?_, ?_⟩
  · intro slot d here
    exact enrolled _ (lineage_mem here)
  · intro n
    rw [getElem?_entries_counts distinct, enrolled.countOf_eq_countP]
  · intro label
    rw [leader, leading_eq_some_iff]
    constructor
    · rintro (⟨found, -⟩ | ⟨n, count, leads, above⟩)
      · cases found
      · obtain ⟨labelled, rfl, most, first⟩ := (leads_counts_iff distinct).1 leads
        refine ⟨?_, n, labelled, most, first⟩
        have below : n < c.roster.size := c.length_labels ▸ (List.getElem?_eq_some_iff.1 labelled).1
        refine Nat.pos_of_ne_zero fun none => ?_
        exact absurd (vacant.2 none n below) (Nat.not_le.2 above)
    · rintro ⟨above, n, labelled, most, first⟩
      refine .inr ⟨n, c.countOf n, (leads_counts_iff distinct).2 ⟨labelled, rfl, most, first⟩, ?_⟩
      refine Nat.pos_of_ne_zero fun zero => ?_
      rw [zero] at most
      exact absurd (vacant.1 most) (Nat.ne_of_gt above)
  · rw [leader, leading_eq_none_iff, forall_mem_counts distinct (· ≤ 0), vacant]
    simp

/-- In the lane where the hopper was infected both creatures are traps. -/
theorem huntedLane_census :
    Reachable huntedLane ∧ huntedLane.labels.Nodup ∧ huntedLane.leader = some "Trap" := by
  have distinct : huntedLane.labels.Nodup := by decide +kernel
  have leads := (reachable_census huntedLane_reachable distinct).2.2.2.2.1 "Trap"
  refine ⟨huntedLane_reachable, distinct, leads.2 ⟨by decide +kernel, 1, ?_, ?_, ?_⟩⟩ <;>
    decide +kernel

end Vivarium.Colony
