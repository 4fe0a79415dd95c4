import Vivarium.Colony.Scoreboard
import Vivarium.Proofs.Colony.Census

/-!
# The scoreboard and the leader

The rows of the scoreboard are sorted, and the leader is found by a scan. They agree on who comes first,
also where counts are equal, because the sort is stable and the scan keeps the first of the greatest.

1. `Ranked`: the order of a ranking, and `ranked_ranking`: the sort gives it.
2. `Ranked.head?_eq`: a ranking begins with the entry that leads.
3. `scoreboard_names_leader`: what the scoreboard shows, and what it says of the leader.
-/

namespace Vivarium.Colony

/-! ## Rankings -/

/-- The entries in the order of a ranking: the greatest number first, and entries with equal numbers in
the order in which they were given. -/
structure Ranked (entries rows : List (String × Nat)) : Prop where
  perm : rows.Perm entries
  descending : rows.Pairwise fun a b => b.2 ≤ a.2
  stable : ∀ count, rows.filter (fun e => e.2 = count) = entries.filter fun e => e.2 = count

theorem ranked_ranking (t : Table String Nat) : Ranked t.entries (ranking t) := by
  have trans (a b c : String × Nat) (first : decide (b.2 ≤ a.2) = true)
      (second : decide (c.2 ≤ b.2) = true) : decide (c.2 ≤ a.2) = true :=
    decide_eq_true (Nat.le_trans (of_decide_eq_true second) (of_decide_eq_true first))
  have total (a b : String × Nat) : (decide (b.2 ≤ a.2) || decide (a.2 ≤ b.2)) = true := by
    simpa using Nat.le_total b.2 a.2
  have perm : (ranking t).Perm t.entries := List.mergeSort_perm ..
  refine ⟨perm, ?_, fun count => ?_⟩
  · exact (List.pairwise_mergeSort trans total t.entries).imp of_decide_eq_true
  · -- The entries with this number are sorted already, so the sort leaves them in order.
    let equal : String × Nat → Bool := fun e => e.2 = count
    have sorted : (t.entries.filter equal).Pairwise fun a b => decide (b.2 ≤ a.2) = true := by
      refine List.pairwise_of_forall_mem_list fun a first b second => decide_eq_true ?_
      rw [of_decide_eq_true (List.mem_filter.1 first).2, of_decide_eq_true (List.mem_filter.1 second).2]
    have kept : (t.entries.filter equal).Sublist (ranking t) :=
      List.sublist_mergeSort trans total sorted List.filter_sublist
    have filtered := kept.filter equal
    rw [List.filter_filter] at filtered
    simp only [Bool.and_self] at filtered
    exact (filtered.eq_of_length (perm.filter equal).length_eq.symm).symm

theorem Leads.find?_eq {entries : List (String × Nat)} {n : Nat} {label : String} {count : Nat}
    (leads : Leads entries n label count) :
    entries.find? (fun e => e.2 = count) = some (label, count) := by
  obtain ⟨inside, there⟩ := List.getElem?_eq_some_iff.1 leads.there
  refine List.find?_eq_some_iff_getElem.2 ⟨decide_eq_true rfl, n, inside, there, fun m earlier => ?_⟩
  have less := leads.first m earlier _ (List.getElem?_eq_getElem (Nat.lt_trans earlier inside))
  simp [Nat.ne_of_lt less]

/-- A ranking begins with the entry that leads. -/
theorem Ranked.head?_eq {entries rows : List (String × Nat)} (ranked : Ranked entries rows) {n : Nat}
    {label : String} {count : Nat} (leads : Leads entries n label count) :
    rows.head? = some (label, count) := by
  have there : (label, count) ∈ rows := ranked.perm.mem_iff.2 (List.mem_of_getElem? leads.there)
  cases rows with
  | nil => cases there
  | cons first rest =>
    have below : first.2 ≤ count := leads.most first (ranked.perm.mem_iff.1 List.mem_cons_self)
    have above : count ≤ first.2 := by
      rcases List.mem_cons.1 there with same | later
      · rw [← same]
      · exact (List.pairwise_cons.1 ranked.descending).1 _ later
    -- So it is among the entries with the greatest number, and the first of them in either list.
    have greatest : first.2 = count := Nat.le_antisymm below above
    have found := leads.find?_eq
    rw [← List.head?_filter, ← ranked.stable, List.filter_cons, if_pos (decide_eq_true greatest)]
      at found
    exact found

/-! ## The scoreboard -/

variable {κ : Type}

/-- The row of an entry where the longest label has a width: the label, spaces up to the width and two
more, and the count. -/
def scoreRow (width : Nat) (entry : String × Nat) : String :=
  entry.1 ++ String.ofList (List.replicate (width - entry.1.length + 2) ' ') ++ toString entry.2

def leaderLine (label : String) : String := "leader: " ++ label

theorem padRight_eq (width : Nat) (entry : String × Nat) :
    s!"{padRight width entry.1}  {entry.2}" = scoreRow width entry := by
  have two : ("  " : String) = String.ofList (List.replicate 2 ' ') := rfl
  rw [scoreRow, List.replicate_add, String.ofList_append, ← two, ← String.append_assoc]
  rfl

theorem exists_scoreLines (c : Colony κ) : ∃ width,
    (0 :: c.counts.keys.map String.length).max? = some width ∧
      c.scoreLines =
        (ranking c.counts).map (scoreRow width) ++ (c.leader.map leaderLine).toList := by
  refine ⟨_, List.max?_cons', ?_⟩
  rw [← funext (padRight_eq _), scoreLines]
  cases c.leader with
  | none => exact (List.append_nil _).symm
  | some label => rfl

/-- The leader leads the counts. -/
theorem exists_leads {c : Colony κ} {label : String} (led : c.leader = some label) :
    ∃ n count, Leads c.counts.entries n label count ∧ 0 < count := by
  rcases leading_eq_some_iff.1 led with ⟨given, -⟩ | leads
  · cases given
  · exact leads

/-- The scoreboard of a colony, whatever its roster and its creatures. It has a row for each entry of
the counts, the greatest count first and entries with equal counts in their order. If some count is
positive there is a leader: its row comes first, and the last line names it. Otherwise there is none,
and no line but the rows. -/
theorem scoreboard_names_leader (c : Colony κ) :
    ∃ rows width, Ranked c.counts.entries rows ∧
      (0 :: c.counts.keys.map String.length).max? = some width ∧
      c.scoreboard = "\n".intercalate c.scoreLines ∧
      c.scoreLines = rows.map (scoreRow width) ++ (c.leader.map leaderLine).toList ∧
      ((∃ e ∈ c.counts.entries, 0 < e.2) → ∃ leader count, c.leader = some leader ∧
        rows.head? = some (leader, count) ∧
        c.scoreLines.head? = some (scoreRow width (leader, count)) ∧
        c.scoreLines.getLast? = some (leaderLine leader)) ∧
      ((∀ e ∈ c.counts.entries, e.2 = 0) →
        c.leader = none ∧ c.scoreLines = rows.map (scoreRow width)) := by
  have ranked := ranked_ranking c.counts
  obtain ⟨width, widest, lines⟩ := c.exists_scoreLines
  refine ⟨ranking c.counts, width, ranked, widest, rfl, lines, ?_, ?_⟩
  · rintro ⟨e, present, positive⟩
    cases led : c.leader with
    | none =>
      have vacant := (leading_eq_none_iff.1 led).2 e present
      omega
    | some leader =>
      obtain ⟨n, count, leads, -⟩ := exists_leads led
      have first := ranked.head?_eq leads
      rw [lines, led]
      refine ⟨leader, count, rfl, first, ?_, ?_⟩
      · rw [List.head?_append, List.head?_map, first]
        rfl
      · exact List.getLast?_concat
  · intro vacant
    have leaderless : c.leader = none :=
      leading_eq_none_iff.2 ⟨rfl, fun e present => Nat.le_of_eq (vacant e present)⟩
    refine ⟨leaderless, ?_⟩
    rw [lines, leaderless]
    exact List.append_nil _

end Vivarium.Colony
