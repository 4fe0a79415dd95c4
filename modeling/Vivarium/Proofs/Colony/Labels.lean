import Vivarium.Proofs.Colony.Census

/-!
# When labels repeat

The first species of a name has the name as its label, the next ones the name with a number. A name
may look like such a label itself, and then two species can have one label.

1. `labelsAfter_eq_map`: a label is made of a name and how many of that name there are up to its place.
2. `numbered_inj`: a numbered name says which name and which number it was made of.
3. `labels_nodup_iff`: so labels repeat exactly where a species has the numbered name of another one as
   its own, and then the counts have fewer entries than the roster.
-/

namespace Vivarium.Colony

variable {κ : Type}

/-! ## Names and their occurrences -/

def names (c : Colony κ) : List String := c.roster.toList.map Species.name

/-- Names, each with the number of times that it has occurred by then, if other names came before. -/
def occurrencesAfter (before : List String) : List String → List (String × Nat)
  | [] => []
  | name :: rest => (name, before.count name + 1) :: occurrencesAfter (name :: before) rest

/-- The label of a species whose name occurs for the given time. -/
def labelOf (name : String) (occurrence : Nat) : String :=
  if occurrence = 1 then name else s!"{name}#{occurrence}"

theorem labelsAfter_eq_map (before names : List String) :
    labelsAfter before names =
      (occurrencesAfter before names).map fun occurred => labelOf occurred.1 occurred.2 := by
  induction names generalizing before with
  | nil => rfl
  | cons name rest ih =>
    rw [labelsAfter, occurrencesAfter, List.map_cons, ih]
    rfl

theorem mem_occurrencesAfter {before names : List String} {name : String} {occurrence : Nat} :
    (name, occurrence) ∈ occurrencesAfter before names ↔
      before.count name < occurrence ∧ occurrence ≤ before.count name + names.count name := by
  induction names generalizing before with
  | nil =>
    rw [occurrencesAfter, List.count_nil]
    constructor
    · intro present
      cases present
    · omega
  | cons first rest ih =>
    rw [occurrencesAfter, List.mem_cons, ih, Prod.mk.injEq, List.count_cons, List.count_cons]
    by_cases same : first = name
    · subst same
      simp only [beq_self_eq_true, if_true, true_and]
      omega
    · simp only [beq_eq_false_iff_ne.2 same, Bool.false_eq_true, if_false, Ne.symm same, false_and,
        false_or, Nat.add_zero]

/-- No name occurs twice for the same time. -/
theorem nodup_occurrencesAfter (before names : List String) :
    (occurrencesAfter before names).Nodup := by
  induction names generalizing before with
  | nil => exact List.nodup_nil
  | cons name rest ih =>
    rw [occurrencesAfter, List.nodup_cons]
    refine ⟨fun later => ?_, ih _⟩
    have more := (mem_occurrencesAfter.1 later).1
    rw [List.count_cons_self] at more
    exact Nat.lt_irrefl _ more

/-! ## Numbered names -/

/-- A list is cut at its last separator in one way only. -/
theorem append_cons_inj {α : Type} {separator : α} {xs ys us vs : List α} (free : separator ∉ us)
    (free' : separator ∉ vs) (same : xs ++ separator :: us = ys ++ separator :: vs) :
    xs = ys ∧ us = vs := by
  rcases List.append_eq_append_iff.1 same with ⟨between, long, tail⟩ | ⟨between, long, tail⟩
  · cases between with
    | nil =>
      rw [List.append_nil] at long
      exact ⟨long.symm, (List.cons.inj tail).2⟩
    | cons first between =>
      have inside : separator ∈ us := by
        rw [(List.cons.inj tail).2]
        exact List.mem_append_right _ List.mem_cons_self
      exact absurd inside free
  · cases between with
    | nil =>
      rw [List.append_nil] at long
      exact ⟨long, (List.cons.inj tail).2.symm⟩
    | cons first between =>
      have inside : separator ∈ vs := by
        rw [(List.cons.inj tail).2]
        exact List.mem_append_right _ List.mem_cons_self
      exact absurd inside free'

theorem toList_numbered (name : String) (number : Nat) :
    s!"{name}#{number}".toList = name.toList ++ '#' :: Nat.toDigits 10 number := by
  have parts : s!"{name}#{number}" = name ++ "#" ++ number.repr := rfl
  rw [parts, String.toList_append, String.toList_append, Nat.toList_repr, List.append_assoc]
  rfl

theorem hash_notMem_toDigits (number : Nat) : '#' ∉ Nat.toDigits 10 number := by
  intro present
  have digit := Nat.isDigit_of_mem_toDigits (by decide) (by decide) present
  revert digit
  decide

/-- A numbered name says which name and which number it was made of: the number has no hash in it. -/
theorem numbered_inj {name other : String} {number count : Nat}
    (same : s!"{name}#{number}" = s!"{other}#{count}") : name = other ∧ number = count := by
  have characters := congrArg String.toList same
  rw [toList_numbered, toList_numbered] at characters
  obtain ⟨front, digits⟩ := append_cons_inj (hash_notMem_toDigits number)
    (hash_notMem_toDigits count) characters
  refine ⟨String.toList_inj.1 front, ?_⟩
  rw [← Nat.ofDigitChars_ten_toDigits (n := number), digits, Nat.ofDigitChars_ten_toDigits]

/-! ## When labels repeat -/

/-- Two occurrences of names have the same label only if one of the names is the numbered name of the
other. -/
theorem labelOf_eq_cases {name other : String} {occurrence again : Nat}
    (same : labelOf name occurrence = labelOf other again) :
    (name = other ∧ occurrence = again) ∨
      (again ≠ 1 ∧ name = s!"{other}#{again}") ∨
      (occurrence ≠ 1 ∧ other = s!"{name}#{occurrence}") := by
  rw [labelOf, labelOf] at same
  split at same
  · next once =>
    split at same
    · next once' => exact .inl ⟨same, once.trans once'.symm⟩
    · next more' => exact .inr (.inl ⟨more', same⟩)
  · next more =>
    split at same
    · exact .inr (.inr ⟨more, same.symm⟩)
    · exact .inl (numbered_inj same)

/-- The labels of names are different exactly if no name is the numbered one of a name that occurs
that many times. -/
theorem nodup_labelsAfter_iff {names : List String} :
    (labelsAfter [] names).Nodup ↔
      ∀ name number, 2 ≤ number → number ≤ names.count name → s!"{name}#{number}" ∉ names := by
  have occurs {name : String} {occurrence : Nat} :
      (name, occurrence) ∈ occurrencesAfter [] names ↔
        0 < occurrence ∧ occurrence ≤ names.count name := by
    rw [mem_occurrencesAfter, List.count_nil, Nat.zero_add]
  rw [labelsAfter_eq_map, List.nodup_map_iff_inj_on (nodup_occurrencesAfter [] names)]
  constructor
  · intro injective name number two often taken
    -- The name that looks like a label occurs for the first time somewhere.
    have first : (s!"{name}#{number}", 1) ∈ occurrencesAfter [] names :=
      occurs.2 ⟨Nat.one_pos, List.count_pos_iff.2 taken⟩
    have later : (name, number) ∈ occurrencesAfter [] names := occurs.2 ⟨by omega, often⟩
    have alike : labelOf s!"{name}#{number}" 1 = labelOf name number := by
      rw [labelOf, labelOf, if_pos rfl, if_neg (by omega)]
    have one := congrArg Prod.snd (injective _ first _ later alike)
    dsimp only at one
    omega
  · rintro free ⟨name, occurrence⟩ present ⟨other, again⟩ present' same
    obtain ⟨positive, often⟩ := occurs.1 present
    obtain ⟨positive', often'⟩ := occurs.1 present'
    have there {name : String} {occurrence : Nat} (positive : 0 < occurrence)
        (often : occurrence ≤ names.count name) : name ∈ names :=
      List.count_pos_iff.1 (Nat.lt_of_lt_of_le positive often)
    rcases labelOf_eq_cases same with ⟨rfl, rfl⟩ | ⟨more, taken⟩ | ⟨more, taken⟩
    · rfl
    · exact absurd (taken ▸ there positive often) (free other again (by omega) often')
    · exact absurd (taken ▸ there positive' often') (free name occurrence (by omega) often)

/-- Names without a hash have different labels. -/
theorem nodup_labels_of_plain {c : Colony κ} (plain : ∀ name ∈ c.names, '#' ∉ name.toList) :
    c.labels.Nodup := by
  refine nodup_labelsAfter_iff.2 fun name number _ _ taken => ?_
  refine plain _ taken ?_
  rw [toList_numbered]
  exact List.mem_append_right _ List.mem_cons_self

/-- The counts have an entry for each species exactly if the labels are different. -/
theorem length_counts_iff {c : Colony κ} :
    c.counts.entries.length = c.roster.size ↔ c.labels.Nodup := by
  have among : c.counts.keys ⊆ c.labels := fun _ present => mem_keys_counts.1 present
  constructor
  · intro all
    have length : c.labels.length ≤ c.counts.keys.length := by
      rw [length_labels, Table.keys, List.length_map, all]
    -- The counts have no label twice, so if they are as many as the labels, they are the labels.
    have distinct : c.counts.keys.Nodup := Table.nodup_keys_ofList _
    exact ((List.subperm_of_subset distinct among).perm_of_length_le length).nodup_iff.1 distinct
  · intro distinct
    rw [entries_counts distinct, List.length_zip, length_labels, List.length_map, List.length_range,
      Nat.min_self]

/-- The labels of a roster are different exactly if no species has as its name the numbered name of
another: a name with a hash and a number, where there are that many species of the name. The counts
then have an entry for each species, and otherwise they have fewer. -/
theorem labels_nodup_iff (c : Colony κ) :
    (c.labels.Nodup ↔
      ∀ name number, 2 ≤ number → number ≤ c.names.count name → s!"{name}#{number}" ∉ c.names) ∧
    (c.counts.entries.length = c.roster.size ↔ c.labels.Nodup) :=
  ⟨nodup_labelsAfter_iff, length_counts_iff⟩

/-- A species that turns round and round. -/
def turner (name : String) (name_ne : name ≠ "") : Species where
  name := name
  color := "red"
  program := ⟨#[.act .left], by decide⟩
  name_ne := name_ne

/-- Two species of one name, and one that is named like the second of them is labelled. -/
def namesakes : List Species :=
  [turner "A" (by decide), turner "A" (by decide), turner "A#2" (by decide)]

/-- A colony of the three namesakes has a label twice, and a count less than species. -/
theorem namesakes_labels :
    ∃ c, (create .empty lane { roster := some namesakes, populates := false : Founding }).1 = .ok c ∧
      c.labels = ["A", "A#2", "A#2"] ∧ ¬ c.labels.Nodup ∧
      c.counts.entries.length = 2 ∧ c.roster.size = 3 :=
  ⟨{ emptyLane with roster := namesakes.toArray }, rfl, by decide +kernel, by decide +kernel,
    by decide +kernel, rfl⟩

end Vivarium.Colony
