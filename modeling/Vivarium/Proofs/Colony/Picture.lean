import Vivarium.Colony.Picture
import Vivarium.Proofs.Colony.Founding
import Vivarium.Proofs.Colony.Labels

/-!
# Pictures show what there is

A picture of a colony shows each creature with the label, the glyph and the colour of its species, and the badges of
all species. The labels are found by the numbers of the species there, and the counts are made in the order of the
roster.

1. `Measured`: the width and the height that a picture shows are those of the grid.
2. `head?_labelOf`: a label begins with the glyph.
3. `exists_badge`: the label of an enrolled creature is on a badge.
4. `get?_counts`: a label is counted as often as it is shown.
5. `reachable_picture`: so a picture of a reachable colony is faithful to it.
-/

namespace Vivarium

/-! ## The size of the grid -/

namespace Grid

variable {α : Type} {width height : Value} {g : Grid α}

/-- A grid of two values has as many columns and rows as they say. -/
theorem size_of_ofValues (made : ofValues width height = .ok g) :
    width.whole? = some (g.width : Int) ∧ height.whole? = some (g.height : Int) := by
  obtain ⟨narrow, -, made⟩ := Fault.exists_of_bind_eq_ok made
  obtain ⟨low, -, made⟩ := Fault.exists_of_bind_eq_ok made
  split at made
  · cases made
  · obtain ⟨rows, counted, made⟩ := Fault.exists_of_bind_eq_ok made
    have high := Value.whole?_of_toCount counted
    split at made
    · cases made
    · next columns wide =>
      obtain ⟨_, -, made⟩ := Fault.exists_of_bind_eq_ok made
      rw [ofSize?] at made
      split at made
      · next grid sized =>
        split at sized
        · next positive =>
          cases sized
          cases made
          refine ⟨wide.trans (congrArg some ?_), high.trans (congrArg some ?_)⟩
          · exact (Int.toNat_of_nonneg (by omega)).symm
          · exact (Int.toNat_of_nonneg (by omega)).symm
        · cases sized
      · cases made

end Grid

namespace Colony

variable {κ : Type} {c : Colony κ}

/-- The grid of the colony has as many columns and rows as the settings say. -/
structure Measured (c : Colony κ) : Prop where
  width : c.settings.width.whole? = some (c.board.grid.width : Int)
  height : c.settings.height.whole? = some (c.board.grid.height : Int)

theorem Kin.measured {d : Colony κ} (kin : c.Kin d) (measured : c.Measured) : d.Measured where
  width := by rw [kin.settings, kin.width_eq, measured.width]
  height := by rw [kin.settings, kin.height_eq, measured.height]

theorem unpopulated_measured {settings : Settings} {founding : Founding κ} {roster : List Species}
    {journal : Array Journal.Entry} (founded : unpopulated settings founding roster journal = .ok c) :
    c.Measured := by
  obtain ⟨generator, grid, seeded, made, rfl⟩ := made_of_unpopulated founded
  obtain ⟨width, height⟩ := Grid.size_of_ofValues made
  exact ⟨width, height⟩

theorem Reachable.measured [CoinSource κ] (reached : Reachable c) : c.Measured := by
  induction reached with
  | founded created =>
    obtain ⟨-, roster, journal, empty, -, founded, done⟩ := create_eq_ok_iff.1 created
    have twin := (inhabit_settles empty).twin
    rw [done] at twin
    exact twin.toKin.measured (unpopulated_measured founded)
  | operated reached operation ih => exact (perform_kin reached.orderly operation).measured ih

/-! ## Labels and glyphs -/

theorem map_fst_occurrencesAfter (before names : List String) :
    (occurrencesAfter before names).map (·.1) = names := by
  induction names generalizing before with
  | nil => rfl
  | cons name rest ih => rw [occurrencesAfter, List.map_cons, ih]

/-- The label of a species is made of its name. -/
theorem exists_labelOf {n : Nat} {label : String} {s : Species} (labelled : c.labels[n]? = some label)
    (listed : c.roster[n]? = some s) : ∃ occurrence, label = labelOf s.name occurrence := by
  rw [labels, labelsAfter_eq_map, List.getElem?_map] at labelled
  obtain ⟨⟨name, occurrence⟩, occurred, rfl⟩ := Option.map_eq_some_iff.1 labelled
  have named : ((occurrencesAfter [] (c.roster.toList.map Species.name)).map (·.1))[n]? = some s.name := by
    rw [map_fst_occurrencesAfter, List.getElem?_map, Array.getElem?_toList, listed]
    rfl
  rw [List.getElem?_map, occurred] at named
  cases named
  exact ⟨occurrence, rfl⟩

/-- A label begins with the first character of the name. -/
theorem head?_labelOf {name : String} (named : name ≠ "") (occurrence : Nat) :
    (labelOf name occurrence).toList.head? = name.toList.head? := by
  rw [labelOf]
  split
  · rfl
  · obtain ⟨first, later, characters⟩ := List.exists_cons_of_ne_nil (mt String.toList_eq_nil_iff.1 named)
    rw [toList_numbered, characters]
    rfl

theorem head?_name (s : Species) : s.name.toList.head? = some s.glyph :=
  List.head?_eq_some_head _

/-! ## Figures -/

/-- The number of an enrolled creature's species leads to its label and its badge. -/
theorem exists_badge (enrolled : c.Enrolled) {d : Creature} (present : d.lineage ∈ c.lineages) (round : Int) :
    c.labels[d.lineage.number]? = some (figure c.labels d).species ∧
      ⟨(figure c.labels d).species, (figure c.labels d).glyph, (figure c.labels d).color⟩ ∈
        (c.picture round).badges ∧
      (figure c.labels d).species.toList.head? = some (figure c.labels d).glyph := by
  have listed : c.roster[d.lineage.number]? = some d.species := (lineage?_eq_some_iff.1 (enrolled _ present)).2
  have below : d.lineage.number < c.labels.length := by
    rw [length_labels]
    exact enrolled.number_lt present
  have labelled : c.labels[d.lineage.number]? = some (figure c.labels d).species := by
    rw [figure, List.getElem?_eq_getElem below]
    rfl
  refine ⟨labelled, List.mem_map.2 ⟨((figure c.labels d).species, d.species), ?_, rfl⟩, ?_⟩
  · refine List.mem_of_getElem? (List.getElem?_zip_eq_some.2 ⟨labelled, ?_⟩)
    rw [Array.getElem?_toList, listed]
  · obtain ⟨occurrence, made⟩ := exists_labelOf labelled listed
    rw [made, head?_labelOf d.species.name_ne, head?_name]
    rfl

/-- A label is counted as often as it is shown. -/
theorem get?_counts (enrolled : c.Enrolled) (distinct : c.labels.Nodup) {label : String} (used : label ∈ c.labels)
    (round : Int) :
    c.counts.get? label = some ((c.picture round).figures.countP fun f => f.species = label) := by
  obtain ⟨n, labelled⟩ := List.getElem?_of_mem used
  have there : (label, c.countOf n) ∈ c.counts.entries := by
    refine List.mem_of_getElem? (i := n) ?_
    rw [getElem?_entries_counts distinct, labelled]
    rfl
  have keys : c.counts.keys.Nodup := Table.nodup_keys_ofList _
  rw [(Table.get?_eq_some_iff keys).2 there, countOf, picture, List.countP_map]
  refine congrArg some (List.countP_congr fun d present => ?_)
  obtain ⟨shown, -, -⟩ := exists_badge enrolled (List.mem_map_of_mem present) round
  rw [beq_iff_eq, Function.comp_apply, decide_eq_true_iff]
  constructor
  · intro same
    exact Option.some.inj (shown.symm.trans (same ▸ labelled))
  · intro same
    -- The label stands at one place in the roster only.
    have below := (List.getElem?_eq_some_iff.1 labelled).1
    exact ((List.getElem?_inj below distinct).1 (labelled.trans (same ▸ shown.symm))).symm

/-! ## Faithful pictures -/

structure Faithful (c : Colony κ) (p : Picture) : Prop where
  /-- There is a figure for each creature, in the order the creatures were added, and nothing else. -/
  complete : p.figures.length = c.population
  /-- It shows the creature, and the label of its species in the roster. -/
  shown : ∀ (slot : Nat) d, c.board.creatures[slot]? = some d → ∃ f, p.figures[slot]? = some f ∧
    f.id = slot ∧ f.position = d.position ∧ f.direction = d.direction ∧ f.counter = d.counter ∧
    c.labels[d.lineage.number]? = some f.species
  /-- All figures are within the size that is shown. -/
  inside : ∃ columns rows : Int, p.width.whole? = some columns ∧ p.height.whole? = some rows ∧
    ∀ f ∈ p.figures, 0 ≤ f.position.x ∧ f.position.x < columns ∧ 0 ≤ f.position.y ∧ f.position.y < rows
  /-- No two of them are at one place. -/
  apart : (p.figures.map Figure.position).Nodup
  /-- There is a badge for each species of the roster, with its label. -/
  roster : p.badges.map Badge.label = c.labels
  /-- Each figure has the label, the glyph and the colour of a badge. -/
  badged : ∀ f ∈ p.figures, ⟨f.species, f.glyph, f.color⟩ ∈ p.badges
  /-- The glyph is the first character of the label. -/
  lettered : ∀ f ∈ p.figures, f.species.toList.head? = some f.glyph
  /-- If labels do not repeat, there are as many figures with one as creatures are counted for it. -/
  counted : c.labels.Nodup → ∀ label ∈ c.labels,
    c.counts.get? label = some (p.figures.countP fun f => f.species = label)

/-- Every picture of a reachable colony is faithful. -/
theorem reachable_picture [CoinSource κ] (reached : Reachable c) (round : Int) :
    c.Faithful (c.picture round) := by
  have enrolled := reached.enrolled
  have orderly := reached.orderly
  have measured := reached.measured
  have of_mem {f : Figure} (present : f ∈ (c.picture round).figures) :
      ∃ d ∈ c.board.creatures.toList, figure c.labels d = f := List.mem_map.1 present
  have badge {d : Creature} (present : d ∈ c.board.creatures.toList) :=
    exists_badge enrolled (List.mem_map_of_mem present) round
  constructor
  case complete => rw [picture, List.length_map, Array.length_toList, population]
  case shown =>
    intro slot d here
    refine ⟨figure c.labels d, ?_, orderly.numbered here, rfl, rfl, rfl, ?_⟩
    · rw [picture, List.getElem?_map, Array.getElem?_toList, here]
      rfl
    · exact (badge (Array.mem_toList_iff.2 (Array.mem_of_getElem? here))).1
  case inside =>
    refine ⟨_, _, measured.width, measured.height, fun f present => ?_⟩
    obtain ⟨d, living, rfl⟩ := of_mem present
    obtain ⟨slot, here⟩ := Array.getElem?_of_mem (Array.mem_toList_iff.1 living)
    exact Grid.contains_iff.1 (orderly.agrees.contains here)
  case apart =>
    rw [picture, List.map_map, List.nodup_iff_getElem?_ne_getElem?]
    intro i j before inside same
    rw [List.length_map] at inside
    rw [List.getElem?_map, List.getElem?_map, List.getElem?_eq_getElem (Nat.lt_trans before inside),
      List.getElem?_eq_getElem inside] at same
    have alike := orderly.agrees.position_injective (Array.getElem?_toList ▸ List.getElem?_eq_getElem _)
      (Array.getElem?_toList ▸ List.getElem?_eq_getElem _) (Option.some.inj same)
    exact absurd alike (Nat.ne_of_lt before)
  case roster =>
    rw [picture, List.map_map]
    exact List.map_fst_zip (by rw [length_labels, Array.length_toList])
  case badged =>
    intro f present
    obtain ⟨d, living, rfl⟩ := of_mem present
    exact (badge living).2.1
  case lettered =>
    intro f present
    obtain ⟨d, living, rfl⟩ := of_mem present
    exact (badge living).2.2
  case counted =>
    intro distinct label used
    exact get?_counts enrolled distinct used round

/-- In the lane where the hopper was infected the picture shows two traps. -/
theorem huntedLane_picture :
    Reachable huntedLane ∧ huntedLane.Faithful (huntedLane.picture 1) ∧
      (huntedLane.picture 1).figures.map Figure.species = ["Trap", "Trap"] :=
  ⟨huntedLane_reachable, reachable_picture huntedLane_reachable 1, by decide +kernel⟩

end Colony

end Vivarium
