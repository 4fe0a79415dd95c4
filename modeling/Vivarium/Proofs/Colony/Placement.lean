import Vivarium.Proofs.Colony.Founding
import Vivarium.Proofs.Colony.Labels
import Vivarium.Proofs.Value

/-!
# Creatures that cannot be placed

A creature is placed or it is refused. Refusing one of a species in the roster leaves the colony as it
was. A new species comes into the roster before its creature is placed, and it stays there even if the
creature is refused.

1. `add_isOk_iff`: when a creature is placed.
2. `add_refused`: what a refusal tells of. It takes nothing back of what came before the placing.
3. `enlarged_push`: what is different with a species more in the roster.
4. `reachable_refused`: so what a refusal leaves of a reachable colony.
-/

namespace Vivarium

namespace Board

variable {σ : Type} {b : Board σ} {p : Placement} {fault : Fault}

/-- The fault of a position that is not on the grid. Its message has the coordinates in it, and cannot be
written if one of them has too many digits. -/
def offGrid (position : Position) : Fault :=
  if ∀ n ∈ [position.x, position.y], n.natAbs < 10 ^ Text.digitLimit then .placedOutside position
  else .unwritable

/-- Why a creature is refused: its species or its position is not given, its position is not on the
grid or not free, or its direction is none. -/
inductive Refusal (b : Board σ) (p : Placement) : Fault → Prop
  | incomplete (missing : p.lineage = none ∨ p.position = none) :
      Refusal b p .incompletePlacement
  | outside {position : Position} (asked : p.position = some position)
      (off : b.grid.contains position = false) : Refusal b p (offGrid position)
  | occupied {position : Position} {slot : Nat} (asked : p.position = some position)
      (held : b.grid.get? position = some slot) : Refusal b p (.placedOnOccupied position)
  | undirected {fault : Fault} (unknown : p.direction.toDirection = .error fault) :
      Refusal b p fault

/-- With a limit that can be used, nothing else keeps a creature from being placed. -/
theorem refusal_of_creatureFor {limit : Option TurnLimit}
    (limited : TurnLimit.ofValue p.limit = .ok limit) (refused : b.creatureFor p = .error fault) :
    b.Refusal p fault := by
  rw [creatureFor] at refused
  split at refused
  · next lineage position known asked =>
    split at refused
    · next off =>
      obtain rfl := Except.error.inj refused
      have told : Fault.telling (.placedOutside position) position.coordinates = offGrid position :=
        Fault.telling_of_ints (.placedOutside position) [position.x, position.y]
      rw [told]
      exact .outside asked (by simpa using off)
    · split at refused
      · next taken =>
        cases refused
        obtain ⟨slot, held⟩ := Option.isSome_iff_exists.1 taken
        exact .occupied asked held
      · rw [limited] at refused
        cases directed : p.direction.toDirection with
        | error fault =>
          rw [directed] at refused
          cases refused
          exact .undirected directed
        | ok direction =>
          rw [directed] at refused
          cases refused
  · next incomplete =>
    cases refused
    refine .incomplete ?_
    cases known : p.lineage with
    | none => exact .inl rfl
    | some lineage =>
      cases asked : p.position with
      | none => exact .inr rfl
      | some position => exact absurd asked (incomplete lineage position known)

end Board

namespace Colony

variable {κ : Type} {c : Colony κ} {recruit : Recruit} {position : Option Position}
  {direction : Value}

/-! ## When a creature is placed -/

/-- What it takes to add a creature: a species that is known, a free square of the grid, and a
direction. -/
structure Admits (c : Colony κ) (recruit : Recruit) (position : Option Position)
    (direction : Value) : Prop where
  known : ∃ lineage, (c.enlist recruit).1 = some lineage
  free : ∃ p, position = some p ∧ c.board.grid.contains p = true ∧ c.board.grid.get? p = none
  directed : ∃ d, direction.toDirection = .ok d

/-- With settings that were checked, a creature is placed exactly if there is all that it takes. -/
theorem add_isOk_iff (valid : c.settings.validate = .ok ()) :
    (∃ id, (c.add recruit position direction).1 = .ok id) ↔ c.Admits recruit position direction := by
  rw [add_eq]
  constructor
  · rintro ⟨id, added⟩
    cases made : c.board.creatureFor (c.placement recruit position direction) with
    | error fault =>
      rw [made] at added
      cases added
    | ok d =>
      obtain ⟨lineage, p, directed, limit, known, asked, inside, free, -, turned, -⟩ :=
        creatureFor_eq_ok made
      exact ⟨⟨lineage, known⟩, ⟨p, asked, inside, free⟩, directed, turned⟩
  · rintro ⟨⟨lineage, known⟩, ⟨p, rfl, inside, free⟩, directed, turned⟩
    obtain ⟨limit, limited⟩ := Settings.exists_limit valid
    refine ⟨c.nextId, ?_⟩
    simp [Board.creatureFor, placement, known, inside, free, limited, turned, Except.map]

/-- A refusal tells of what is no good. It leaves the colony with the recruit enlisted. -/
theorem add_refused (valid : c.settings.validate = .ok ()) {fault : Fault}
    (refused : (c.add recruit position direction).1 = .error fault) :
    c.board.Refusal (c.placement recruit position direction) fault ∧
      (c.add recruit position direction).2 = (c.enlist recruit).2 := by
  obtain ⟨limit, limited⟩ := Settings.exists_limit valid
  rw [add_eq] at refused ⊢
  cases made : c.board.creatureFor (c.placement recruit position direction) with
  | error fault =>
    rw [made] at refused
    cases refused
    exact ⟨Board.refusal_of_creatureFor limited made, rfl⟩
  | ok d =>
    rw [made] at refused
    cases refused

/-! ## A species more in the roster -/

theorem labelsAfter_append (before names more : List String) :
    labelsAfter before (names ++ more) =
      labelsAfter before names ++ labelsAfter (names.reverse ++ before) more := by
  induction names generalizing before with
  | nil => rfl
  | cons name rest ih =>
    rw [List.cons_append, labelsAfter, labelsAfter, ih, List.reverse_cons, List.append_assoc]
    rfl

theorem leading_append_zero (best : Option String) (most : Nat) (entries : List (String × Nat))
    (label : String) :
    leading best most (entries ++ [(label, 0)]) = leading best most entries := by
  induction entries generalizing best most with
  | nil => simp [leading]
  | cons entry rest ih =>
    obtain ⟨first, count⟩ := entry
    rw [List.cons_append, leading, leading, ih, ih]

theorem labels_push (c : Colony κ) (species : Species) :
    labels { c with roster := c.roster.push species } =
      c.labels ++ [labelOf species.name (c.names.count species.name + 1)] := by
  have after : (c.names.reverse ++ []).count species.name = c.names.count species.name := by
    rw [List.append_nil, List.count_reverse]
  rw [labels, Array.toList_push, List.map_append, labelsAfter_append]
  show c.labels ++ labelsAfter (c.names.reverse ++ []) [species.name] = _
  rw [labelsAfter, labelsAfter, after]
  rfl

/-- No creature is of a species that only just came into the roster. -/
theorem Enrolled.countOf_size (enrolled : c.Enrolled) : c.countOf c.roster.size = 0 := by
  rw [countOf_eq, List.countP_eq_zero]
  intro l present same
  exact Nat.ne_of_lt (enrolled.number_lt present) (beq_iff_eq.1 same)

theorem counts_push (enrolled : c.Enrolled) {species : Species}
    (distinct : (labels { c with roster := c.roster.push species }).Nodup) :
    (counts { c with roster := c.roster.push species }).entries =
      c.counts.entries ++ [(labelOf species.name (c.names.count species.name + 1), 0)] := by
  -- The labels that there were stay in front of the new one, and so do their counts.
  have fewer : c.labels.Nodup := by
    rw [labels_push] at distinct
    exact distinct.of_append_left
  have numbers : (List.range (c.roster.push species).size).map c.countOf =
      (List.range c.roster.size).map c.countOf ++ [0] := by
    rw [Array.size_push, List.range_succ, List.map_append, List.map_singleton, enrolled.countOf_size]
  rw [entries_counts distinct, entries_counts fewer, labels_push]
  show List.zip _ ((List.range (c.roster.push species).size).map c.countOf) = _
  rw [numbers, List.zip_append]
  · rfl
  · rw [length_labels, List.length_map, List.length_range]

theorem settlers_push {count : Int} {numbers : List Nat}
    (counted : c.settings.count.toCount = .ok count) (settling : c.settlers = .ok numbers)
    (species : Species) :
    settlers { c with roster := c.roster.push species } =
      .ok (numbers ++ List.replicate count.toNat c.roster.size) := by
  have before : numbers =
      (List.range c.roster.size).flatMap fun number => List.replicate count.toNat number := by
    rw [settlers, counted] at settling
    split at settling
    · next empty =>
      cases settling
      rw [Array.isEmpty_iff.1 empty]
      rfl
    · cases settling
      rfl
  have after : (List.range (c.roster.size + 1)).flatMap
      (fun number => List.replicate count.toNat number) =
        numbers ++ List.replicate count.toNat c.roster.size := by
    rw [List.range_succ, List.flatMap_append, ← before, List.flatMap_singleton]
  rw [settlers, counted, if_neg (by simp), Array.size_push]
  exact congrArg Except.ok after

/-- A colony that has a species more in its roster, and what this makes of its counts. Only a label
that another species has as well keeps the counts and the leader from being the same for the others. -/
structure Enlarged (c : Colony κ) (species : Species) (e : Colony κ) : Prop where
  whole : e = { c with roster := c.roster.push species }
  labels : e.labels = c.labels ++ [labelOf species.name (c.names.count species.name + 1)]
  counts : e.labels.Nodup → e.counts.entries =
    c.counts.entries ++ [(labelOf species.name (c.names.count species.name + 1), 0)]
  leader : e.labels.Nodup → e.leader = c.leader
  /-- A reset will place creatures of the species as well. -/
  settlers : ∀ count numbers, c.settings.count.toCount = .ok count → c.settlers = .ok numbers →
    e.settlers = .ok (numbers ++ List.replicate count.toNat c.roster.size)

theorem enlarged_push (enrolled : c.Enrolled) (species : Species) :
    c.Enlarged species { c with roster := c.roster.push species } where
  whole := rfl
  labels := labels_push c species
  counts := counts_push enrolled
  leader distinct := by
    rw [leader, counts_push enrolled distinct, leading_append_zero]
    rfl
  settlers _ _ counted settling := settlers_push counted settling species

/-! ## What a refusal leaves -/

/-- In a reachable colony a creature is placed exactly if its species is known, its position is a free
square of the grid, and its direction is one. Otherwise it is refused for one of these. If it is one of a
species in the roster, this leaves the colony as it was, and so whatever is done later comes out the
same. If it is one of a new species, the roster has got this species and nothing else is different: it
has a label, it is counted with no creatures, and a reset will place some. -/
theorem reachable_refused [CoinSource κ] (reached : Reachable c) (recruit : Recruit)
    (position : Option Position) (direction : Value) :
    ((∃ id, (c.add recruit position direction).1 = .ok id) ↔
      c.Admits recruit position direction) ∧
    ∀ fault, (c.add recruit position direction).1 = .error fault →
      c.board.Refusal (c.placement recruit position direction) fault ∧
      (∀ number, recruit = .listed number → (c.add recruit position direction).2 = c) ∧
      ∀ species, recruit = .new species →
        c.Enlarged species (c.add recruit position direction).2 := by
  refine ⟨add_isOk_iff reached.valid, fun fault refused => ?_⟩
  obtain ⟨reason, left⟩ := add_refused reached.valid refused
  rw [left]
  refine ⟨reason, ?_, ?_⟩
  · rintro number rfl
    rfl
  · rintro species rfl
    exact enlarged_push reached.enrolled species

/-- A creature of a third species is refused where the hopper stands. -/
theorem facingLane_refused :
    Reachable facingLane ∧
    (facingLane.add (.new (turner "C" (by decide))) (some ⟨0, 0⟩) (.int 0)).1 =
      .error (.placedOnOccupied ⟨0, 0⟩) ∧
    facingLane.Enlarged (turner "C" (by decide))
      (facingLane.add (.new (turner "C" (by decide))) (some ⟨0, 0⟩) (.int 0)).2 := by
  have refused : (facingLane.add (.new (turner "C" (by decide))) (some ⟨0, 0⟩) (.int 0)).1 =
      .error (.placedOnOccupied ⟨0, 0⟩) := rfl
  have left := (reachable_refused facingLane_reachable (.new (turner "C" (by decide)))
    (some ⟨0, 0⟩) (.int 0)).2 _ refused
  exact ⟨facingLane_reachable, refused, left.2.2 _ rfl⟩

/-- The refusal leaves another roster, other labels and other counts than there were. -/
theorem facingLane_enlarged :
    Reachable facingLane ∧ ∃ fault left,
      facingLane.add (.new (turner "C" (by decide))) (some ⟨0, 0⟩) (.int 0) =
        (.error fault, left) ∧
      facingLane.roster.size = 2 ∧ left.roster.size = 3 ∧
      facingLane.labels = ["Hopper", "Trap"] ∧ left.labels = ["Hopper", "Trap", "C"] ∧
      facingLane.counts.entries = [("Hopper", 1), ("Trap", 1)] ∧
      left.counts.entries = [("Hopper", 1), ("Trap", 1), ("C", 0)] :=
  ⟨facingLane_reachable, .placedOnOccupied ⟨0, 0⟩, _, rfl, by decide +kernel⟩

end Colony

end Vivarium
