import Mathlib.Algebra.Group.Nat.Defs
import Vivarium.Value.Number

/-!
# What can be written of a value

A value is written from the outside in and from left to right. That fails at the first whole number
with too many digits, or where too many values stand one inside the other.

1. `depth`: how many values of a value stand one inside the other.
2. `flaw?_eq_none_iff`: a value can be written if its numbers are short enough and it is not too deep.
3. `flaw?_cases`: otherwise the flaw tells which of the two it is.
-/

namespace Vivarium

namespace Value

mutual

/-- How many values stand one inside the other, the value itself among them. -/
def depth : Value → Nat
  | list items => depths items + 1
  | pair first second => max (depth first) (depth second) + 1
  | set members => depths members + 1
  | map entries => entryDepths entries + 1
  | named _ content => depth content
  | _ => 1

def depths : List Value → Nat
  | [] => 0
  | item :: rest => max (depth item) (depths rest)

/-- The greatest depth of the keys and values of a map. -/
def entryDepths : List (Value × Value) → Nat
  | [] => 0
  | (key, value) :: rest => max (max (depth key) (depth value)) (entryDepths rest)

end

theorem depth_pos : ∀ v : Value, 0 < v.depth
  | named _ content => by
    rw [depth]
    exact depth_pos content
  | null | bool _ | int _ | float _ | text _ | date _ | moment _ | bytes _ | again _ => Nat.one_pos
  | list _ | pair .. | set _ | map _ => by
    rw [depth]
    exact Nat.succ_pos _

/-- Without room nothing is written. -/
theorem flaw?_zero (v : Value) : v.flaw? 0 = some (.tooDeep " while getting the repr of an object") := by
  cases v <;> rfl

mutual

/-- A value can be written if its numbers are short enough and there is room for its depth. -/
theorem flaw?_eq_none_iff : ∀ (v : Value) (room : Nat),
    v.flaw? room = none ↔ v.isWritable = true ∧ v.depth ≤ room
  | v, 0 => by
    have pos := v.depth_pos
    rw [flaw?_zero]
    exact ⟨nofun, fun fine => by omega⟩
  | int n, room + 1 => by
    have single : (int n).depth = 1 := rfl
    rw [flaw?, single]
    cases (int n).isWritable <;> simp
  | list items, room + 1 => by
    rw [flaw?, isWritable, depth, Nat.add_le_add_iff_right]
    exact firstFlaw?_eq_none_iff items room
  | pair first second, room + 1 => by
    rw [flaw?, isWritable, depth, Nat.add_le_add_iff_right, Option.or_eq_none_iff,
      flaw?_eq_none_iff first room, flaw?_eq_none_iff second room, Bool.and_eq_true, Nat.max_le]
    exact and_and_and_comm
  | set members, room + 1 => by
    rw [flaw?, isWritable, depth, Nat.add_le_add_iff_right]
    exact firstFlaw?_eq_none_iff members room
  | map entries, room + 1 => by
    rw [flaw?, isWritable, depth, Nat.add_le_add_iff_right]
    exact entryFlaw?_eq_none_iff entries room
  | named _ content, room + 1 => by
    rw [flaw?, isWritable, depth]
    exact flaw?_eq_none_iff content (room + 1)
  | null, _ + 1 | bool _, _ + 1 | float _, _ + 1 | text _, _ + 1 | date _, _ + 1 | moment _, _ + 1
  | bytes _, _ + 1 | again _, _ + 1 => by simp [flaw?, isWritable, depth]

theorem firstFlaw?_eq_none_iff : ∀ (items : List Value) (room : Nat),
    firstFlaw? items room = none ↔ areWritable items = true ∧ depths items ≤ room
  | [], room => by simp [firstFlaw?, areWritable, depths]
  | item :: rest, room => by
    rw [firstFlaw?, areWritable, depths, Option.or_eq_none_iff, flaw?_eq_none_iff item room,
      firstFlaw?_eq_none_iff rest room, Bool.and_eq_true, Nat.max_le]
    exact and_and_and_comm

theorem entryFlaw?_eq_none_iff : ∀ (entries : List (Value × Value)) (room : Nat),
    entryFlaw? entries room = none ↔ haveWritable entries = true ∧ entryDepths entries ≤ room
  | [], room => by simp [entryFlaw?, haveWritable, entryDepths]
  | (key, value) :: rest, room => by
    rw [entryFlaw?, haveWritable, entryDepths, Option.or_eq_none_iff, Option.or_eq_none_iff,
      flaw?_eq_none_iff key room, flaw?_eq_none_iff value room, entryFlaw?_eq_none_iff rest room,
      Bool.and_eq_true, Bool.and_eq_true, Nat.max_le, Nat.max_le,
      and_and_and_comm (a := key.isWritable = true)]
    exact and_and_and_comm

end

/-- A flaw says that a number has too many digits, or that there are too many values in each other. -/
def IsFlaw (writable : Bool) (depth room : Nat) (flaw : Fault) : Prop :=
  flaw = .unwritable ∧ writable = false ∨
    flaw = .tooDeep " while getting the repr of an object" ∧ room < depth

theorem IsFlaw.weaken {writable writable' : Bool} {depth depth' room room' : Nat} {flaw : Fault}
    (given : IsFlaw writable depth room flaw) (less : writable = false → writable' = false)
    (deeper : room < depth → room' < depth') : IsFlaw writable' depth' room' flaw :=
  given.imp (And.imp_right less) (And.imp_right deeper)

mutual

/-- The flaw of a value that cannot be written. -/
theorem flaw?_cases : ∀ (v : Value) (room : Nat) (flaw : Fault), v.flaw? room = some flaw →
    IsFlaw v.isWritable v.depth room flaw
  | v, 0 => by
    intro flaw found
    rw [flaw?_zero] at found
    cases found
    exact .inr ⟨rfl, v.depth_pos⟩
  | int n, room + 1 => by
    intro flaw found
    rw [flaw?] at found
    cases short : (int n).isWritable with
    | true =>
      rw [short] at found
      cases found
    | false =>
      rw [short] at found
      cases found
      exact .inl ⟨rfl, rfl⟩
  | list items, room + 1 => by
    intro flaw found
    rw [flaw?] at found
    refine (firstFlaw?_cases items room flaw found).weaken id fun deep => ?_
    rw [depth]
    exact Nat.succ_lt_succ deep
  | pair first second, room + 1 => by
    intro flaw found
    rw [flaw?, Option.or_eq_some_iff] at found
    rcases found with found | ⟨-, found⟩
    · refine (flaw?_cases first room flaw found).weaken (fun long => ?_) fun deep => ?_
      · rw [isWritable, long, Bool.false_and]
      · rw [depth]
        exact Nat.succ_lt_succ (Nat.lt_of_lt_of_le deep (Nat.le_max_left _ _))
    · refine (flaw?_cases second room flaw found).weaken (fun long => ?_) fun deep => ?_
      · rw [isWritable, long, Bool.and_false]
      · rw [depth]
        exact Nat.succ_lt_succ (Nat.lt_of_lt_of_le deep (Nat.le_max_right _ _))
  | set members, room + 1 => by
    intro flaw found
    rw [flaw?] at found
    refine (firstFlaw?_cases members room flaw found).weaken id fun deep => ?_
    rw [depth]
    exact Nat.succ_lt_succ deep
  | map entries, room + 1 => by
    intro flaw found
    rw [flaw?] at found
    refine (entryFlaw?_cases entries room flaw found).weaken id fun deep => ?_
    rw [depth]
    exact Nat.succ_lt_succ deep
  | named _ content, room + 1 => by
    intro flaw found
    rw [flaw?] at found
    exact flaw?_cases content (room + 1) flaw found
  | null, _ + 1 | bool _, _ + 1 | float _, _ + 1 | text _, _ + 1 | date _, _ + 1 | moment _, _ + 1
  | bytes _, _ + 1 | again _, _ + 1 => by
    intro flaw found
    rw [flaw?] at found
    · cases found
    all_goals nofun

theorem firstFlaw?_cases : ∀ (items : List Value) (room : Nat) (flaw : Fault),
    firstFlaw? items room = some flaw → IsFlaw (areWritable items) (depths items) room flaw
  | [], _ => by
    intro flaw found
    cases found
  | item :: rest, room => by
    intro flaw found
    rw [firstFlaw?, Option.or_eq_some_iff] at found
    rcases found with found | ⟨-, found⟩
    · refine (flaw?_cases item room flaw found).weaken (fun long => ?_) fun deep => ?_
      · rw [areWritable, long, Bool.false_and]
      · exact Nat.lt_of_lt_of_le deep (Nat.le_max_left _ _)
    · refine (firstFlaw?_cases rest room flaw found).weaken (fun long => ?_) fun deep => ?_
      · rw [areWritable, long, Bool.and_false]
      · exact Nat.lt_of_lt_of_le deep (Nat.le_max_right _ _)

theorem entryFlaw?_cases : ∀ (entries : List (Value × Value)) (room : Nat) (flaw : Fault),
    entryFlaw? entries room = some flaw → IsFlaw (haveWritable entries) (entryDepths entries) room flaw
  | [], _ => by
    intro flaw found
    cases found
  | (key, value) :: rest, room => by
    intro flaw found
    rw [entryFlaw?, Option.or_eq_some_iff, Option.or_eq_some_iff] at found
    rcases found with (found | ⟨-, found⟩) | ⟨-, found⟩
    · refine (flaw?_cases key room flaw found).weaken (fun long => ?_) fun deep => ?_
      · rw [haveWritable, long, Bool.false_and, Bool.false_and]
      · rw [entryDepths]
        omega
    · refine (flaw?_cases value room flaw found).weaken (fun long => ?_) fun deep => ?_
      · rw [haveWritable, long, Bool.and_false, Bool.false_and]
      · rw [entryDepths]
        omega
    · refine (entryFlaw?_cases rest room flaw found).weaken (fun long => ?_) fun deep => ?_
      · rw [haveWritable, long, Bool.and_false]
      · rw [entryDepths]
        omega

end

/-! ## Numbers -/

theorem isWritable_int {n : Int} : (int n).isWritable = true ↔ n.natAbs < 10 ^ Text.digitLimit := by
  rw [isWritable, decide_eq_true_iff, Nat.pow_eq]

/-- A number can be written if it is short enough. -/
theorem flaw?_of_number {v : Value} {x : Number} (known : v.number? = some x) (room : Nat) :
    v.flaw? (room + 1) = if v.isWritable then none else some .unwritable := by
  cases v with
  | int | bool | float => rfl
  | _ => cases known

end Value

/-! ## Messages -/

namespace Fault

variable {fault flaw : Fault} {values : List Value}

/-- Values that can be told leave a fault as it is. -/
theorem telling_of_told (fault : Fault) (told : Value.untold? values = none) :
    fault.telling values = fault := by
  rw [telling, told, Option.getD_none]

theorem telling_of_untold (fault : Fault) (untold : Value.untold? values = some flaw) :
    fault.telling values = flaw := by
  rw [telling, untold, Option.getD_some]

/-- A fault that tells of values is itself, or their first flaw. -/
theorem telling_cases (fault : Fault) (values : List Value) :
    fault.telling values = fault ∨
      ∃ flaw, Value.untold? values = some flaw ∧ fault.telling values = flaw := by
  cases found : Value.untold? values with
  | none => exact .inl (telling_of_told fault found)
  | some flaw => exact .inr ⟨flaw, rfl, telling_of_untold fault found⟩

theorem exists_flaw_of_untold (untold : Value.untold? values = some flaw) :
    ∃ v ∈ values, v.flaw? Value.roomToTell = some flaw :=
  List.exists_of_findSome?_eq_some untold

/-- Of numbers, only those cannot be told that have too many digits. -/
theorem untold_of_numbers (numbers : ∀ v ∈ values, ∃ x, v.number? = some x)
    (untold : Value.untold? values = some flaw) :
    flaw = .unwritable ∧ ∃ v ∈ values, v.isWritable = false := by
  obtain ⟨v, told, found⟩ := exists_flaw_of_untold untold
  obtain ⟨x, known⟩ := numbers v told
  rw [Value.roomToTell, Value.flaw?_of_number known] at found
  split at found
  · cases found
  · next long => exact ⟨(Option.some.inj found).symm, v, told, by simpa using long⟩

/-- Whole numbers can be told that are all short enough. -/
theorem untold_of_ints (told : List Int) : Value.untold? (told.map .int) =
    if ∀ n ∈ told, n.natAbs < 10 ^ Text.digitLimit then none else some .unwritable := by
  induction told with
  | nil => exact (if_pos nofun).symm
  | cons n rest ih =>
    have first : (Value.int n).flaw? Value.roomToTell =
        if n.natAbs < 10 ^ Text.digitLimit then none else some .unwritable := by
      rw [Value.roomToTell, Value.flaw?_of_number rfl]
      simp only [Value.isWritable_int]
    rw [Value.untold?] at ih ⊢
    rw [List.map_cons, List.findSome?_cons, first, ih]
    by_cases short : n.natAbs < 10 ^ Text.digitLimit
    · simp only [List.forall_mem_cons, short, true_and, if_true]
    · simp only [List.forall_mem_cons, short, false_and, if_false]

/-- A fault that tells of whole numbers is itself if all of them are short enough, and else says that one
is not. -/
theorem telling_of_ints (fault : Fault) (told : List Int) : fault.telling (told.map .int) =
    if ∀ n ∈ told, n.natAbs < 10 ^ Text.digitLimit then fault else .unwritable := by
  rw [telling, untold_of_ints]
  split <;> rfl

end Fault

end Vivarium
