import Mathlib.Data.List.Basic
import Vivarium.Proofs.Settings.Reading

/-!
# Which faults of a configuration escape

A value of any kind may be given for settings. Most of what can be wrong with it is said by the fault;
this is about the rest.

1. `Escapes` lists these faults: a row of the section `population`, given as a list, that has not two
   items; a species that cannot be written, for its length or its depth; and the lapses of validation.
2. `ofValue_escapes_iff`: no other fault escapes, and settings that are given satisfy the rules.
-/

namespace Vivarium.Settings

variable {v : Value} {fault : Fault} {entries : List (Value × Value)}

/-! ## Sections given as lists -/

/-- An item of a list of pairs that can be an entry of a map. -/
def IsPair (item : Value) : Prop :=
  ∃ key value, itemsOf item = .ok [key, value] ∧ key.notKey? = none

/-- An item has not two items of its own. -/
def IsUneven (item : Value) (length : Nat) : Prop :=
  ∃ cells, itemsOf item = .ok cells ∧ cells.length = length ∧ length ≠ 2

/-- What comes of an item of a list of pairs. -/
theorem pairOf_cases (index : Nat) (item : Value) :
    (IsPair item ∧ ∃ pair, pairOf index item = .ok pair) ∨
      (∃ length, IsUneven item length ∧ pairOf index item = .error (.notPair index length)) ∨
      ∃ cause, pairOf index item = .error (.badSettings cause) := by
  rw [pairOf]
  cases cells : itemsOf item with
  | error cause => exact .inr (.inr ⟨_, rfl⟩)
  | ok items =>
    match items, cells with
    | [key, value], cells =>
      dsimp only
      cases free : key.notKey? with
      | none => exact .inl ⟨⟨key, value, cells, free⟩, _, rfl⟩
      | some kind => exact .inr (.inr ⟨_, rfl⟩)
    | [], cells => exact .inr (.inl ⟨0, ⟨_, cells, rfl, by decide⟩, rfl⟩)
    | [_], cells => exact .inr (.inl ⟨1, ⟨_, cells, rfl, by decide⟩, rfl⟩)
    | _ :: _ :: _ :: rest, cells =>
      exact .inr (.inl ⟨rest.length + 3, ⟨_, cells, rfl, by omega⟩, rfl⟩)

theorem pairOf_of_isPair {item : Value} (pair : IsPair item) (index : Nat) :
    ∃ pair, pairOf index item = .ok pair := by
  obtain ⟨key, value, cells, free⟩ := pair
  rw [pairOf, cells]
  dsimp only
  rw [free]
  exact ⟨_, rfl⟩

theorem pairOf_of_isUneven {item : Value} {length : Nat} (uneven : IsUneven item length) (index : Nat) :
    pairOf index item = .error (.notPair index length) := by
  obtain ⟨cells, given, rfl, apart⟩ := uneven
  rw [pairOf, given]
  match cells, apart with
  | [], _ | [_], _ | _ :: _ :: _ :: _, _ => rfl
  | [_, _], apart => exact absurd rfl apart

/-- The first row of a list of pairs that has not two items of its own, where all rows before it are
pairs. -/
def FirstUneven (rows : List Value) (index length : Nat) : Prop :=
  ∃ before row after, rows = before ++ row :: after ∧ before.length = index ∧
    (∀ item ∈ before, IsPair item) ∧ IsUneven row length

theorem entriesOfPairs_eq_error {rows : List Value} {index : Nat} {before : List (Value × Value)}
    (failed : entriesOfPairs index before rows = .error fault) :
    fault.isConfiguration = true ∨
      ∃ done length, FirstUneven rows done length ∧ fault = .notPair (index + done) length := by
  induction rows generalizing index before with
  | nil => cases failed
  | cons row rest ih =>
    rw [entriesOfPairs] at failed
    rcases pairOf_cases index row with
      ⟨pair, entry, made⟩ | ⟨length, uneven, refused⟩ | ⟨cause, refused⟩
    · rw [made] at failed
      rcases ih failed with told | ⟨done, length, ⟨first, odd, after, rfl, rfl, pairs, uneven⟩, rfl⟩
      · exact .inl told
      · refine .inr ⟨first.length + 1, length, ⟨row :: first, odd, after, rfl, rfl, ?_, uneven⟩, ?_⟩
        · exact List.forall_mem_cons.2 ⟨pair, pairs⟩
        · rw [Nat.add_assoc, Nat.add_comm 1]
    · rw [refused] at failed
      cases failed
      refine .inr ⟨0, length, ⟨[], row, rest, rfl, rfl, ?_, uneven⟩, rfl⟩
      exact fun item none => absurd none List.not_mem_nil
    · rw [refused] at failed
      cases failed
      exact .inl rfl

theorem entriesOfPairs_of_firstUneven {rows : List Value} {done length : Nat}
    (first : FirstUneven rows done length) (index : Nat) (before : List (Value × Value)) :
    entriesOfPairs index before rows = .error (.notPair (index + done) length) := by
  obtain ⟨pairs, row, after, rfl, rfl, fine, uneven⟩ := first
  induction pairs generalizing index before with
  | nil =>
    rw [List.nil_append, entriesOfPairs, pairOf_of_isUneven uneven]
    rfl
  | cons item pairs ih =>
    obtain ⟨pair, fine⟩ := List.forall_mem_cons.1 fine
    obtain ⟨entry, made⟩ := pairOf_of_isPair pair index
    rw [List.cons_append, entriesOfPairs, made]
    have later := ih (index + 1) (Value.insertEntry entry.1 entry.2 before) fine
    rw [List.length_cons, Nat.add_comm pairs.length, ← Nat.add_assoc]
    exact later

/-! ## Species that cannot be written -/

theorem itemsOf_eq_error (failed : itemsOf v = .error fault) : fault.isConfiguration = true := by
  rw [itemsOf] at failed
  split at failed <;> cases failed
  rfl

/-- A list is written item by item, so the first one that cannot be written says why it cannot. -/
theorem mapM_written_eq_error_iff {items : List Value} : items.mapM Value.written = .error fault ↔
    items.findSome? Value.unwritten? = some fault := by
  induction items with
  | nil => exact ⟨fun failed => (nomatch failed), fun found => (nomatch found)⟩
  | cons item rest ih =>
    rw [List.mapM_cons, List.findSome?_cons, Value.written]
    cases item.unwritten? with
    | some flaw => exact ⟨fun failed => congrArg some (Except.error.inj failed),
        fun found => congrArg Except.error (Option.some.inj found)⟩
    | none =>
      rw [← ih]
      show (rest.mapM Value.written >>= fun more => .ok (item.plain :: more)) = _ ↔ _
      cases rest.mapM Value.written with
      | error cause => rfl
      | ok texts => exact ⟨fun failed => (nomatch failed), fun failed => (nomatch failed)⟩

/-! ## Reading -/

/-- The faults of reading that do not say what is wrong. -/
inductive Unread (entries : List (Value × Value)) : Fault → Prop
  /-- The population is a list, and a row of it has not two items. -/
  | uneven {world : List (Value × Value)} {rows : List Value} {index length : Nat}
      (worldRead : worldEntries (section? "world" entries) = .ok world)
      (listed : ∀ population, (section? "population" entries).opened ≠ .map population)
      (given : itemsOf (section? "population" entries) = .ok rows)
      (first : FirstUneven rows index length) : Unread entries (.notPair index length)
  /-- The first species that cannot be written has this flaw: it is or holds a whole number that is too
  long, or it holds values too deep inside each other (`Value.flaw?_cases`). -/
  | unwritten {world population : List (Value × Value)} {species : List Value} {flaw : Fault}
      (worldRead : worldEntries (section? "world" entries) = .ok world)
      (populationRead : entriesOf (section? "population" entries) = .ok population)
      (given : itemsOf ((Value.lookup "species_files" population).getD (.list [])) = .ok species)
      (flawed : species.findSome? Value.unwritten? = some flaw) : Unread entries flaw

theorem isConfiguration_of_checkKeys {section_ : String} {known : List String}
    (failed : checkKeys section_ known entries = .error fault) : fault.isConfiguration = true := by
  rcases checkKeys_cases section_ known entries with passed | ⟨cause, refused⟩
  · rw [passed] at failed
    cases failed
  · rw [refused] at failed
    cases failed
    rfl

theorem worldEntries_eq_error (failed : worldEntries v = .error fault) :
    fault.isConfiguration = true := by
  rw [worldEntries] at failed
  split at failed
  · rcases Fault.cases_of_bind_eq_error failed with strange | ⟨_, -, done⟩
    · exact isConfiguration_of_checkKeys strange
    · cases done
  · cases failed
    rfl

/-- The list of pairs that a population may be. -/
theorem entriesOf_of_list (listed : ∀ population, v.opened ≠ .map population) :
    entriesOf v = (do entriesOfPairs 0 [] (← itemsOf v)) := by
  rw [entriesOf]
  split
  · next population opened => exact absurd opened (listed population)
  · rfl

theorem entriesOf_eq_error (failed : entriesOf v = .error fault) :
    fault.isConfiguration = true ∨
      (∀ population, v.opened ≠ .map population) ∧ ∃ rows index length, itemsOf v = .ok rows ∧
        FirstUneven rows index length ∧ fault = .notPair index length := by
  have listed (population : List (Value × Value)) : v.opened ≠ .map population := by
    intro opened
    rw [entriesOf, opened] at failed
    cases failed
  rw [entriesOf_of_list listed] at failed
  rcases Fault.cases_of_bind_eq_error failed with stuck | ⟨rows, given, paired⟩
  · exact .inl (itemsOf_eq_error stuck)
  · rcases entriesOfPairs_eq_error paired with told | ⟨index, length, first, rfl⟩
    · exact .inl told
    · rw [Nat.zero_add]
      exact .inr ⟨listed, rows, index, length, given, first, rfl⟩

/-- Reading fails with a fault that says what is wrong, or it escapes. -/
theorem ofEntries_eq_error (failed : ofEntries entries = .error fault) :
    fault.isConfiguration = true ∨ Unread entries fault := by
  rcases Fault.cases_of_bind_eq_error failed with inWorld | ⟨world, worldRead, failed⟩
  · exact .inl (worldEntries_eq_error inWorld)
  rcases Fault.cases_of_bind_eq_error failed with inPopulation | ⟨read, -, failed⟩
  · rcases Fault.cases_of_bind_eq_error inPopulation with rows | ⟨population, populationRead, failed⟩
    · rcases entriesOf_eq_error rows with told | ⟨listed, rows, index, length, given, first, rfl⟩
      · exact .inl told
      · exact .inr (.uneven worldRead listed given first)
    rcases Fault.cases_of_bind_eq_error failed with stuck | ⟨species, given, failed⟩
    · exact .inl (itemsOf_eq_error stuck)
    rcases Fault.cases_of_bind_eq_error failed with unwritten | ⟨files, -, failed⟩
    · exact .inr (.unwritten worldRead populationRead given (mapM_written_eq_error_iff.1 unwritten))
    rcases Fault.cases_of_bind_eq_error failed with strange | ⟨_, -, done⟩
    · exact .inl (isConfiguration_of_checkKeys strange)
    · cases done
  rcases Fault.cases_of_bind_eq_error failed with strange | ⟨_, -, done⟩
  · exact .inl (isConfiguration_of_checkKeys strange)
  · cases done

theorem ofEntries_of_unread (unread : Unread entries fault) : ofEntries entries = .error fault := by
  cases unread with
  | @uneven _ rows index length worldRead listed given first =>
    have population : entriesOf (section? "population" entries) = .error (.notPair index length) := by
      have stopped := entriesOfPairs_of_firstUneven first 0 []
      rw [Nat.zero_add] at stopped
      rw [entriesOf_of_list listed, given]
      exact stopped
    rw [ofEntries, worldRead, populationEntries, population]
    rfl
  | unwritten worldRead populationRead given flawed =>
    have population : populationEntries (section? "population" entries) = .error fault := by
      rw [populationEntries, populationRead]
      simp only [bind, Except.bind, given, mapM_written_eq_error_iff.2 flawed]
    rw [ofEntries, worldRead, population]
    rfl

theorem isConfiguration_of_unread (unread : Unread entries fault) : fault.isConfiguration = false := by
  cases unread with
  | uneven => rfl
  | unwritten _ _ _ flawed =>
    obtain ⟨item, -, flaw⟩ := List.exists_of_findSome?_eq_some flawed
    exact Fault.isConfiguration_of_flaw flaw

/-! ## Escapes -/

/-- The faults of a configuration that do not say what is wrong with it. -/
inductive Escapes (v : Value) : Fault → Prop
  | unread {entries : List (Value × Value)} {fault : Fault} (opened : v.opened = .map entries)
      (unread : Unread entries fault) : Escapes v fault
  | lapse {entries : List (Value × Value)} {s : Settings} {fault : Fault}
      (opened : v.opened = .map entries) (read : ofEntries entries = .ok s) (lapse : s.Lapse fault) :
      Escapes v fault

/-- Settings that a value gives satisfy the rules. If it gives none, the fault says what is wrong, or it
is one of the escapes, all of which there are. -/
theorem ofValue_escapes_iff (v : Value) :
    (∀ s, ofValue v = .ok s → s.Valid) ∧
    ∀ fault, Escapes v fault ↔ ofValue v = .error fault ∧ fault.isConfiguration = false := by
  constructor
  · intro s given
    rw [ofValue] at given
    split at given
    · obtain ⟨t, -, given⟩ := Fault.exists_of_bind_eq_ok given
      obtain ⟨valid, rfl⟩ := validated_eq_ok_iff.1 given
      exact validate_eq_ok_iff_valid.1 valid
    · cases given
  · intro fault
    constructor
    · intro escapes
      cases escapes with
      | unread opened unread =>
        rw [ofValue_of_opened opened, ofEntries_of_unread unread]
        exact ⟨rfl, isConfiguration_of_unread unread⟩
      | lapse opened read lapse =>
        obtain ⟨failed, silent⟩ := lapse_iff.1 lapse
        rw [ofValue_of_opened opened, read]
        exact ⟨validated_eq_error_iff.2 failed, silent⟩
    · rintro ⟨failed, silent⟩
      cases opened : v.opened with
      | map entries =>
        rw [ofValue_of_opened opened] at failed
        rcases Fault.cases_of_bind_eq_error failed with unread | ⟨s, read, failed⟩
        · rcases ofEntries_eq_error unread with told | unread
          · rw [told] at silent
            cases silent
          · exact .unread opened unread
        · exact .lapse opened read (lapse_iff.2 ⟨validated_eq_error_iff.1 failed, silent⟩)
      | _ =>
        rw [ofValue, opened] at failed
        cases failed
        cases silent

def wordyRounds : Value := .map [(.text "rounds", .text "x")]

/-- It cannot be compared with zero. -/
theorem wordyRounds_escapes : Escapes wordyRounds (.unordered "<=" "str" "int") :=
  ((ofValue_escapes_iff wordyRounds).2 _).2 ⟨rfl, rfl⟩

def nested : Nat → Value
  | 0 => .list []
  | count + 1 => .list [nested count]

theorem flaw?_nested {room count : Nat} (less : room ≤ count) :
    (nested count).flaw? room = some (.tooDeep " while getting the repr of an object") := by
  induction room generalizing count with
  | zero => exact Value.flaw?_zero _
  | succ room ih =>
    obtain ⟨count, rfl⟩ := Nat.exists_eq_add_of_lt less
    show Value.firstFlaw? [nested (room + count)] room = _
    rw [Value.firstFlaw?, ih (Nat.le_add_right _ _)]
    rfl

def nestedSpecies (count : Nat) : Value :=
  .map [(.text "population", .map [(.text "species_files", .list [nested count])])]

/-- So the fault does not say what is wrong with the settings. Neither does it where a row of a section
has only one item, or where a species is too deep to be written. -/
theorem wordyRounds_unordered :
    ofValue wordyRounds = .error (.unordered "<=" "str" "int") ∧
      (Fault.unordered "<=" "str" "int").isConfiguration = false ∧
      ofValue (.map [(.text "population", .list [.list [.null]])]) = .error (.notPair 0 1) ∧
      (Fault.notPair 0 1).isConfiguration = false ∧
      ofValue (nestedSpecies 1000) =
        .error (.tooDeep " while getting the repr of an object") ∧
      (Fault.tooDeep " while getting the repr of an object").isConfiguration = false := by
  refine ⟨rfl, rfl, rfl, rfl, ?_, rfl⟩
  have flawed : [nested 1000].findSome? Value.unwritten? =
      some (.tooDeep " while getting the repr of an object") := by
    have deep : (nested 1000).unwritten? = _ := flaw?_nested (by decide)
    rw [List.findSome?_cons, deep]
  rw [nestedSpecies, ofValue_of_opened rfl]
  have unread : ofEntries [(.text "population", .map [(.text "species_files", .list [nested 1000])])] =
      _ := ofEntries_of_unread (.unwritten rfl rfl rfl flawed)
  rw [unread]
  rfl

end Vivarium.Settings
