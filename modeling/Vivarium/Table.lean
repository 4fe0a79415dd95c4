/-!
# Tables

A table keeps one value for each key and its keys in the order of their first entry. Writing to a
key that is there changes the value and not the place.
-/

namespace Vivarium

/-- A table from keys to values, in order of first entry. -/
structure Table (α β : Type) where
  entries : List (α × β)
deriving Repr, DecidableEq

namespace Table

variable {α β : Type} [DecidableEq α]

/-- The table without entries. -/
def empty : Table α β := ⟨[]⟩

instance : Inhabited (Table α β) := ⟨empty⟩

def get? (t : Table α β) (key : α) : Option β :=
  (t.entries.find? fun entry => entry.1 = key).map (·.2)

def keys (t : Table α β) : List α := t.entries.map (·.1)

def values (t : Table α β) : List β := t.entries.map (·.2)

/-- A list of entries with the value at a key replaced, or with a new entry at the end. -/
def insertEntry (key : α) (value : β) : List (α × β) → List (α × β)
  | [] => [(key, value)]
  | entry :: rest =>
    if entry.1 = key then (entry.1, value) :: rest else entry :: insertEntry key value rest

def insert (t : Table α β) (key : α) (value : β) : Table α β :=
  ⟨insertEntry key value t.entries⟩

/-- The table of a list of entries, a later entry of a key replacing the value of an earlier one. -/
def ofList (entries : List (α × β)) : Table α β :=
  entries.foldl (fun t entry => t.insert entry.1 entry.2) empty

/-- The table without a key. -/
def erase (t : Table α β) (key : α) : Table α β :=
  ⟨t.entries.filter fun entry => entry.1 ≠ key⟩

/-- The table with every value replaced by its image. -/
def mapValues {γ : Type} (f : β → γ) (t : Table α β) : Table α γ :=
  ⟨t.entries.map fun entry => (entry.1, f entry.2)⟩

/-- The table with the number at a key one greater; a key that is not there counts as zero. -/
def bump (t : Table α Nat) (key : α) : Table α Nat :=
  t.insert key ((t.get? key).getD 0 + 1)

@[simp] theorem get?_insert_self (t : Table α β) (key : α) (value : β) :
    (t.insert key value).get? key = some value := by
  obtain ⟨entries⟩ := t
  simp only [get?, insert]
  induction entries with
  | nil => simp [insertEntry]
  | cons entry rest ih =>
    rw [insertEntry]
    split
    · simp [*]
    · simp_all

theorem get?_insert_of_ne (t : Table α β) {key other : α} (value : β) (h : other ≠ key) :
    (t.insert key value).get? other = t.get? other := by
  obtain ⟨entries⟩ := t
  simp only [get?, insert]
  induction entries with
  | nil => simp [insertEntry, Ne.symm h]
  | cons entry rest ih =>
    rw [insertEntry]
    split
    · rename_i same
      have : entry.1 ≠ other := fun same' => h (same'.symm.trans same)
      simp [this]
    · by_cases here : entry.1 = other <;> simp_all

theorem get?_erase_self (t : Table α β) (key : α) : (t.erase key).get? key = none := by
  rw [get?, erase, List.find?_eq_none.2, Option.map_none]
  intro entry kept same
  exact of_decide_eq_true (List.mem_filter.1 kept).2 (of_decide_eq_true same)

theorem get?_erase_of_ne (t : Table α β) {key other : α} (h : other ≠ key) :
    (t.erase key).get? other = t.get? other := by
  obtain ⟨entries⟩ := t
  simp only [get?, erase]
  induction entries with
  | nil => rfl
  | cons entry rest ih =>
    by_cases here : entry.1 = key
    · have apart : entry.1 ≠ other := fun same => h (same.symm.trans here)
      simpa [here, apart, Ne.symm h] using ih
    · by_cases there : entry.1 = other
      · simp [there, h]
      · simpa [here, there] using ih

theorem get?_mapValues {γ : Type} (f : β → γ) (t : Table α β) (key : α) :
    (t.mapValues f).get? key = (t.get? key).map f := by
  obtain ⟨entries⟩ := t
  simp only [get?, mapValues]
  induction entries with
  | nil => rfl
  | cons entry rest ih =>
    by_cases here : entry.1 = key
    · simp [here]
    · simpa [here] using ih

theorem get?_bump (t : Table α Nat) (key other : α) :
    ((t.bump key).get? other).getD 0 = (t.get? other).getD 0 + if other = key then 1 else 0 := by
  rw [bump]
  split
  · next same =>
    subst same
    rw [get?_insert_self, Option.getD_some]
  · next apart => rw [get?_insert_of_ne _ _ apart, Nat.add_zero]

theorem get?_cons (entry : α × β) (rest : List (α × β)) (key : α) :
    (mk (entry :: rest)).get? key = if entry.1 = key then some entry.2 else (mk rest).get? key := by
  rw [get?, List.find?_cons]
  by_cases here : entry.1 = key
  · simp [here]
  · simp [here, get?]

/-- Where no key is there twice, every entry has the value at its key. -/
theorem get?_eq_some_iff {t : Table α β} (distinct : t.keys.Nodup) {key : α} {value : β} :
    t.get? key = some value ↔ (key, value) ∈ t.entries := by
  obtain ⟨entries⟩ := t
  induction entries with
  | nil => simp [get?]
  | cons entry rest ih =>
    rw [keys, List.map_cons, List.nodup_cons] at distinct
    obtain ⟨fresh, distinct⟩ := distinct
    rw [get?_cons, List.mem_cons]
    by_cases here : entry.1 = key
    · have gone : (key, value) ∉ rest := fun there => fresh (here ▸ List.mem_map_of_mem there)
      simp [here, gone, Prod.ext_iff, eq_comm]
    · have other : (key, value) ≠ entry := fun same => here (same ▸ rfl)
      simpa [here, other] using ih distinct

theorem get?_isSome_iff {t : Table α β} {key : α} : (t.get? key).isSome = true ↔ key ∈ t.keys := by
  rw [get?, Option.isSome_map, List.find?_isSome, keys, List.mem_map]
  simp

theorem insertEntry_of_fresh {key : α} {entries : List (α × β)} (value : β)
    (fresh : key ∉ entries.map (·.1)) : insertEntry key value entries = entries ++ [(key, value)] := by
  induction entries with
  | nil => rfl
  | cons entry rest ih =>
    rw [List.map_cons, List.mem_cons, not_or] at fresh
    rw [insertEntry, if_neg (Ne.symm fresh.1), ih fresh.2]
    rfl

/-- A table of entries with different keys has just these entries. -/
theorem entries_ofList {entries : List (α × β)} (distinct : (entries.map (·.1)).Nodup) :
    (ofList entries).entries = entries := by
  -- The entries that were inserted already come first.
  suffices general : ∀ (rest : List (α × β)) (t : Table α β),
      ((t.entries ++ rest).map (·.1)).Nodup →
        (rest.foldl (fun t entry => t.insert entry.1 entry.2) t).entries = t.entries ++ rest by
    exact general entries empty distinct
  intro rest
  induction rest with
  | nil => exact fun t _ => (List.append_nil t.entries).symm
  | cons entry rest ih =>
    intro t distinct
    have fresh : entry.1 ∉ t.entries.map (·.1) := by
      intro there
      rw [List.map_append, List.map_cons] at distinct
      exact (List.nodup_append.1 distinct).2.2 _ there _ List.mem_cons_self rfl
    have inserted : (t.insert entry.1 entry.2).entries ++ rest = t.entries ++ entry :: rest := by
      rw [insert, insertEntry_of_fresh _ fresh, List.append_assoc]
      rfl
    rw [List.foldl_cons, ih _ (by rw [inserted]; exact distinct), inserted]

/-- The keys stay in place, and a key that was not there comes last. -/
theorem keys_insertEntry (key : α) (value : β) (entries : List (α × β)) :
    (insertEntry key value entries).map (·.1) =
      if key ∈ entries.map (·.1) then entries.map (·.1) else entries.map (·.1) ++ [key] := by
  by_cases there : key ∈ entries.map (·.1)
  · rw [if_pos there]
    induction entries with
    | nil => cases there
    | cons entry rest ih =>
      rw [insertEntry]
      split
      · rfl
      · next other =>
        have later : key ∈ rest.map (·.1) :=
          (List.mem_cons.1 there).resolve_left (Ne.symm other)
        rw [List.map_cons, List.map_cons, ih later]
  · rw [if_neg there, insertEntry_of_fresh value there, List.map_append]
    rfl

/-- No key of a table of a list of entries is there twice, and its keys are those of the list. -/
theorem keys_ofList (entries : List (α × β)) :
    (ofList entries).keys.Nodup ∧
      ∀ key, key ∈ (ofList entries).keys ↔ key ∈ entries.map (·.1) := by
  -- The keys that were inserted already are there as well.
  suffices general : ∀ (rest : List (α × β)) (t : Table α β), t.keys.Nodup →
      (rest.foldl (fun t entry => t.insert entry.1 entry.2) t).keys.Nodup ∧
        ∀ key, key ∈ (rest.foldl (fun t entry => t.insert entry.1 entry.2) t).keys ↔
          key ∈ t.keys ∨ key ∈ rest.map (·.1) by
    obtain ⟨distinct, members⟩ := general entries empty List.nodup_nil
    exact ⟨distinct, fun key => (members key).trans (or_iff_right List.not_mem_nil)⟩
  intro rest
  induction rest with
  | nil => exact fun t distinct => ⟨distinct, fun key => (or_iff_left List.not_mem_nil).symm⟩
  | cons entry rest ih =>
    intro t distinct
    have keys : (t.insert entry.1 entry.2).keys =
        if entry.1 ∈ t.keys then t.keys else t.keys ++ [entry.1] :=
      keys_insertEntry entry.1 entry.2 t.entries
    have distinct' : (t.insert entry.1 entry.2).keys.Nodup := by
      rw [keys]
      split
      · exact distinct
      · next fresh =>
        refine List.nodup_append.2 ⟨distinct, List.pairwise_singleton _ _, ?_⟩
        rintro old present new last rfl
        exact fresh (List.mem_singleton.1 last ▸ present)
    obtain ⟨kept, members⟩ := ih _ distinct'
    refine ⟨kept, fun key => (members key).trans ?_⟩
    have here : key ∈ (t.insert entry.1 entry.2).keys ↔ key ∈ t.keys ∨ key = entry.1 := by
      rw [keys]
      split
      · next there => exact ⟨.inl, fun either => either.elim id fun same => same ▸ there⟩
      · rw [List.mem_append, List.mem_singleton]
    rw [here, List.map_cons, List.mem_cons, or_assoc]

theorem nodup_keys_ofList (entries : List (α × β)) : (ofList entries).keys.Nodup :=
  (keys_ofList entries).1

theorem mem_keys_ofList {entries : List (α × β)} {key : α} :
    key ∈ (ofList entries).keys ↔ key ∈ entries.map (·.1) :=
  (keys_ofList entries).2 key

end Table

end Vivarium
