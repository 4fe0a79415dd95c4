import Vivarium.Folder.Basic

/-!
# What is written in a folder

A text that was written at the end of a path is there, and what is at the end of other paths stays there.

1. `content?_put_self`, `content?_put_of_ne`: what is at the places after one of them was filled.
2. `locate_put`: the way of a path goes through directories only, so it is the same when a file is put.
3. `find_of_writeText`, `find_writeText`: what is at the end of paths after a text was written.
4. `exists_rewritten`: what was written first does not matter when the path is written to again.
-/

namespace Vivarium.Folder

variable {f g : Folder} {l m goal : Location} {content content' : Content} {p q : Path} {text : String}

/-! ## Places -/

theorem content?_put_self (named : l.names ≠ []) (f : Folder) (content : Content) :
    (f.put l content).content? l = some content := by
  have filled : l.names.isEmpty = false := List.isEmpty_eq_false_iff.2 named
  simp [content?, put, filled]

/-- What is at another place stays there. -/
theorem content?_put_of_ne (there : f.content? m = some content') (apart : m ≠ l) (content : Content) :
    (f.put l content).content? m = some content' := by
  rw [content?] at there ⊢
  by_cases top : m.names.isEmpty = true
  · rw [if_pos top] at there ⊢
    exact there
  rw [if_neg top] at there ⊢
  have same : (f.put l content).entries.find? (fun entry => entry.1 = m) =
      f.entries.find? fun entry => entry.1 = m := by
    rw [put, List.find?_cons_of_neg (by simpa using Ne.symm apart), List.find?_filter]
    refine congrFun (congrArg List.find? (funext fun entry => ?_)) _
    by_cases here : entry.1 = m
    · simp [here, apart]
    · simp [here]
  rw [same]
  cases found : f.entries.find? (fun entry => entry.1 = m) with
  | some entry =>
    rw [found] at there
    exact there
  | none =>
    rw [found] at there
    dsimp only at there ⊢
    split at there
    · next implied =>
      obtain ⟨entry, listed, above⟩ := List.any_eq_true.1 implied
      cases there
      refine if_pos (List.any_eq_true.2 ?_)
      -- The entry below the place is still there, or its place was filled.
      by_cases here : entry.1 = l
      · exact ⟨(l, content), List.mem_cons_self, here ▸ above⟩
      · exact ⟨entry, List.mem_cons_of_mem _ (List.mem_filter.2 ⟨listed, by simpa using here⟩), above⟩
    · cases there

/-- What is at a place is replaced. -/
theorem put_put (f : Folder) (l : Location) (content content' : Content) :
    (f.put l content).put l content' = f.put l content' := by
  simp [put]

/-! ## Paths -/

theorem names_ne_nil (file : f.content? l ≠ some .directory) : l.names ≠ [] := by
  intro nameless
  exact file (by rw [content?, nameless]; rfl)

/-- A file that is put in no directory's place is in nobody's way. -/
theorem follow_put (file : f.content? l ≠ some .directory) (content : Content) {names : List String}
    (followed : f.follow m names = .ok goal) : (f.put l content).follow m names = .ok goal := by
  induction names generalizing m with
  | nil => exact followed
  | cons name rest ih =>
    rw [follow] at followed ⊢
    cases there : f.content? m with
    | none => rw [there] at followed; cases followed
    | some found =>
      cases found with
      | file bytes => rw [there] at followed; cases followed
      | directory =>
        have apart : m ≠ l := by
          rintro rfl
          exact file there
        rw [there] at followed
        rw [content?_put_of_ne there apart]
        dsimp only at followed ⊢
        split at followed
        · cases followed
        · next short =>
          rw [if_neg short]
          exact ih followed

theorem locate_put (file : f.content? l ≠ some .directory) (content : Content)
    (located : f.locate p = .ok goal) : (f.put l content).locate p = .ok goal := by
  rw [locate] at located ⊢
  split at located
  · cases located
  · next whole =>
    rw [if_neg whole]
    split at located
    · cases located
    · next short =>
      rw [if_neg short]
      exact follow_put file content located

/-! ## Texts -/

/-- To write a text is to put a file at the place of the path, which must not be a directory. -/
theorem writeText_eq_ok_iff : f.writeText p text = .ok g ↔
    ∃ l, f.locate p = .ok l ∧ f.content? l ≠ some .directory ∧ g = f.put l (.file text.toUTF8) := by
  rw [writeText]
  cases f.locate p with
  | error missing => simp
  | ok l =>
    dsimp only
    split
    · next there => simp [there]
    · next file =>
      constructor
      · intro written
        cases written
        exact ⟨l, rfl, file, rfl⟩
      · rintro ⟨_, ⟨⟩, -, rfl⟩
        rfl

/-- A text that was written is there. -/
theorem find_of_writeText (written : f.writeText p text = .ok g) : g.find p = .ok (.file text.toUTF8) := by
  obtain ⟨l, located, file, rfl⟩ := writeText_eq_ok_iff.1 written
  rw [find, locate_put file _ located]
  dsimp only
  rw [content?_put_self (names_ne_nil file)]
  rfl

/-- What is at the end of another path stays there. -/
theorem find_writeText (there : f.find p = .ok content) (written : f.writeText q text = .ok g)
    (apart : g.locate p ≠ g.locate q) : g.find p = .ok content := by
  obtain ⟨l, located, file, rfl⟩ := writeText_eq_ok_iff.1 written
  rw [find] at there ⊢
  cases found : f.locate p with
  | error missing => rw [found] at there; cases there
  | ok m =>
    rw [locate_put file _ found, locate_put file _ located] at apart
    rw [found] at there
    rw [locate_put file _ found]
    dsimp only at there ⊢
    cases held : f.content? m with
    | none => rw [held] at there; cases there
    | some content' =>
      rw [held] at there
      have other : m ≠ l := fun same => apart (congrArg Except.ok same)
      rw [content?_put_of_ne held other]
      exact there

/-- Whatever was written first, the text that is written to the same path after it is what counts. -/
theorem exists_rewritten (written : f.writeText p text = .ok g) (text' : String) :
    ∃ h, f.writeText p text' = .ok h ∧ g.writeText p text' = .ok h := by
  obtain ⟨l, located, file, rfl⟩ := writeText_eq_ok_iff.1 written
  have kept : (f.put l (.file text.toUTF8)).content? l ≠ some .directory := by
    rw [content?_put_self (names_ne_nil file)]
    exact fun same => by cases same
  refine ⟨f.put l (.file text'.toUTF8), writeText_eq_ok_iff.2 ⟨l, located, file, rfl⟩,
    writeText_eq_ok_iff.2 ⟨l, locate_put file _ located, kept, (put_put ..).symm⟩⟩

end Vivarium.Folder
