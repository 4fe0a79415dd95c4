import Vivarium.Proofs.Board.Guarded
import Vivarium.Proofs.Board.Prompt
import Vivarium.Proofs.Text.Layout
import Vivarium.Species.Library

/-!
# The bundled species

1. `bundled_of_load`: what is loaded from among the bundled species, is one of them.
2. `Bundled.prompt`: each of them comes to an action within five instructions, from whatever address
   on and whatever its conditions turn out to be.
3. `Bundled.guarded`: each of them comes to its infections only by jumps that see an enemy.
-/

namespace Vivarium.Species

/-- A species is a bundled one if a bundled text describes it. -/
def Bundled (s : Species) : Prop :=
  ∃ entry ∈ bundled, ∃ source, read source entry.2.toList = .ok s

/-! ## Loading -/

/-- Where a bundled species was found, there is a bundled text. -/
theorem mem_bundled_of_locate {folder : Folder} {asked fileName text : String}
    (found : locate folder asked = .ok (.bundled fileName text)) : ∃ name, (name, text) ∈ bundled := by
  have listed {fileName' : String} {home : Home} (file : bundledFile? fileName' = .ok (some home))
      (same : home = .bundled fileName text) : ∃ name, (name, text) ∈ bundled := by
    subst same
    rw [bundledFile?] at file
    split at file
    · cases file
    · split at file
      · cases file
      · obtain ⟨⟨name, text'⟩, listed, named⟩ :=
          List.exists_of_findSome?_eq_some (Except.ok.inj file)
        dsimp only at named
        split at named
        · cases named
          exact ⟨name, listed⟩
        · cases named
  obtain ⟨held, -, found⟩ := Fault.exists_of_bind_eq_ok found
  split at found
  · cases found
  · split at found
    · cases found
    · obtain ⟨file, first, found⟩ := Fault.exists_of_bind_eq_ok found
      cases file with
      | some home => exact listed first (Except.ok.inj found)
      | none =>
        obtain ⟨file, second, found⟩ := Fault.exists_of_bind_eq_ok found
        cases file with
        | some home => exact listed second (Except.ok.inj found)
        | none => cases found

/-- What is loaded from among the bundled species, is one of them. -/
theorem bundled_of_load {folder : Folder} {asked fileName text : String} {s : Species}
    (given : load folder asked = .ok (s, .bundled fileName text)) : s.Bundled := by
  obtain ⟨home, found, given⟩ := Fault.exists_of_bind_eq_ok given
  obtain ⟨cs, opened, given⟩ := Fault.exists_of_bind_eq_ok given
  split at given
  · next t described =>
    cases given
    cases opened
    obtain ⟨name, listed⟩ := mem_bundled_of_locate found
    exact ⟨(name, text), listed, _, described⟩
  · cases given

/-- A bundled text is read where it was found. -/
theorem load_of_read {folder : Folder} {asked fileName text : String} {s : Species}
    (found : locate folder asked = .ok (.bundled fileName text))
    (described : read (some (Home.bundled fileName text).text) text.toList = .ok s) :
    load folder asked = .ok (s, .bundled fileName text) := by
  have opened : (Home.bundled fileName text).read folder = .ok text.toList := rfl
  simp only [load, found, opened, described, bind, Except.bind, pure, Except.pure]

/-! ## Their programs -/

/-- What all bundled texts describe species with, every bundled species has. -/
theorem Bundled.of_texts (check : Species → Bool)
    (checked : ∀ entry ∈ bundled,
      ((ofLines (Text.splitLines entry.2.toList)).toOption.all check) = true)
    {s : Species} (known : s.Bundled) : check s = true := by
  obtain ⟨entry, listed, source, described⟩ := known
  have passed := checked entry listed
  rw [read] at described
  cases lines : ofLines (Text.splitLines entry.2.toList) with
  | error blamed =>
    rw [lines] at described
    cases described
  | ok t =>
    rw [lines] at described passed
    cases described
    exact passed

theorem bundled_prompt : ∀ entry ∈ bundled,
    ((ofLines (Text.splitLines entry.2.toList)).toOption.all fun s => s.program.isPrompt 5) = true := by
  simp only [bundled, flytrapText, foodText, hopText, roverText, trapText, List.forall_mem_cons,
    Text.toList_ofLines]
  decide +kernel

/-- The longest way is the rover's from one of its jumps back to the start to a turn of it. -/
theorem Bundled.prompt {s : Species} (known : s.Bundled) : s.program.isPrompt 5 = true :=
  known.of_texts (fun s => s.program.isPrompt 5) bundled_prompt

theorem bundled_guarded : ∀ entry ∈ bundled,
    ((ofLines (Text.splitLines entry.2.toList)).toOption.all fun s => s.program.isGuarded) = true := by
  simp only [bundled, flytrapText, foodText, hopText, roverText, trapText, List.forall_mem_cons,
    Text.toList_ofLines]
  decide +kernel

/-- Three of them infect, each after it saw an enemy; the other two never do. -/
theorem Bundled.guarded {s : Species} (known : s.Bundled) : s.program.isGuarded = true :=
  known.of_texts (fun s => s.program.isGuarded) bundled_guarded

def rover : Species where
  name := "Rover"
  color := "red"
  program :=
    ⟨#[.jump .enemy 10 (Nat.succ_pos 9), .jump .empty 8 (Nat.succ_pos 7),
      .jump .random 6 (Nat.succ_pos 5), .act .left, .jump .always 1 Nat.one_pos, .act .right,
      .jump .always 1 Nat.one_pos, .act .hop, .jump .always 1 Nat.one_pos, .act .infect,
      .jump .always 1 Nat.one_pos], by decide⟩
  name_ne := by decide

theorem read_rover (source : Option String) : read source roverText.toList = .ok rover := by
  rw [roverText, Text.toList_ofLines]
  rfl

theorem rover_bundled : rover.Bundled :=
  ⟨("Rover", roverText), by simp [bundled], none, read_rover none⟩

theorem load_rover : load .empty "Rover" = .ok (rover, .bundled "Rover.txt" roverText) :=
  load_of_read rfl (read_rover _)

end Vivarium.Species
