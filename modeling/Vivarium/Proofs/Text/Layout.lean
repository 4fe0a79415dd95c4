import Mathlib.Data.List.DropRight
import Vivarium.Text.Blank
import Vivarium.Text.Lines
import Vivarium.Text.Lowercase

/-!
# Lines, words and letter case

1. `splitLines_flatMap`, `splitLines_intercalate`: lines that are closed or parted by line feeds are read back.
   `not_isLineBreak_of_mem_splitLines`: no line holds a break.
2. `strip_eq_self_iff`: what `strip` leaves alone is what neither starts nor ends with a blank.
3. `words_append`, `words_of_solid`: a run of other characters up to a blank or the end is a word.
4. `lower_eq_iff`: the lower case of a word is a given word of small ASCII letters exactly if the ASCII letters
   of it are. The one other capital letter with a small ASCII letter is the sign for kelvins, whence `k` is left
   out.
-/

namespace Vivarium.Text

variable {cs line word rest : List Char} {c : Char}

/-! ## Lines -/

theorem splitLines_cons (plain : isLineBreak c = false) (cs : List Char) :
    splitLines (c :: cs) = extendLine c (splitLines cs) := by
  have other : c ≠ '\r' := by
    rintro rfl
    exact absurd plain (by decide)
  rw [splitLines]
  · rw [plain]
    rfl
  · simp [other]

/-- A line without breaks, closed by a line feed, is the first line. -/
theorem splitLines_newline (plain : ∀ c ∈ line, isLineBreak c = false) (rest : List Char) :
    splitLines (line ++ '\n' :: rest) = line :: splitLines rest := by
  induction line with
  | nil => rfl
  | cons c line ih =>
    rw [List.cons_append, splitLines_cons (plain c List.mem_cons_self),
      ih fun d listed => plain d (List.mem_cons_of_mem c listed)]
    rfl

/-- A text without breaks is one line, and nothing is no line. -/
theorem splitLines_of_plain (nonempty : line ≠ []) (plain : ∀ c ∈ line, isLineBreak c = false) :
    splitLines line = [line] := by
  induction line with
  | nil => exact absurd rfl nonempty
  | cons c line ih =>
    rw [splitLines_cons (plain c List.mem_cons_self)]
    rcases line with _ | ⟨d, line⟩
    · rfl
    · rw [ih (List.cons_ne_nil d line) fun e listed => plain e (List.mem_cons_of_mem c listed)]
      rfl

theorem toList_ofLines (lines : List String) :
    (ofLines lines).toList = lines.flatMap fun line => line.toList ++ ['\n'] := by
  have closed (line : String) : (line ++ "\n").toList = line.toList ++ ['\n'] :=
    String.toList_append
  simp only [ofLines, String.toList_join, List.flatMap_map, closed]

variable {lines : List (List Char)}

/-- Lines that are closed by line feeds are read back. -/
theorem splitLines_flatMap (plain : ∀ line ∈ lines, ∀ c ∈ line, isLineBreak c = false) :
    splitLines (lines.flatMap (· ++ ['\n'])) = lines := by
  induction lines with
  | nil => rfl
  | cons line lines ih =>
    obtain ⟨first, later⟩ := List.forall_mem_cons.1 plain
    rw [List.flatMap_cons, List.append_assoc, List.singleton_append, splitLines_newline first, ih later]

/-- Lines that are parted by line feeds are read back, unless the last one is empty. -/
theorem splitLines_intercalate (plain : ∀ line ∈ lines, ∀ c ∈ line, isLineBreak c = false)
    (nonempty : ∀ line ∈ lines, line ≠ []) : splitLines (['\n'].intercalate lines) = lines := by
  induction lines with
  | nil => rfl
  | cons line lines ih =>
    obtain ⟨first, later⟩ := List.forall_mem_cons.1 plain
    obtain ⟨full, filled⟩ := List.forall_mem_cons.1 nonempty
    rcases lines with _ | ⟨next, lines⟩
    · rw [List.intercalate_singleton, splitLines_of_plain full first]
    · rw [List.intercalate_cons_cons, List.append_assoc, List.singleton_append, splitLines_newline first,
        ih later filled]

theorem not_isLineBreak_of_mem_splitLines (listed : line ∈ splitLines cs) (inside : c ∈ line) :
    isLineBreak c = false := by
  fun_induction splitLines cs generalizing line with
  | case1 => cases listed
  | case2 cs ih =>
    rcases List.mem_cons.1 listed with rfl | listed
    · cases inside
    · exact ih listed inside
  | case3 d cs _ _ ih =>
    rcases List.mem_cons.1 listed with rfl | listed
    · cases inside
    · exact ih listed inside
  | case4 d cs _ plain ih =>
    rw [Bool.not_eq_true] at plain
    cases parts : splitLines cs with
    | nil =>
      rw [parts, extendLine, List.mem_singleton] at listed
      subst listed
      exact List.mem_singleton.1 inside ▸ plain
    | cons first later =>
      rw [parts, extendLine] at listed
      rcases List.mem_cons.1 listed with rfl | listed
      · rcases List.mem_cons.1 inside with rfl | inside
        · exact plain
        · exact ih (parts ▸ List.mem_cons_self) inside
      · exact ih (parts ▸ List.mem_cons_of_mem first listed) inside

/-! ## Blanks -/

/-- All line breaks are blanks. -/
theorem isLineBreak_of_not_isBlank (solid : isBlank c = false) : isLineBreak c = false := by
  simp only [isBlank, Bool.or_eq_false_iff, Bool.and_eq_false_iff, decide_eq_false_iff_not,
    beq_eq_false_iff_ne] at solid
  simp only [isLineBreak, Bool.or_eq_false_iff, Bool.and_eq_false_iff, decide_eq_false_iff_not,
    beq_eq_false_iff_ne]
  omega

/-- No printed ASCII character but the space is blank. -/
theorem isBlank_of_le (low : 33 ≤ c.toNat) (high : c.toNat ≤ 126) : isBlank c = false := by
  simp only [isBlank, Bool.or_eq_false_iff, Bool.and_eq_false_iff, decide_eq_false_iff_not, beq_eq_false_iff_ne]
  omega

/-! ## Trimming -/

theorem stripRight_eq_rdropWhile (cs : List Char) : stripRight cs = cs.rdropWhile isBlank := by
  induction cs with
  | nil => rfl
  | cons c cs ih =>
    have kept : stripRight (c :: cs) =
        if (cs.rdropWhile isBlank).isEmpty then (if isBlank c then [] else [c])
        else c :: cs.rdropWhile isBlank := by
      rw [stripRight, ih]
      cases cs.rdropWhile isBlank <;> rfl
    rw [kept, List.rdropWhile, List.rdropWhile, List.reverse_cons, List.dropWhile_append, List.isEmpty_reverse]
    split
    · cases blank : isBlank c <;> simp [blank]
    · simp

theorem strip_eq_nil_iff : strip cs = [] ↔ ∀ c ∈ cs, isBlank c = true := by
  rw [strip, stripRight_eq_rdropWhile, List.rdropWhile_eq_nil_iff]
  constructor
  · intro blank c listed
    rw [← List.takeWhile_append_dropWhile (p := isBlank) (l := cs)] at listed
    rcases List.mem_append.1 listed with first | later
    · exact List.mem_takeWhile_imp first
    · exact blank c later
  · exact fun blank c listed => blank c ((List.dropWhile_sublist _).subset listed)

theorem mem_of_mem_strip (listed : c ∈ strip cs) : c ∈ cs := by
  rw [strip, stripRight_eq_rdropWhile] at listed
  exact (List.dropWhile_sublist _).subset ((List.rdropWhile_prefix _ _).subset listed)

/-- Neither the first nor the last character is a blank. -/
def IsTrimmed (cs : List Char) : Prop :=
  (∀ c ∈ cs.head?, isBlank c = false) ∧ ∀ c ∈ cs.getLast?, isBlank c = false

theorem isTrimmed_strip (cs : List Char) : IsTrimmed (strip cs) := by
  rw [strip, stripRight_eq_rdropWhile]
  constructor
  · intro c first
    obtain ⟨dropped, same⟩ := List.rdropWhile_prefix isBlank (cs.dropWhile isBlank)
    have solid := List.head?_dropWhile_not isBlank cs
    rw [← same, List.head?_append, first] at solid
    exact solid
  · intro c last
    obtain ⟨nonempty, same⟩ := List.mem_getLast?_eq_getLast last
    exact same ▸ Bool.eq_false_iff.2 (List.rdropWhile_last_not isBlank _ nonempty)

theorem strip_eq_self_iff : strip cs = cs ↔ IsTrimmed cs := by
  constructor
  · exact fun same => same ▸ isTrimmed_strip cs
  · rintro ⟨first, last⟩
    have whole : cs.dropWhile isBlank = cs := by
      cases cs with
      | nil => rfl
      | cons c cs => exact List.dropWhile_cons_of_neg (Bool.eq_false_iff.1 (first c rfl))
    rw [strip, stripRight_eq_rdropWhile, whole, List.rdropWhile_eq_self_iff]
    exact fun nonempty => Bool.eq_false_iff.1 (last _ (List.getLast?_eq_some_getLast nonempty))

/-! ## Words -/

theorem extendFirst_ne_nil (c : Char) (ws : List (List Char)) : extendFirst c ws ≠ [] := by
  cases ws <;> simp [extendFirst]

theorem words_eq_nil_iff : words cs = [] ↔ ∀ c ∈ cs, isBlank c = true := by
  induction cs with
  | nil => simp [words]
  | cons c cs ih =>
    rw [words, List.forall_mem_cons, ← ih]
    cases blank : isBlank c
    · simp only [Bool.false_eq_true, if_false, false_and, iff_false]
      split
      · exact extendFirst_ne_nil c _
      · exact List.cons_ne_nil _ _
    · simp

/-- Characters that are no blanks, up to a blank or the end, are a word. -/
theorem words_append (nonempty : word ≠ []) (solid : ∀ c ∈ word, isBlank c = false)
    (ends : continuesWord rest = false) : words (word ++ rest) = word :: words rest := by
  induction word with
  | nil => exact absurd rfl nonempty
  | cons c word ih =>
    have first := solid c List.mem_cons_self
    rw [List.cons_append, words, if_neg (Bool.eq_false_iff.1 first)]
    rcases word with _ | ⟨d, word⟩
    · rw [List.nil_append, if_neg (Bool.eq_false_iff.1 ends)]
    · have goes : continuesWord (d :: word ++ rest) = true := by
        simp [continuesWord, solid d (List.mem_cons_of_mem c List.mem_cons_self)]
      rw [if_pos goes, ih (List.cons_ne_nil d word) fun e listed => solid e (List.mem_cons_of_mem c listed)]
      rfl

theorem words_of_solid (nonempty : word ≠ []) (solid : ∀ c ∈ word, isBlank c = false) : words word = [word] := by
  have words := words_append nonempty solid (rfl : continuesWord [] = false)
  rwa [List.append_nil] at words

/-! ## Letter case -/

/-- A small letter of ASCII that is the small letter of no capital letter outside ASCII. -/
def IsPlainSmall (c : Char) : Prop := 97 ≤ c.toNat ∧ c.toNat ≤ 122 ∧ c ≠ 'k'

/-- The runs of capital letters outside ASCII lead outside ASCII again, but for a run of one letter that leads
to `k`. -/
theorem shift_of_holds {run : CaseRun} (listed : run ∈ caseRuns) {n : Nat} (far : 128 ≤ n)
    (holds : run.holds n = true) : (n + run.shift).toNat = 107 ∨ 128 ≤ (n + run.shift).toNat := by
  have bounds : ∀ run ∈ caseRuns, run.last < 128 ∨ 128 ≤ run.first + run.shift ∨
      run.first = run.last ∧ run.first + run.shift = 107 := by decide +kernel
  simp only [CaseRun.holds, Bool.and_eq_true, decide_eq_true_eq] at holds
  have := bounds run listed
  omega

theorem not_isPlainSmall_of_far (far : 128 ≤ c.toNat) : ¬ IsPlainSmall c := by
  rintro ⟨-, high, -⟩
  omega

/-- Outside ASCII no capital letter but the sign for kelvins has a small letter in ASCII. -/
theorem not_isPlainSmall_lowerChar (far : 128 ≤ c.toNat) : ¬ IsPlainSmall (lowerChar c) := by
  rw [lowerChar, if_neg (by omega)]
  cases found : caseRuns.find? (·.holds c.toNat) with
  | none => exact not_isPlainSmall_of_far far
  | some run =>
    rintro ⟨low, high, other⟩
    have holds : run.holds c.toNat = true := by simpa using List.find?_some found
    have shifted := shift_of_holds (List.mem_of_find?_eq_some found) far holds
    simp only at low high other
    generalize (c.toNat + run.shift).toNat = n at *
    by_cases valid : n.isValidChar
    · have same : (Char.ofNat n).toNat = n := by
        rw [Char.ofNat, dif_pos valid]
        rfl
      obtain rfl : n = 107 := by omega
      exact other rfl
    · rw [Char.ofNat, dif_neg valid] at low
      exact absurd low (by decide)

theorem toLower_of_far (far : 128 ≤ c.toNat) : c.toLower = c := by
  refine dif_neg ?_
  rintro ⟨-, high⟩
  have : c.toNat ≤ 90 := high
  omega

theorem exists_mem_lowerAfter (far : 128 ≤ c.toNat) (before word : List Char) :
    ∃ d ∈ lowerAfter before (c :: word), ¬ IsPlainSmall d := by
  rw [lowerAfter]
  split
  · refine ⟨_, List.mem_append_left _ (List.mem_singleton_self _), not_isPlainSmall_of_far ?_⟩
    split <;> decide
  · split
    · exact ⟨Char.ofNat 0x307, by simp, not_isPlainSmall_of_far (by decide)⟩
    · exact ⟨_, List.mem_append_left _ (List.mem_singleton_self _), not_isPlainSmall_lowerChar far⟩

/-- A word of plain small letters is the lower case of the words that differ from it in the case of ASCII
letters only. -/
theorem lowerAfter_eq_iff {target : List Char} (plain : ∀ c ∈ target, IsPlainSmall c) (before : List Char) :
    lowerAfter before word = target ↔ word.map Char.toLower = target := by
  induction word generalizing before target with
  | nil => rfl
  | cons c word ih =>
    by_cases far : 128 ≤ c.toNat
    · -- Some letter on the left is not plain, and on the right it is this one.
      refine iff_of_false ?_ ?_
      · rintro rfl
        obtain ⟨d, listed, odd⟩ := exists_mem_lowerAfter far before word
        exact odd (plain d listed)
      · rintro rfl
        refine not_isPlainSmall_of_far far ?_
        have listed : c.toLower ∈ (c :: word).map Char.toLower := List.mem_cons_self
        rw [toLower_of_far far] at listed
        exact plain c listed
    · have sigma : c ≠ 'Σ' := by
        rintro rfl
        exact far (by decide)
      have dotted : c ≠ 'İ' := by
        rintro rfl
        exact far (by decide)
      have near : lowerChar c = c.toLower := if_pos (by omega)
      rw [lowerAfter, if_neg sigma, if_neg dotted, near, List.map_cons]
      rcases target with _ | ⟨d, target⟩
      · simp
      · rw [List.singleton_append, List.cons_eq_cons, List.cons_eq_cons,
          ih fun e listed => plain e (List.mem_cons_of_mem d listed)]

theorem lower_eq_iff {target : List Char} (plain : ∀ c ∈ target, IsPlainSmall c) :
    lower word = target ↔ word.map Char.toLower = target :=
  lowerAfter_eq_iff plain []

end Vivarium.Text
