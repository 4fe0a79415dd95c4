import Vivarium.Proofs.Text.Layout

/-!
# Where lines and words are parted

1. `splitLines_append`: the lines of a text are those of its parts, if a line can begin between them.
2. `IsLineOf`: what it means that a part of a text is one of its lines. Every line of a text is such a part
   (`exists_isLineOf`), and can be replaced (`exists_splitLines_eq`).
3. `splitLines_withBreaks`: it does not matter which of the three common breaks a text has.
4. `words_gap`, `strip_pad`: it does not matter how many blanks part two words, or stand at the ends.
-/

namespace Vivarium.Text

variable {before line after rest cs : List Char} {c : Char}

/-! ## Breaks part lines -/

def isUnbroken (cs : List Char) : Bool := cs.all fun c => !isLineBreak c

theorem isUnbroken_iff : isUnbroken cs = true ↔ ∀ c ∈ cs, isLineBreak c = false := by
  simp [isUnbroken]

theorem splitLines_break (breaks : isLineBreak c = true) (whole : c = '\r' → cs.head? ≠ some '\n') :
    splitLines (c :: cs) = [] :: splitLines cs := by
  rw [splitLines]
  · rw [if_pos breaks]
  · rintro later first rfl
    exact whole first rfl

theorem extendLine_ne_nil (c : Char) (lines : List (List Char)) : extendLine c lines ≠ [] := by
  cases lines <;> exact List.cons_ne_nil _ _

theorem length_extendLine {lines : List (List Char)} (filled : lines ≠ []) (c : Char) :
    (extendLine c lines).length = lines.length := by
  obtain ⟨first, others, rfl⟩ := List.exists_cons_of_ne_nil filled
  rfl

theorem extendLine_append {lines : List (List Char)} (filled : lines ≠ []) (c : Char)
    (more : List (List Char)) : extendLine c (lines ++ more) = extendLine c lines ++ more := by
  obtain ⟨first, others, rfl⟩ := List.exists_cons_of_ne_nil filled
  rfl

theorem splitLines_eq_nil_iff : splitLines cs = [] ↔ cs = [] := by
  fun_cases splitLines cs with
  | case1 => exact iff_of_true rfl rfl
  | case2 cs => exact iff_of_false (List.cons_ne_nil _ _) (List.cons_ne_nil _ _)
  | case3 c cs pair breaks => exact iff_of_false (List.cons_ne_nil _ _) (List.cons_ne_nil _ _)
  | case4 c cs pair plain => exact iff_of_false (extendLine_ne_nil c _) (List.cons_ne_nil _ _)

/-- Between two parts of a text a line can begin: the first one is empty or ends with a break, and this is not the
first half of a pair. -/
structure Parted (before rest : List Char) : Prop where
  begins : ∀ c ∈ before.getLast?, isLineBreak c = true
  whole : before.getLast? = some '\r' → rest.head? ≠ some '\n'

instance : Decidable (Parted before rest) :=
  decidable_of_iff (before.getLast?.all isLineBreak = true ∧
      (before.getLast? = some '\r' → rest.head? ≠ some '\n'))
    ⟨fun both => ⟨(Option.all_eq_true _ _).1 both.1, both.2⟩,
      fun parted => ⟨(Option.all_eq_true _ _).2 parted.begins, parted.whole⟩⟩

theorem Parted.tail (parted : Parted (c :: before) rest) : Parted before rest := by
  cases before with
  | nil => exact ⟨by simp, by simp⟩
  | cons d before => exact ⟨parted.begins, parted.whole⟩

/-- Lines are parted where a line can begin. -/
theorem splitLines_append (parted : Parted before rest) :
    splitLines (before ++ rest) = splitLines before ++ splitLines rest := by
  fun_induction splitLines before with
  | case1 => rfl
  | case2 cs ih =>
    have pair : splitLines ('\r' :: '\n' :: (cs ++ rest)) = [] :: splitLines (cs ++ rest) := by rw [splitLines]
    rw [List.cons_append, List.cons_append, pair, ih parted.tail.tail]
    rfl
  | case3 c cs pair breaks ih =>
    have apart : c = '\r' → (cs ++ rest).head? ≠ some '\n' := by
      rintro rfl
      cases cs with
      | nil => exact parted.whole rfl
      | cons d cs =>
        rintro same
        cases same
        exact pair cs rfl rfl
    rw [List.cons_append, splitLines_break breaks apart, ih parted.tail]
    rfl
  | case4 c cs pair plain ih =>
    cases cs with
    | nil => exact absurd (parted.begins c rfl) plain
    | cons d cs =>
      rw [List.cons_append, splitLines_cons (Bool.eq_false_iff.2 plain), ih parted.tail,
        extendLine_append (mt splitLines_eq_nil_iff.1 (List.cons_ne_nil d cs))]

/-- The first line of a text ends at its first break or at the end. What comes after it does not depend on it. -/
theorem exists_splitLines (ends : ∀ c ∈ after.head?, isLineBreak c = true) :
    ∃ later, ∀ line, (∀ c ∈ line, isLineBreak c = false) → line ++ after ≠ [] →
      splitLines (line ++ after) = line :: later := by
  suffices broken : after ≠ [] → ∃ later, splitLines after = [] :: later by
    cases after with
    | nil =>
      refine ⟨[], fun line unbroken filled => ?_⟩
      rw [List.append_nil] at filled ⊢
      exact splitLines_of_plain filled unbroken
    | cons c after =>
      obtain ⟨later, lines⟩ := broken (List.cons_ne_nil c after)
      refine ⟨later, fun line unbroken _ => ?_⟩
      induction line with
      | nil => exact lines
      | cons d line ih =>
        obtain ⟨first, others⟩ := List.forall_mem_cons.1 unbroken
        rw [List.cons_append, splitLines_cons first, ih others (by simp)]
        rfl
  intro filled
  fun_cases splitLines after with
  | case1 => exact absurd rfl filled
  | case2 cs => exact ⟨_, rfl⟩
  | case3 c cs pair breaks => exact ⟨_, rfl⟩
  | case4 c cs pair plain => exact absurd (ends c rfl) plain

/-- A line feed at the end closes the last line, or is a line of its own. -/
theorem splitLines_closed (cs : List Char) :
    splitLines (cs ++ ['\n']) = splitLines cs ∨ splitLines (cs ++ ['\n']) = splitLines cs ++ [[]] := by
  fun_induction splitLines cs with
  | case1 => exact .inr rfl
  | case2 cs ih =>
    have pair : splitLines ('\r' :: '\n' :: cs ++ ['\n']) = [] :: splitLines (cs ++ ['\n']) := by
      rw [List.cons_append, List.cons_append, splitLines]
    rw [pair]
    exact ih.imp (congrArg _) (congrArg _)
  | case3 c cs pair breaks ih =>
    cases cs with
    | nil =>
      by_cases first : c = '\r'
      · subst first
        exact .inl rfl
      · exact .inr (splitLines_break breaks (absurd · first))
    | cons d cs =>
      have apart : c = '\r' → (d :: cs ++ ['\n']).head? ≠ some '\n' := by
        rintro rfl same
        cases same
        exact pair cs rfl rfl
      rw [List.cons_append, splitLines_break breaks apart]
      exact ih.imp (congrArg _) (congrArg _)
  | case4 c cs pair plain ih =>
    rw [List.cons_append, splitLines_cons (Bool.eq_false_iff.2 plain)]
    cases cs with
    | nil => exact .inl rfl
    | cons d cs =>
      rw [← extendLine_append (mt splitLines_eq_nil_iff.1 (List.cons_ne_nil d cs))]
      exact ih.imp (congrArg _) (congrArg _)

/-- Two line feeds after a text put an empty line below its lines. -/
theorem exists_splitLines_appended (text more : List Char) :
    ∃ later, splitLines (text ++ '\n' :: '\n' :: more) = splitLines text ++ [] :: later := by
  have parted : Parted (text ++ ['\n']) ('\n' :: more) := ⟨by simp; rfl, by simp⟩
  have lines : splitLines (text ++ '\n' :: '\n' :: more) =
      splitLines (text ++ ['\n']) ++ [] :: splitLines more := by
    rw [List.append_cons, splitLines_append parted]
    rfl
  rcases splitLines_closed text with closed | closed
  · exact ⟨_, by rw [lines, closed]⟩
  · exact ⟨[] :: splitLines more, by rw [lines, closed, List.append_assoc]; rfl⟩

/-! ## Lines of a text -/

/-- The part between two other parts of a text is one of its lines: it has no break in it, it begins the text or
follows a break, and it ends the text or a break follows. There is no line between the two halves of a pair, and
none after a break at the end. -/
structure IsLineOf (before line after : List Char) : Prop extends Parted before (line ++ after) where
  unbroken : ∀ c ∈ line, isLineBreak c = false
  ends : ∀ c ∈ after.head?, isLineBreak c = true
  filled : line ++ after ≠ []

instance : Decidable (IsLineOf before line after) :=
  decidable_of_iff (Parted before (line ++ after) ∧ isUnbroken line = true ∧
      after.head?.all isLineBreak = true ∧ line ++ after ≠ [])
    ⟨fun ⟨parted, unbroken, ends, filled⟩ =>
        ⟨parted, isUnbroken_iff.1 unbroken, (Option.all_eq_true _ _).1 ends, filled⟩,
      fun placed => ⟨placed.toParted, isUnbroken_iff.2 placed.unbroken,
        (Option.all_eq_true _ _).2 placed.ends, placed.filled⟩⟩

/-- Another line can stand in the same place, if it is not empty or the one before was. -/
theorem IsLineOf.replace {other : List Char} (placed : IsLineOf before line after)
    (unbroken : ∀ c ∈ other, isLineBreak c = false) (kept : other = [] → line = []) :
    IsLineOf before other after where
  begins := placed.begins
  whole last := by
    cases other with
    | nil => exact kept rfl ▸ placed.whole last
    | cons c other =>
      rintro same
      cases same
      exact absurd (unbroken '\n' List.mem_cons_self) (by decide)
  unbroken := unbroken
  ends := placed.ends
  filled vacant := by
    obtain ⟨rfl, rfl⟩ := List.append_eq_nil_iff.1 vacant
    exact placed.filled (by rw [kept rfl]; rfl)

/-- The lines around a line do not depend on it. -/
theorem exists_splitLines_eq (ends : ∀ c ∈ after.head?, isLineBreak c = true) (before : List Char) :
    ∃ later, ∀ line, IsLineOf before line after →
      splitLines (before ++ line ++ after) = splitLines before ++ line :: later := by
  obtain ⟨later, lines⟩ := exists_splitLines ends
  refine ⟨later, fun line placed => ?_⟩
  rw [List.append_assoc, splitLines_append placed.toParted, lines line placed.unbroken placed.filled]

theorem IsLineOf.cons_break (breaks : isLineBreak c = true) (placed : IsLineOf before line after)
    (whole : c = '\r' → (before ++ line ++ after).head? ≠ some '\n') : IsLineOf (c :: before) line after where
  begins := by
    cases before with
    | nil => simpa using breaks
    | cons d before => exact placed.begins
  whole last := by
    cases before with
    | nil => exact whole (Option.some.inj last)
    | cons d before => exact placed.whole last
  unbroken := placed.unbroken
  ends := placed.ends
  filled := placed.filled

/-- Every line of a text is a part of it, after as many lines as its number says. -/
theorem exists_isLineOf {text : List Char} {n : Nat} (listed : (splitLines text)[n]? = some line) :
    ∃ before after, text = before ++ line ++ after ∧ IsLineOf before line after ∧
      (splitLines before).length = n := by
  fun_induction splitLines text generalizing n line with
  | case1 => cases listed
  | case2 cs ih =>
    cases n with
    | zero =>
      cases listed
      exact ⟨[], '\r' :: '\n' :: cs, rfl, ⟨⟨by simp, by simp⟩, by simp, by simp; rfl, by simp⟩, rfl⟩
    | succ n =>
      obtain ⟨before, after, rfl, placed, number⟩ := ih listed
      have placed' : IsLineOf ('\n' :: before) line after :=
        placed.cons_break rfl fun same => absurd same (by decide)
      refine ⟨'\r' :: '\n' :: before, after, rfl, ⟨⟨placed'.begins, placed'.whole⟩, placed.unbroken,
        placed.ends, placed.filled⟩, ?_⟩
      rw [splitLines, List.length_cons, number]
  | case3 c cs pair breaks ih =>
    cases n with
    | zero =>
      cases listed
      exact ⟨[], c :: cs, rfl, ⟨⟨by simp, by simp⟩, by simp, by simpa using breaks, by simp⟩, rfl⟩
    | succ n =>
      obtain ⟨before, after, rfl, placed, number⟩ := ih listed
      have whole : c = '\r' → (before ++ line ++ after).head? ≠ some '\n' := by
        rintro rfl
        generalize before ++ line ++ after = cs at pair
        rintro first
        obtain ⟨later, rfl⟩ := List.head?_eq_some_iff.1 first
        exact pair later rfl rfl
      refine ⟨c :: before, after, rfl, placed.cons_break breaks whole, ?_⟩
      rw [splitLines_break breaks, List.length_cons, number]
      intro same first
      refine whole same ?_
      rw [List.append_assoc, List.head?_append, first]
      rfl
  | case4 c cs pair plain ih =>
    rw [Bool.not_eq_true] at plain
    cases lines : splitLines cs with
    | nil =>
      obtain rfl := splitLines_eq_nil_iff.1 lines
      have alone : n = 0 ∧ line = [c] := by
        cases n with
        | zero => exact ⟨rfl, (Option.some.inj listed).symm⟩
        | succ n => cases listed
      obtain ⟨rfl, rfl⟩ := alone
      exact ⟨[], [], rfl, ⟨⟨by simp, by simp⟩, by simpa using plain, by simp, by simp⟩, rfl⟩
    | cons first others =>
      rw [lines] at listed ih
      cases n with
      | zero =>
        cases listed
        obtain ⟨before, after, rfl, placed, number⟩ := ih (n := 0) rfl
        obtain rfl := splitLines_eq_nil_iff.1 (List.length_eq_zero_iff.1 number)
        exact ⟨[], after, rfl, ⟨⟨by simp, by simp⟩, List.forall_mem_cons.2 ⟨plain, placed.unbroken⟩,
          placed.ends, by simp⟩, rfl⟩
      | succ n =>
        obtain ⟨before, after, rfl, placed, number⟩ := ih (n := n + 1) listed
        obtain ⟨d, before, rfl⟩ : ∃ d later, before = d :: later :=
          List.exists_cons_of_ne_nil (by rintro rfl; cases number)
        refine ⟨c :: d :: before, after, rfl, ⟨⟨placed.begins, placed.whole⟩, placed.unbroken, placed.ends,
          placed.filled⟩, ?_⟩
        have filled := mt splitLines_eq_nil_iff.1 (List.cons_ne_nil d before)
        rw [splitLines_cons plain, length_extendLine filled, number]

/-! ## Common breaks -/

/-- The three common ways to end a line. -/
inductive Break where
  | lineFeed
  | carriageReturn
  | pair

def Break.text : Break → List Char
  | lineFeed => ['\n']
  | carriageReturn => ['\r']
  | pair => ['\r', '\n']

/-- The text with each of the three common breaks written as one of them. -/
def withBreaks (b : Break) : List Char → List Char
  | [] => []
  | '\r' :: '\n' :: cs => b.text ++ withBreaks b cs
  | c :: cs => (if c = '\r' ∨ c = '\n' then b.text else [c]) ++ withBreaks b cs

theorem notMem_withBreaks (cs : List Char) : '\n' ∉ withBreaks .carriageReturn cs := by
  fun_induction withBreaks .carriageReturn cs with
  | case1 => exact List.not_mem_nil
  | case2 cs ih => simpa [Break.text] using ih
  | case3 c cs pair ih =>
    rw [List.mem_append, not_or]
    refine ⟨?_, ih⟩
    split
    · simp [Break.text]
    · next other =>
      rw [not_or] at other
      simpa using Ne.symm other.2

theorem splitLines_break_withBreaks (b : Break) (cs : List Char) :
    splitLines (b.text ++ withBreaks b cs) = [] :: splitLines (withBreaks b cs) := by
  cases b with
  | lineFeed => exact splitLines_break rfl fun same => absurd same (by decide)
  | carriageReturn =>
    -- No line feed is left that could be the second half of a pair.
    refine splitLines_break rfl fun _ first => notMem_withBreaks cs ?_
    exact List.mem_of_mem_head? first
  | pair =>
    show splitLines ('\r' :: '\n' :: withBreaks .pair cs) = _
    rw [splitLines]

/-- The lines are the same with any of the common breaks. -/
theorem splitLines_withBreaks (b : Break) (cs : List Char) :
    splitLines (withBreaks b cs) = splitLines cs := by
  fun_induction withBreaks b cs with
  | case1 => rfl
  | case2 cs ih => rw [splitLines_break_withBreaks, ih, splitLines]
  | case3 c cs pair ih =>
    split
    · next common =>
      have breaks : isLineBreak c = true := by rcases common with rfl | rfl <;> rfl
      rw [splitLines_break_withBreaks, ih, splitLines_break breaks]
      rintro rfl first
      obtain ⟨later, rfl⟩ := List.head?_eq_some_iff.1 first
      exact pair later rfl rfl
    · next other =>
      rw [not_or] at other
      rw [List.singleton_append]
      cases breaks : isLineBreak c
      · rw [splitLines_cons breaks, splitLines_cons breaks, ih]
      · rw [splitLines_break breaks (absurd · other.1), splitLines_break breaks (absurd · other.1), ih]

/-! ## Blanks part words -/

/-- A blank parts the words before it from those after it. -/
theorem words_append_cons (blank : isBlank c = true) (cs rest : List Char) :
    words (cs ++ c :: rest) = words cs ++ words rest := by
  induction cs with
  | nil =>
    show words (c :: rest) = words rest
    rw [words, if_pos blank]
  | cons d cs ih =>
    have goes : continuesWord (cs ++ c :: rest) = continuesWord cs := by
      cases cs with
      | nil => simp [continuesWord, blank]
      | cons e cs => rfl
    rw [List.cons_append, words, words, ih, goes]
    split
    · rfl
    · split
      · next more =>
        -- There is a word to extend.
        have filled : words cs ≠ [] := by
          cases cs with
          | nil => cases more
          | cons e cs =>
            intro vacant
            have blank := words_eq_nil_iff.1 vacant e List.mem_cons_self
            simp [continuesWord, blank] at more
        obtain ⟨first, others, same⟩ := List.exists_cons_of_ne_nil filled
        rw [same]
        rfl
      · rfl

theorem words_blank_append {gap : List Char} (blank : ∀ c ∈ gap, isBlank c = true) (cs : List Char) :
    words (gap ++ cs) = words cs := by
  induction gap with
  | nil => rfl
  | cons c gap ih =>
    obtain ⟨first, others⟩ := List.forall_mem_cons.1 blank
    rw [List.cons_append, words, if_pos first, ih others]

/-- It does not matter how many blanks part two words. -/
theorem words_gap {gap : List Char} (filled : gap ≠ []) (blank : ∀ c ∈ gap, isBlank c = true)
    (cs rest : List Char) : words (cs ++ gap ++ rest) = words cs ++ words rest := by
  obtain ⟨c, more, rfl⟩ := List.exists_cons_of_ne_nil filled
  obtain ⟨first, others⟩ := List.forall_mem_cons.1 blank
  rw [List.append_assoc, List.cons_append, words_append_cons first, words_blank_append others]

theorem words_pad {left right : List Char} (blank : ∀ c ∈ left, isBlank c = true)
    (blank' : ∀ c ∈ right, isBlank c = true) (cs : List Char) : words (left ++ cs ++ right) = words cs := by
  rw [List.append_assoc, words_blank_append blank]
  cases right with
  | nil => rw [List.append_nil]
  | cons c right =>
    have vacant : words (c :: right) = [] := words_eq_nil_iff.2 blank'
    have gap := words_gap (List.cons_ne_nil c right) blank' cs []
    rwa [List.append_nil, words, List.append_nil] at gap

/-- Blanks at the ends are dropped. -/
theorem strip_pad {left right : List Char} (blank : ∀ c ∈ left, isBlank c = true)
    (blank' : ∀ c ∈ right, isBlank c = true) (cs : List Char) : strip (left ++ cs ++ right) = strip cs := by
  rw [strip, strip, stripRight_eq_rdropWhile, stripRight_eq_rdropWhile, List.append_assoc,
    List.dropWhile_append_of_pos blank, List.dropWhile_append]
  have dropped : right.dropWhile isBlank = [] := List.dropWhile_eq_nil_iff.2 blank'
  split
  · next vacant => rw [dropped, List.isEmpty_iff.1 vacant]
  · rw [List.rdropWhile, List.rdropWhile, List.reverse_append,
      List.dropWhile_append_of_pos fun c listed => blank' c (List.mem_reverse.1 listed)]

/-! ## Letter case and blanks -/

theorem isBlank_toLower (c : Char) : isBlank c.toLower = isBlank c := by
  by_cases capital : 'A'.val ≤ c.val ∧ c.val ≤ 'Z'.val
  · have low : 65 ≤ c.toNat := capital.1
    have high : c.toNat ≤ 90 := capital.2
    have raised : c.toLower.val = c.val + 32 := congrArg Char.val (dif_pos capital)
    have small : c.toLower.toNat = c.toNat + 32 := by
      show c.toLower.val.toNat = c.val.toNat + 32
      rw [raised, UInt32.toNat_add]
      exact Nat.mod_eq_of_lt (by have : c.val.toNat ≤ 90 := high; simp; omega)
    rw [isBlank_of_le (by omega) (by omega), isBlank_of_le (c := c) (by omega) (by omega)]
  · have same : c.toLower = c := dif_neg capital
    rw [same]

/-- No letter is a blank in one case only. -/
theorem solid_of_map_toLower {word word' : List Char} (same : word'.map Char.toLower = word.map Char.toLower)
    (solid : ∀ c ∈ word, isBlank c = false) : ∀ c ∈ word', isBlank c = false := by
  intro c listed
  have lowered : c.toLower ∈ word.map Char.toLower := same ▸ List.mem_map_of_mem listed
  obtain ⟨d, there, alike⟩ := List.mem_map.1 lowered
  rw [← isBlank_toLower, ← alike, isBlank_toLower, solid d there]

end Vivarium.Text
