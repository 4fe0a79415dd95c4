/-!
# Blank characters, trimming and words

A character is blank when it separates words: the five layout controls, the four
information separators, the space and the other space characters of the Unicode standard.

* `strip` drops blanks at both ends.
* `words` cuts a text into its maximal runs of non-blank characters.
-/

namespace Vivarium.Text

/-- The characters that separate words. -/
def isBlank (c : Char) : Bool :=
  let n := c.toNat
  (9 ≤ n && n ≤ 13) || (28 ≤ n && n ≤ 32) || n == 0x85 || n == 0xA0 || n == 0x1680 ||
    (0x2000 ≤ n && n ≤ 0x200A) || n == 0x2028 || n == 0x2029 || n == 0x202F || n == 0x205F ||
    n == 0x3000

/-! ## Trimming -/

/-- A text without the blanks at its end. -/
def stripRight : List Char → List Char
  | [] => []
  | c :: cs =>
    match stripRight cs with
    | [] => if isBlank c then [] else [c]
    | kept => c :: kept

/-- A text without the blanks at its two ends. -/
def strip (cs : List Char) : List Char :=
  stripRight (cs.dropWhile isBlank)

/-! ## Words -/

def continuesWord : List Char → Bool
  | [] => false
  | c :: _ => !isBlank c

/-- Puts a character in front of the first word of a list of words. -/
def extendFirst (c : Char) : List (List Char) → List (List Char)
  | [] => [[c]]
  | w :: ws => (c :: w) :: ws

/-- The maximal runs of non-blank characters, in order. -/
def words : List Char → List (List Char)
  | [] => []
  | c :: cs =>
    if isBlank c then words cs
    else if continuesWord cs then extendFirst c (words cs)
    else [c] :: words cs

end Vivarium.Text
