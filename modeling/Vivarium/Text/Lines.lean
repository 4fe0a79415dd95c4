/-!
# Line breaks

Two readings of a line break are used. A species text is cut into lines at any of eleven breaks
(`splitLines`); a file is read with the three common breaks made one (`unifyBreaks`).
-/

namespace Vivarium.Text

/-- The characters that end a line. A carriage return and the line feed after it are one break. -/
def isLineBreak (c : Char) : Bool :=
  let n := c.toNat
  (10 ≤ n && n ≤ 13) || (28 ≤ n && n ≤ 30) || n == 0x85 || n == 0x2028 || n == 0x2029

/-- Puts a character in front of the first line of a list of lines. -/
def extendLine (c : Char) : List (List Char) → List (List Char)
  | [] => [[c]]
  | l :: ls => (c :: l) :: ls

/-- The lines of a text. A break ends a line, so a text that ends with a break has no further,
empty line. -/
def splitLines : List Char → List (List Char)
  | [] => []
  | '\r' :: '\n' :: cs => [] :: splitLines cs
  | c :: cs => if isLineBreak c then [] :: splitLines cs else extendLine c (splitLines cs)

/-- A text with each carriage return, alone or before a line feed, made a line feed. -/
def unifyBreaks : List Char → List Char
  | [] => []
  | '\r' :: '\n' :: cs => '\n' :: unifyBreaks cs
  | c :: cs => (if c = '\r' then '\n' else c) :: unifyBreaks cs

def ofLines (lines : List String) : String := String.join (lines.map (· ++ "\n"))

/-- A text without one line break at its end. -/
def dropBreak (cs : List Char) : List Char :=
  if cs.getLast? = some '\n' then cs.dropLast else cs

end Vivarium.Text
