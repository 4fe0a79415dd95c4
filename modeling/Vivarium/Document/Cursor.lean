/-!
# A place in a document

A cursor is what is left of a document's text, with the number of characters before it, the line,
and the column on it. Past the end of the text a cursor sees the character zero, which no document
holds.
-/

namespace Vivarium.Document

def endMark : Char := Char.ofNat 0

def isBreak (c : Char) : Bool :=
  c == '\n' || c.toNat == 0x85 || c.toNat == 0x2028 || c.toNat == 0x2029

/-- Whether a character ends a line or the text. -/
def isBreakOrEnd (c : Char) : Bool := isBreak c || c == endMark

/-- Whether a character is a space, or ends a line or the text. -/
def isSpaceOrEnd (c : Char) : Bool := c == ' ' || isBreakOrEnd c

/-- Whether a character is a space or a tab, or ends a line or the text. -/
def isGap (c : Char) : Bool := c == '\t' || isSpaceOrEnd c

/-- The mark that a text may begin with to show how it is encoded. -/
def byteOrderMark : Char := Char.ofNat 0xFEFF

def isAllowed (c : Char) : Bool :=
  let n := c.toNat
  n == 9 || n == 10 || n == 13 || (0x20 ≤ n && n ≤ 0x7E) || n == 0x85 || (0xA0 ≤ n && n ≤ 0xD7FF) ||
    (0xE000 ≤ n && n ≤ 0xFFFD) || 0x10000 ≤ n

/-- A place in a text. -/
structure Cursor where
  rest : List Char
  index : Nat
  line : Nat
  column : Nat

namespace Cursor

def ofText (text : List Char) : Cursor := ⟨text, 0, 0, 0⟩

def peek (c : Cursor) (ahead : Nat) : Char := c.rest[ahead]?.getD endMark

def here (c : Cursor) : Char := c.peek 0

def next (c : Cursor) : Cursor :=
  match c.rest with
  | [] => c
  | x :: rest =>
    if isBreak x then ⟨rest, c.index + 1, c.line + 1, 0⟩
    else ⟨rest, c.index + 1, c.line, if x = byteOrderMark then c.column else c.column + 1⟩

/-- The cursor so many characters on. -/
def forward (c : Cursor) : Nat → Cursor
  | 0 => c
  | n + 1 => c.next.forward n

def span (c : Cursor) (p : Char → Bool) : List Char × Cursor :=
  let taken := c.rest.takeWhile p
  (taken, c.forward taken.length)

def skip (c : Cursor) (p : Char → Bool) : Cursor := (c.span p).2

/-- The line break at the cursor, if there is one, and the cursor after it. The two common breaks
count as one. -/
def lineBreak (c : Cursor) : List Char × Cursor :=
  if c.here = '\n' ∨ c.here.toNat = 0x85 then (['\n'], c.next)
  else if isBreak c.here then ([c.here], c.next)
  else ([], c)

/-- Whether a mark of three equal characters stands alone at the cursor. -/
def atMark (c : Cursor) (mark : Char) : Bool :=
  c.peek 0 == mark && c.peek 1 == mark && c.peek 2 == mark && isGap (c.peek 3)

def atDocumentMark (c : Cursor) : Bool := c.atMark '-' || c.atMark '.'

/-- The cursor after spaces, a comment, and the break that ends the line; none if anything else
stands there. -/
def endLine? (c : Cursor) : Option Cursor :=
  let spaced := c.skip (· == ' ')
  let commented := if spaced.here = '#' then spaced.skip (!isBreakOrEnd ·) else spaced
  if isBreakOrEnd commented.here then some commented.lineBreak.2 else none

end Cursor

end Vivarium.Document
