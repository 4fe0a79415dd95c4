import Vivarium.Document.Token.Lexeme

/-!
# The tokens of a text

The reader keeps the indentation of the blocks that are open, how deep it is inside brackets, and,
for each depth, the place where a key may have begun: only the colon after it shows that it was
one, and then a token is put before it. Such a key must lie on one line and within 1024 characters
of its colon.

A fault is met only when the tokens before it have been used: which of several faults of a document
is told depends on that. `Supply` is what is certain before the first fault of this reader.
-/

namespace Vivarium.Document.Token

/-- The greatest distance between the start of a key and its colon. -/
def keyReach : Nat := 1024

structure KeyStart where
  /-- The number of tokens before it. -/
  place : Nat
  /-- Whether it must turn out to be a key. -/
  required : Bool
  index : Nat
  line : Nat
  column : Nat

/-- The state of the reader of tokens. -/
structure Scan where
  cursor : Cursor
  tokens : Array Token
  /-- The indentation of the innermost open block; -1 when there is none. -/
  indent : Int
  /-- The indentations of the blocks around it, the innermost first. -/
  outer : List Int
  /-- The depth inside brackets; negative when more were closed than opened. -/
  depth : Int
  /-- Whether a key may begin at the cursor. -/
  keyAllowed : Bool
  /-- The possible keys by depth. -/
  keys : List (Int × KeyStart)

namespace Scan

def ofText (text : List Char) : Scan := ⟨Cursor.ofText text, #[], -1, [], 0, true, []⟩

/-- Whether the reader is inside brackets. -/
def inFlow (s : Scan) : Bool := s.depth != 0

def push (s : Scan) (t : Token) : Scan := { s with tokens := s.tokens.push t }

def moveTo (s : Scan) (c : Cursor) (keyAllowed : Bool) : Scan :=
  { s with cursor := c, keyAllowed := keyAllowed }

/-! ## Possible keys -/

/-- Forgets the possible keys that are too far back; none if one of them had to be a key. -/
def dropStale (s : Scan) : Option Scan :=
  let stale (k : KeyStart) : Bool :=
    k.line != s.cursor.line || s.cursor.index - k.index > keyReach
  if s.keys.any fun entry => stale entry.2 && entry.2.required then none
  else some { s with keys := s.keys.filter fun entry => !stale entry.2 }

/-- Forgets the possible key at the present depth; none if it had to be a key. -/
def dropKey (s : Scan) : Option Scan :=
  if s.keys.any fun entry => entry.1 = s.depth ∧ entry.2.required then none
  else some { s with keys := s.keys.filter fun entry => entry.1 ≠ s.depth }

/-- Notes that a key may begin at the cursor, if one may. -/
def noteKey (s : Scan) : Option Scan :=
  if s.keyAllowed then do
    let required := !s.inFlow && s.indent == s.cursor.column
    let s ← s.dropKey
    let start : KeyStart :=
      ⟨s.tokens.size, required, s.cursor.index, s.cursor.line, s.cursor.column⟩
    return { s with keys := (s.depth, start) :: s.keys }
  else some s

/-! ## Indentation -/

/-- Closes blocks that are indented further than a column, given the indentations around the
innermost. -/
def closeBlocks (column : Int) : List Int → Scan → Scan
  | [], s => s
  | outer :: rest, s =>
    if s.indent > column then
      closeBlocks column rest { s.push .blockEnd with indent := outer, outer := rest }
    else s

/-- Closes the blocks that are indented further than a column; brackets hide indentation. -/
def unwind (s : Scan) (column : Int) : Scan :=
  if s.inFlow then s else closeBlocks column s.outer s

/-- Whether a block that begins at a column is a new one. -/
def opens (s : Scan) (column : Nat) : Bool := s.indent < column

def openBlock (s : Scan) (column : Nat) : Scan :=
  { s with indent := column, outer := s.indent :: s.outer }

/-! ## Between tokens -/

/-- Skips spaces, comments and line breaks. Outside brackets a key may begin on the next line. -/
def skipToToken : Nat → Scan → Scan
  | 0, s => s
  | fuel + 1, s =>
    let spaced := s.cursor.skip (· == ' ')
    let start := if spaced.here = '#' then spaced.skip (!isBreakOrEnd ·) else spaced
    if isBreak start.here then
      skipToToken fuel (s.moveTo start.lineBreak.2 (s.keyAllowed || !s.inFlow))
    else { s with cursor := start }

/-- Skips a mark of the encoding at the start of the text. -/
def skipOrderMark (s : Scan) : Scan :=
  if s.cursor.index = 0 ∧ s.cursor.here = byteOrderMark then { s with cursor := s.cursor.next }
  else s

/-! ## Tokens -/

/-- Adds a token after which a key may begin or not, the cursor moved some characters on. -/
def mark (s : Scan) (t : Token) (length : Nat) (keyAllowed : Bool) : Scan :=
  (s.push t).moveTo (s.cursor.forward length) keyAllowed

/-- Closes all blocks before what stands between documents. -/
def betweenDocuments (s : Scan) : Option Scan := (s.unwind (-1)).dropKey

/-- Adds a token that a lexeme gives and that may be a key. -/
def lexeme (s : Scan) (read : Cursor → Except Fault (Token × Cursor)) : Except Fault Scan := do
  let noted ← required s.noteKey
  let (token, after) ← read s.cursor
  return (noted.push token).moveTo after false

def openFlow (s : Scan) (t : Token) : Option Scan := do
  let s ← s.noteKey
  return { s.mark t 1 true with depth := s.depth + 1 }

def closeFlow (s : Scan) (t : Token) : Option Scan := do
  let s ← s.dropKey
  return { s.mark t 1 false with depth := s.depth - 1 }

/-- The dash before an item of a list over several lines. -/
def listItem (s : Scan) : Option Scan := do
  if s.inFlow then
    return (← s.dropKey).mark .blockEntry 1 true
  else if !s.keyAllowed then none
  else
    let column := s.cursor.column
    let s := if s.opens column then (s.openBlock column).push .blockSequenceStart else s
    return (← s.dropKey).mark .blockEntry 1 true

def explicitKey (s : Scan) : Option Scan := do
  if s.inFlow then
    return (← s.dropKey).mark .key 1 false
  else if !s.keyAllowed then none
  else
    let column := s.cursor.column
    let s := if s.opens column then (s.openBlock column).push .blockMappingStart else s
    return (← s.dropKey).mark .key 1 true

def insertAt (tokens : Array Token) (place : Nat) (t : Token) : Array Token :=
  tokens.extract 0 place ++ #[t] ++ tokens.extract place tokens.size

/-- The colon before a value. What began at a possible key is a key, and may begin a map. -/
def colon (s : Scan) : Option Scan :=
  match s.keys.lookup s.depth with
  | some start =>
    let s := { s with
      keys := s.keys.filter fun entry => entry.1 ≠ s.depth
      tokens := insertAt s.tokens start.place .key }
    let s :=
      if !s.inFlow && s.opens start.column then
        { s.openBlock start.column with tokens := insertAt s.tokens start.place .blockMappingStart }
      else s
    some (s.mark .value 1 false)
  | none =>
    if s.inFlow then do
      return (← s.dropKey).mark .value 1 false
    else if !s.keyAllowed then none
    else do
      let column := s.cursor.column
      let s := if s.opens column then (s.openBlock column).push .blockMappingStart else s
      return (← s.dropKey).mark .value 1 true

def blockScalar (s : Scan) (folded : Bool) : Option Scan := do
  let s ← s.dropKey
  let (token, after) ← block? folded s.indent s.cursor
  return (s.push token).moveTo after true

def plainScalar (s : Scan) : Option Scan := do
  let noted ← s.noteKey
  let (text, after, crossed) :=
    plainText s.inFlow s.indent [] (s.cursor.rest.length + 1) s.cursor
  return (noted.push (.scalar (String.ofList text) true)).moveTo after crossed

def directive (s : Scan) : Option Scan := do
  let closed ← s.betweenDocuments
  let (t, after) ← directive? s.cursor
  return (closed.push t).moveTo after false

/-- Reads the token at the cursor, which is not at the end of the text. -/
def token (s : Scan) : Except Fault Scan :=
  let c := s.cursor
  let gapAfter := isGap (c.peek 1)
  if c.here = '%' ∧ c.column = 0 then required s.directive
  else if c.column = 0 ∧ c.atMark '-' then
    required (s.betweenDocuments.map fun s => s.mark .documentStart 3 false)
  else if c.column = 0 ∧ c.atMark '.' then
    required (s.betweenDocuments.map fun s => s.mark .documentEnd 3 false)
  else if c.here = '[' then required (s.openFlow .flowSequenceStart)
  else if c.here = '\x7b' then required (s.openFlow .flowMappingStart)
  else if c.here = ']' then required (s.closeFlow .flowSequenceEnd)
  else if c.here = '\x7d' then required (s.closeFlow .flowMappingEnd)
  else if c.here = ',' then required (s.dropKey.map fun s => s.mark .flowEntry 1 true)
  else if c.here = '-' ∧ gapAfter then required s.listItem
  else if c.here = '?' ∧ (s.inFlow ∨ gapAfter) then required s.explicitKey
  else if c.here = ':' ∧ (s.inFlow ∨ gapAfter) then required s.colon
  else if c.here = '*' then
    s.lexeme fun c => required ((anchorName? c).map fun (name, after) => (.alias name, after))
  else if c.here = '&' then
    s.lexeme fun c => required ((anchorName? c).map fun (name, after) => (.anchor name, after))
  else if c.here = '!' then s.lexeme fun c => required (tag? c)
  else if c.here = '|' ∧ !s.inFlow then required (s.blockScalar false)
  else if c.here = '>' ∧ !s.inFlow then required (s.blockScalar true)
  else if c.here = '\'' then s.lexeme (quoted false)
  else if c.here = '"' then s.lexeme (quoted true)
  else if startsPlain s.inFlow c then required s.plainScalar
  else .error .badDocument

/-- The state before the next token: what stands between tokens is skipped, and blocks are
closed. -/
def approach (s : Scan) : Option Scan := do
  let s ← (skipToToken (s.cursor.rest.length + 1) s.skipOrderMark).dropStale
  return s.unwind s.cursor.column

/-- Reads the next token; at the end of the text there is none. -/
def advance (s : Scan) : Except Fault (Option Scan) := do
  let s ← required s.approach
  if s.cursor.rest.isEmpty then return none else return some (← s.token)

/-- The number of tokens that no later one can come before. -/
def settled (s : Scan) : Nat :=
  let live := (s.dropStale.getD s).keys
  live.foldl (fun least entry => min least entry.2.place) s.tokens.size

end Scan

/-- The tokens of a text. If there is a fault in it, they are those that are certain before it is
met. -/
structure Supply where
  tokens : List Token
  fault : Option Fault

namespace Supply

def broken (s : Scan) (fault : Fault) : Supply := ⟨s.tokens.toList.take s.settled, some fault⟩

/-- The supply of a state at the end of the text. -/
def complete (s : Scan) : Supply :=
  match required (s.approach.bind Scan.betweenDocuments) with
  | .ok last => ⟨(last.tokens.push .streamEnd).toList, none⟩
  | .error fault => broken s fault

/-- The supply of the tokens read and those that are left to read. -/
def ofScan : Nat → Scan → Supply
  | 0, s => broken s .badDocument
  | fuel + 1, s =>
    match s.advance with
    | .error fault => broken s fault
    | .ok none => complete s
    | .ok (some next) => ofScan fuel next

def ofText (text : List Char) : Supply :=
  if text.all isAllowed then ofScan (text.length + 2) (Scan.ofText text)
  else ⟨[], some .badDocument⟩

end Supply

end Vivarium.Document.Token
