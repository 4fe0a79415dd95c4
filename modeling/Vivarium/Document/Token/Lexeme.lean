import Vivarium.Document.Cursor
import Vivarium.Document.Token
import Vivarium.Json.Reader

/-!
# Lexemes

How the tokens that carry text are written: directives, anchors, tags, and the four ways to write a
scalar other than a plain one. Each reader takes the cursor at the first character of the lexeme and
gives the token and the cursor after it, or none if the lexeme is not well formed. Between double
quotes there is another fault: an escape may ask for a character that there is not.
-/

namespace Vivarium.Document

/-- What must be there for a document to be well formed. -/
def required {α : Type} (found : Option α) : Except Fault α :=
  found.elim (.error .badDocument) .ok

namespace Token

/-! ## Names, anchors and directives -/

def isNameChar (c : Char) : Bool := c.isAlphanum || c == '-' || c == '_'

def name? (c : Cursor) : Option (String × Cursor) :=
  match c.span isNameChar with
  | ([], _) => none
  | (cs, after) => some (String.ofList cs, after)

/-- The name after the mark of an anchor or an alias. -/
def anchorName? (c : Cursor) : Option (String × Cursor) := do
  let (name, after) ← name? c.next
  if isGap after.here || "?:,]\x7d%@\x60".toList.contains after.here then return (name, after)
  else none

def number? (c : Cursor) : Option (Nat × Cursor) :=
  match c.span Char.isDigit with
  | ([], _) => none
  | (cs, after) => some (Text.ofDigits 10 (Text.leadingDigits cs).1, after)

/-! ## Tags -/

def isTagChar (c : Char) : Bool :=
  c.isAlphanum || "-;/?:@&=+$,_.!~*'()[]".toList.contains c

/-- The bytes written with percent signs at the start of a text, and the number of characters they
take. -/
def percentBytes : List Char → List UInt8 × Nat
  | '%' :: a :: b :: cs =>
    match Json.hexValue? a, Json.hexValue? b with
    | some high, some low =>
      let (bytes, length) := percentBytes cs
      (UInt8.ofNat (16 * high + low) :: bytes, length + 3)
    | _, _ => ([], 0)
  | _ => ([], 0)

/-- The text of a tag up to the first character that may not stand in it. -/
def tagText? : Nat → Cursor → Option (List Char × Cursor)
  | 0, _ => none
  | fuel + 1, c =>
    if isTagChar c.here then do
      let (cs, after) ← tagText? fuel c.next
      return (c.here :: cs, after)
    else if c.here = '%' then
      match percentBytes c.rest with
      | ([], _) => none
      | (bytes, length) => do
        let s ← String.fromUTF8? ⟨bytes.toArray⟩
        let (cs, after) ← tagText? fuel (c.forward length)
        return (s.toList ++ cs, after)
    else some ([], c)

/-- The text of a tag, at least one character of it. -/
def tagSuffix? (c : Cursor) : Option (String × Cursor) := do
  let (cs, after) ← tagText? (c.rest.length + 1) c
  if cs.isEmpty then none else return (String.ofList cs, after)

/-- A handle: an exclamation mark, or a name between two. -/
def tagHandle? (c : Cursor) : Option (String × Cursor) :=
  if c.here ≠ '!' then none
  else if c.peek 1 = ' ' then some ("!", c.next)
  else
    let (name, after) := c.next.span isNameChar
    if after.here = '!' then some (String.ofList ('!' :: name ++ ['!']), after.next) else none

/-- Whether another exclamation mark stands between the cursor and the next space. -/
def hasHandle (c : Cursor) : Bool :=
  let word := (c.next.span fun x => !isSpaceOrEnd x).1
  word.contains '!'

/-- A tag up to what ends it: a text in angle brackets, an exclamation mark alone, or a handle and a
text. -/
def tagBody? (c : Cursor) : Option (Token × Cursor) :=
  if c.peek 1 = '<' then do
    let (suffix, after) ← tagSuffix? (c.forward 2)
    if after.here = '>' then some (Token.tag none suffix, after.next) else none
  else if isGap (c.peek 1) then some (Token.tag none "!", c.next)
  else do
    let (tagHandle, start) ← if hasHandle c then tagHandle? c else some ("!", c.next)
    let (suffix, after) ← tagSuffix? start
    some (Token.tag (some tagHandle) suffix, after)

/-- A tag, which a space, a line break or the end must follow. -/
def tag? (c : Cursor) : Option (Token × Cursor) := do
  let (token, after) ← tagBody? c
  if isSpaceOrEnd after.here then some (token, after) else none

/-! ## Directives -/

/-- The version that a directive asks for. -/
def version? (c : Cursor) : Option (Token × Cursor) := do
  let (major, dot) ← number? c
  if dot.here ≠ '.' then none
  let (minor, after) ← number? dot.next
  if isSpaceOrEnd after.here then some (Token.version major minor, after) else none

/-- The handle that a directive names and what it stands for. -/
def handle? (c : Cursor) : Option (Token × Cursor) := do
  let (name, space) ← tagHandle? c
  if space.here ≠ ' ' then none
  let (start, after) ← tagSuffix? (space.skip (· == ' '))
  if isSpaceOrEnd after.here then some (Token.handle name start, after) else none

/-- A directive up to the end of what it says. One that is not known may say anything. -/
def directiveBody? (name : String) (c : Cursor) : Option (Token × Cursor) :=
  if name = "YAML" then version? (c.skip (· == ' '))
  else if name = "TAG" then handle? (c.skip (· == ' '))
  else some (Token.reserved, c.skip (!isBreakOrEnd ·))

def directive? (c : Cursor) : Option (Token × Cursor) := do
  let (name, afterName) ← name? c.next
  if isSpaceOrEnd afterName.here then
    let (token, after) ← directiveBody? name afterName
    some (token, ← after.endLine?)
  else none

/-! ## Scalars between quotes -/

/-- The characters that a backslash and one character stand for. -/
def shortEscapes : List (Char × Nat) :=
  [('0', 0), ('a', 7), ('b', 8), ('t', 9), ('\t', 9), ('n', 10), ('v', 11), ('f', 12), ('r', 13),
    ('e', 27), (' ', 32), ('"', 34), ('\\', 92), ('/', 47), ('N', 0x85), ('_', 0xA0),
    ('L', 0x2028), ('P', 0x2029)]

/-- The escapes that give a code point, with the number of their digits. -/
def codeEscapes : List (Char × Nat) := [('x', 2), ('u', 4), ('U', 8)]

/-- The code point of an escape by code point, and the cursor after it. -/
def escapedCode? (c : Cursor) : Option (Nat × Cursor) := do
  let count ← codeEscapes.lookup c.here
  let written := c.next.rest.take count
  if written.length < count then none
  let digits ← written.mapM Json.hexValue?
  return (Text.ofDigits 16 digits, c.next.forward count)

/-- The character with a code point that was read up to a cursor. The two units of one character
written after each other give that character. -/
def codeCharacter (code : Nat) (after : Cursor) : Except Fault (Char × Cursor) :=
  if 0xD800 ≤ code ∧ code < 0xDC00 then
    let (x, rest) := Json.joinUnits code after.rest
    .ok (x, after.forward (after.rest.length - rest.length))
  else if 0xDC00 ≤ code ∧ code < 0xE000 then .ok (Char.ofNat 0xFFFD, after)
  else if code < 0x110000 then .ok (Char.ofNat code, after)
  else if code < Nat.pow 2 31 then .error .noCharacter
  else .error .largeCodePoint

/-- The character of an escape, read after its backslash. -/
def escape (c : Cursor) : Except Fault (Char × Cursor) :=
  match shortEscapes.lookup c.here with
  | some n => .ok (Char.ofNat n, c.next)
  | none => do
    let (code, after) ← required (escapedCode? c)
    codeCharacter code after

/-- The line breaks that follow a break inside a quoted scalar; none at a mark between documents. -/
def quotedBreaks? : Nat → Cursor → Option (List Char × Cursor)
  | 0, _ => none
  | fuel + 1, c =>
    if c.atDocumentMark then none
    else
      let spaced := c.skip fun x => x == ' ' || x == '\t'
      if isBreak spaced.here then do
        let (first, after) := spaced.lineBreak
        let (more, last) ← quotedBreaks? fuel after
        return (first ++ more, last)
      else some ([], spaced)

/-- What a line break and the breaks after it make of the text around them: a single break joins
its lines with a space. -/
def foldBreaks (first more : List Char) : List Char :=
  if first ≠ ['\n'] then first ++ more
  else if more.isEmpty then [' ']
  else more

/-- The rest of a quoted scalar up to the closing quote and the cursor after it. -/
def quotedText (double : Bool) : Nat → Cursor → Except Fault (List Char × Cursor)
  | 0, _ => .error .badDocument
  | fuel + 1, c =>
    let more (cs : List Char) (after : Cursor) : Except Fault (List Char × Cursor) := do
      let (rest, last) ← quotedText double fuel after
      return (cs ++ rest, last)
    if c.here = endMark then .error .badDocument
    else if c.here = (if double then '"' else '\'') then
      if !double && c.peek 1 == '\'' then more ['\''] (c.forward 2) else .ok ([], c.next)
    else if double && c.here == '\\' then
      if isBreak c.next.here then do
        let (breaks, after) ← required (quotedBreaks? (c.rest.length + 1) c.next.lineBreak.2)
        more breaks after
      else do
        let (x, after) ← escape c.next
        more [x] after
    else if isGap c.here then
      let (blanks, after) := c.span fun x => x == ' ' || x == '\t'
      if after.here = endMark then .error .badDocument
      else if isBreak after.here then do
        let (first, following) := after.lineBreak
        let (breaks, last) ← required (quotedBreaks? (c.rest.length + 1) following)
        more (foldBreaks first breaks) last
      else more blanks after
    else more [c.here] c.next

def quoted (double : Bool) (c : Cursor) : Except Fault (Token × Cursor) := do
  let (cs, after) ← quotedText double (c.rest.length + 1) c.next
  return (.scalar (String.ofList cs) false, after)

/-! ## Block scalars -/

/-- What becomes of the breaks at the end of a block scalar. -/
inductive Chomping where
  | strip
  | clip
  | keep
deriving DecidableEq, Repr

def chomping? (c : Char) : Option Chomping :=
  if c = '-' then some .strip else if c = '+' then some .keep else none

/-- The header of a block scalar: chomping and indentation in either order. -/
def blockHeader? (c : Cursor) : Option (Chomping × Option Nat × Cursor) := do
  let (chomping, afterSign) :=
    match chomping? c.here with
    | some chomping => (some chomping, c.next)
    | none => (none, c)
  let (increment, afterDigit) :=
    if afterSign.here.isDigit then (some (afterSign.here.toNat - 48), afterSign.next)
    else (none, afterSign)
  if increment = some 0 then none
  let (chomping, after) :=
    match chomping, increment, chomping? afterDigit.here with
    | none, some _, some late => (some late, afterDigit.next)
    | _, _, _ => (chomping, afterDigit)
  if isSpaceOrEnd after.here then return (chomping.getD .clip, increment, ← after.endLine?)
  else none

/-- The breaks of the empty lines before a block scalar's first line, the greatest column met, and
the cursor after them. -/
def blockIndentation (most : Nat) : Nat → Cursor → List Char × Nat × Cursor
  | 0, c => ([], most, c)
  | fuel + 1, c =>
    if c.here = ' ' then blockIndentation (max most c.next.column) fuel c.next
    else if isBreak c.here then
      let (first, after) := c.lineBreak
      let (more, most, last) := blockIndentation most fuel after
      (first ++ more, most, last)
    else ([], most, c)

def indented (indent : Nat) (c : Cursor) : Cursor :=
  c.forward (min (indent - c.column) (c.rest.takeWhile (· == ' ')).length)

/-- The breaks of the empty lines before a line of a block scalar. -/
def blockBreaks (indent : Nat) : Nat → Cursor → List Char × Cursor
  | 0, c => ([], c)
  | fuel + 1, c =>
    let start := indented indent c
    if isBreak start.here then
      let (first, after) := start.lineBreak
      let (more, last) := blockBreaks indent fuel after
      (first ++ more, last)
    else ([], start)

/-- The lines of a block scalar from a line on, before which stand the given breaks. -/
def blockLines (folded : Bool) (chomping : Chomping) (indent : Nat) (breaks : List Char) :
    Nat → Cursor → List Char × Cursor
  | 0, c => ([], c)
  | fuel + 1, c =>
    let leading := c.here != ' ' && c.here != '\t'
    let (line, atBreak) := c.span (!isBreakOrEnd ·)
    let (lineBreak, afterBreak) := atBreak.lineBreak
    let (more, next) := blockBreaks indent (c.rest.length + 1) afterBreak
    if next.column = indent ∧ next.here ≠ endMark then
      let joined :=
        if folded && lineBreak == ['\n'] && leading && next.here != ' ' && next.here != '\t' then
          if more.isEmpty then [' '] else []
        else lineBreak
      let (rest, last) := blockLines folded chomping indent more fuel next
      (breaks ++ line ++ joined ++ rest, last)
    else
      let ending :=
        match chomping with
        | .strip => []
        | .clip => lineBreak
        | .keep => lineBreak ++ more
      (breaks ++ line ++ ending, next)

/-- A block scalar inside a block of the given indentation, one less than none at the top. -/
def block? (folded : Bool) (indent : Int) (c : Cursor) : Option (Token × Cursor) := do
  let (chomping, increment, start) ← blockHeader? c.next
  let fuel := start.rest.length + 1
  let least : Nat := max 1 (indent + 1).toNat
  let (breaks, column, first) :=
    match increment with
    | none =>
      let (breaks, most, first) := blockIndentation 0 fuel start
      (breaks, max least most, first)
    | some increment =>
      let column := least + increment - 1
      let (breaks, first) := blockBreaks column fuel start
      (breaks, column, first)
  let (text, after) :=
    if first.column = column ∧ first.here ≠ endMark then
      blockLines folded chomping column breaks fuel first
    else (if chomping = .keep then breaks else [], first)
  return (.scalar (String.ofList text) false, after)

/-! ## Plain scalars -/

/-- Whether a plain scalar may begin at the cursor. -/
def startsPlain (flow : Bool) (c : Cursor) : Bool :=
  (!isGap c.here && !"-?:,[]\x7b\x7d#&*!|>'\"%@\x60".toList.contains c.here) ||
    (!isGap (c.peek 1) && (c.here == '-' || (!flow && (c.here == '?' || c.here == ':'))))

/-- Whether a plain scalar's run of characters ends before a character, given the one after it. -/
def endsPlain (flow : Bool) (x after : Char) : Bool :=
  isGap x || (x == ':' && (isGap after || (flow && ",[]\x7b\x7d".toList.contains after))) ||
    (flow && ",?[]\x7b\x7d".toList.contains x)

/-- The characters of a plain scalar up to a space or its end. -/
def plainRun (flow : Bool) : List Char → List Char
  | [] => []
  | x :: xs =>
    if endsPlain flow x (xs.headD endMark) then [] else x :: plainRun flow xs

/-- The breaks of the empty lines inside a plain scalar; none at a mark between documents. -/
def plainBreaks? : Nat → Cursor → Option (List Char × Cursor)
  | 0, c => some ([], c)
  | fuel + 1, c =>
    if c.here = ' ' then plainBreaks? fuel c.next
    else if isBreak c.here then
      let (first, after) := c.lineBreak
      if after.atDocumentMark then none
      else do
        let (more, last) ← plainBreaks? fuel after
        return (first ++ more, last)
    else some ([], c)

/-- What stands between two runs of a plain scalar: its text, the cursor after it, and whether a
line ended. -/
structure PlainGap where
  text : List Char
  after : Cursor
  crossed : Bool

/-- The gap at the cursor; its text is empty where the scalar must end. -/
def plainGap (c : Cursor) : PlainGap :=
  let (blanks, after) := c.span (· == ' ')
  if isBreak after.here then
    let (first, following) := after.lineBreak
    if following.atDocumentMark then ⟨[], following, true⟩
    else
      match plainBreaks? (following.rest.length + 1) following with
      | none => ⟨[], following, true⟩
      | some (more, last) => ⟨foldBreaks first more, last, true⟩
  else ⟨blanks, after, false⟩

/-- A plain scalar: its text, the cursor after it, and whether a line ended in it or after it. -/
def plainText (flow : Bool) (indent : Int) (gap : List Char) :
    Nat → Cursor → List Char × Cursor × Bool
  | 0, c => ([], c, false)
  | fuel + 1, c =>
    if c.here = '#' then ([], c, false)
    else
      match plainRun flow c.rest with
      | [] => ([], c, false)
      | chars =>
        let between := plainGap (c.forward chars.length)
        if between.text.isEmpty || between.after.here == '#' ||
            (!flow && (between.after.column : Int) < indent + 1) then
          (gap ++ chars, between.after, between.crossed)
        else
          let (rest, last, crossed) := plainText flow indent between.text fuel between.after
          (gap ++ chars ++ rest, last, if rest.isEmpty then between.crossed else crossed)

end Token

end Vivarium.Document
