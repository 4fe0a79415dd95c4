import Vivarium.Value.Number

/-!
# Writing JSON

Values are written on one line (`compact`, `spaced`) or over several lines with two blanks for each
level (`indented`). Texts are escaped down to ASCII, or, for `compact` replies, only where the
format asks for it. Keys of a map are written as texts, a pair as a list, and a value that the
format has no form for as its text. What keeps a value from being written is told apart (`fault?`).
-/

namespace Vivarium.Json

/-- The decisions of a way of writing. -/
structure Style where
  /-- What stands between two items. -/
  comma : String
  /-- What stands between a key and its value. -/
  colon : String
  /-- Whether characters outside ASCII are escaped. -/
  ascii : Bool

/-- Separators with a blank, ASCII only. -/
def spaced : Style := ⟨", ", ": ", true⟩

/-- Separators without a blank, ASCII only. -/
def packed : Style := ⟨",", ":", true⟩

/-- Separators without a blank, characters as they are. -/
def compact : Style := ⟨",", ":", false⟩

/-! ## Texts -/

/-- The four lower-case hexadecimal digits of a unit of sixteen bits. -/
def fourHex (n : Nat) : List Char :=
  let digits := Nat.toDigits 16 n
  List.replicate (4 - digits.length) '0' ++ digits

/-- The escape of a character by number, as one unit of sixteen bits or as a pair. -/
def unitEscape (c : Char) : List Char :=
  let n := c.toNat
  if n < 0x10000 then '\\' :: 'u' :: fourHex n
  else
    let high := 0xD800 + (n - 0x10000) / 0x400
    let low := 0xDC00 + (n - 0x10000) % 0x400
    '\\' :: 'u' :: fourHex high ++ '\\' :: 'u' :: fourHex low

/-- A character inside a written text. -/
def escapeChar (ascii : Bool) (c : Char) : List Char :=
  if c = '"' then ['\\', '"']
  else if c = '\\' then ['\\', '\\']
  else if c = '\n' then ['\\', 'n']
  else if c = '\r' then ['\\', 'r']
  else if c = '\t' then ['\\', 't']
  else if c = Char.ofNat 8 then ['\\', 'b']
  else if c = Char.ofNat 12 then ['\\', 'f']
  else if c.toNat < 32 then unitEscape c
  else if ascii && c.toNat ≥ 127 then unitEscape c
  else [c]

def quote (ascii : Bool) (s : String) : String :=
  String.ofList ('"' :: s.toList.flatMap (escapeChar ascii) ++ ['"'])

/-! ## Values -/

def double (x : Float) : String :=
  match Decimal.Parts.ofFloat x with
  | .nan => "NaN"
  | .infinite negative => if negative then "-Infinity" else "Infinity"
  | .finite .. => Decimal.text x

def keyText : Value → String
  | .text s => s
  | .null => "null"
  | .bool b => if b then "true" else "false"
  | .float x => double x
  | v => v.plain

/-- A value that is neither a list nor a map. -/
def simple (ascii : Bool) : Value → String
  | .null => "null"
  | .bool b => if b then "true" else "false"
  | .int n => toString n
  | .float x => double x
  | v => quote ascii v.plain

mutual

def write (style : Style) : Value → String
  | .list items => "[" ++ style.comma.intercalate (writeItems style items) ++ "]"
  | .pair first second =>
    "[" ++ style.comma.intercalate [write style first, write style second] ++ "]"
  | .map entries => "\x7b" ++ style.comma.intercalate (writeEntries style entries) ++ "\x7d"
  | v => simple style.ascii v

def writeItems (style : Style) : List Value → List String
  | [] => []
  | item :: rest => write style item :: writeItems style rest

/-- The entries of a map, each on one line. -/
def writeEntries (style : Style) : List (Value × Value) → List String
  | [] => []
  | (key, value) :: rest =>
    (quote style.ascii (keyText key) ++ style.colon ++ write style value) ::
      writeEntries style rest

end

/-! ## Over several lines -/

/-- The start of a line at a level. -/
def newline (level : Nat) : String :=
  String.ofList ('\n' :: List.replicate (2 * level) ' ')

/-- Items between brackets, each on a line of its own; without items the brackets stand together. -/
def block (level : Nat) (opening closing : String) (items : List String) : String :=
  if items.isEmpty then opening ++ closing
  else
    opening ++ newline (level + 1) ++ ("," ++ newline (level + 1)).intercalate items ++
      newline level ++ closing

mutual

/-- A value over several lines, the first of them at a level. -/
def indent (level : Nat) : Value → String
  | .list items => block level "[" "]" (indentItems (level + 1) items)
  | .pair first second =>
    block level "[" "]" [indent (level + 1) first, indent (level + 1) second]
  | .map entries => block level "\x7b" "\x7d" (indentEntries (level + 1) entries)
  | v => simple true v

/-- The items of a list over several lines. -/
def indentItems (level : Nat) : List Value → List String
  | [] => []
  | item :: rest => indent level item :: indentItems level rest

/-- The entries of a map over several lines. -/
def indentEntries (level : Nat) : List (Value × Value) → List String
  | [] => []
  | (key, value) :: rest =>
    (quote true (keyText key) ++ ": " ++ indent level value) :: indentEntries level rest

end

/-! ## What cannot be written -/

/-- What keeps a value from being written as a key. -/
def keyFault? : Value → Option Fault
  | .int n => if (Value.int n).isWritable then none else some .unwritable
  | .null | .bool _ | .float _ | .text _ => none
  | key => some (.badJsonKey key.shortKind)

mutual

/-- The first thing that keeps a value from being written: a whole number of too many digits, a value
or a key that the format has no form for, or a value inside itself. -/
def fault? : Value → Option Fault
  | .int n => if (Value.int n).isWritable then none else some .unwritable
  | .null | .bool _ | .float _ | .text _ => none
  | .list items => itemFault? items
  | .pair first second => (fault? first).or (fault? second)
  | .map entries => entryFault? entries
  | .named _ content => fault? content
  | .again _ => some .circular
  | .date d => some (.notJson (Value.date d).shortKind)
  | .moment m => some (.notJson (Value.moment m).shortKind)
  | .bytes content => some (.notJson (Value.bytes content).shortKind)
  | .set members => some (.notJson (Value.set members).shortKind)

/-- The first thing that keeps the items of a list from being written. -/
def itemFault? : List Value → Option Fault
  | [] => none
  | item :: rest => (fault? item).or (itemFault? rest)

/-- The first thing that keeps the entries of a map from being written. -/
def entryFault? : List (Value × Value) → Option Fault
  | [] => none
  | (key, value) :: rest => ((keyFault? key).or (fault? value)).or (entryFault? rest)

end

mutual

/-- Whether a value holds only doubles that are finite: the others have no text in the standard. -/
def isFinite : Value → Bool
  | .float x =>
    match Decimal.Parts.ofFloat x with
    | .finite .. => true
    | _ => false
  | .list items => areFinite items
  | .pair first second => isFinite first && isFinite second
  | .map entries => hasFinite entries
  | _ => true

/-- Whether all items of a list hold only doubles that are finite. -/
def areFinite : List Value → Bool
  | [] => true
  | item :: rest => isFinite item && areFinite rest

/-- Whether all values of a map hold only doubles that are finite. -/
def hasFinite : List (Value × Value) → Bool
  | [] => true
  | (_, value) :: rest => isFinite value && hasFinite rest

end

end Vivarium.Json
