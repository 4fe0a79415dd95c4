import Vivarium.Text.Numeral
import Vivarium.Value.Number

/-!
# Reading JSON

A text is one value with blanks around it. Besides the standard's values the three names for
numbers that are not finite are read. Of two entries with one key the later value counts.

Every function takes the characters that are left and gives back a value and the characters after
it. Texts and the nesting of values are followed with one count of steps, which is never below the
number of characters that are left.
-/

namespace Vivarium.Json

inductive ReadFault where
  /-- The text is no JSON. -/
  | malformed
  /-- A whole number has too many digits. -/
  | longInt (digits : Nat)
  /-- Lists and maps are inside each other too deeply; this is what the innermost one is called. -/
  | tooDeep (collection : String)
deriving DecidableEq, Repr

def skipBlanks (cs : List Char) : List Char :=
  cs.dropWhile fun c => c == ' ' || c == '\t' || c == '\n' || c == '\r'

/-! ## Texts -/

def hexValue? (c : Char) : Option Nat :=
  if c.isDigit then some (c.toNat - 48)
  else if 'a' ≤ c ∧ c ≤ 'f' then some (c.toNat - 87)
  else if 'A' ≤ c ∧ c ≤ 'F' then some (c.toNat - 55)
  else none

/-- The number written with four hexadecimal digits and the characters after them. -/
def readUnit : List Char → Option (Nat × List Char)
  | a :: b :: c :: d :: cs => do
    let digits ← [a, b, c, d].mapM hexValue?
    return (Text.ofDigits 16 digits, cs)
  | _ => none

/-- What a high unit and the characters after it stand for: with a low unit after it one character,
alone the mark for a character that is missing. -/
def joinUnits (high : Nat) (cs : List Char) : Char × List Char :=
  match cs with
  | '\\' :: 'u' :: rest =>
    match readUnit rest with
    | some (low, after) =>
      if 0xDC00 ≤ low ∧ low < 0xE000 then
        (Char.ofNat (0x10000 + (high - 0xD800) * 0x400 + (low - 0xDC00)), after)
      else (Char.ofNat 0xFFFD, cs)
    | none => (Char.ofNat 0xFFFD, cs)
  | _ => (Char.ofNat 0xFFFD, cs)

def readEscape : List Char → Option (Char × List Char)
  | '"' :: cs => some ('"', cs)
  | '\\' :: cs => some ('\\', cs)
  | '/' :: cs => some ('/', cs)
  | 'b' :: cs => some (Char.ofNat 8, cs)
  | 'f' :: cs => some (Char.ofNat 12, cs)
  | 'n' :: cs => some ('\n', cs)
  | 'r' :: cs => some ('\r', cs)
  | 't' :: cs => some ('\t', cs)
  | 'u' :: cs =>
    match readUnit cs with
    | some (n, rest) =>
      if 0xD800 ≤ n ∧ n < 0xDC00 then some (joinUnits n rest)
      else if 0xDC00 ≤ n ∧ n < 0xE000 then some (Char.ofNat 0xFFFD, rest)
      else some (Char.ofNat n, rest)
    | none => none
  | _ => none

/-- The rest of a text after its opening quote; `before` holds what was read, in reverse. -/
def readText (before : List Char) : Nat → List Char → Except ReadFault (String × List Char)
  | 0, _ => .error .malformed
  | _, [] => .error .malformed
  | fuel + 1, c :: cs =>
    if c = '"' then .ok (String.ofList before.reverse, cs)
    else if c = '\\' then
      match readEscape cs with
      | some (d, rest) => readText (d :: before) fuel rest
      | none => .error .malformed
    else if c.toNat < 32 then .error .malformed
    else readText (c :: before) fuel cs

/-! ## Numbers -/

/-- The whole part of a number: a zero alone, or digits that start with another one. -/
def readWholePart : List Char → Option (List Char × List Char)
  | '0' :: cs => some (['0'], cs)
  | cs =>
    match cs.takeWhile Char.isDigit with
    | [] => none
    | digits => some (digits, cs.dropWhile Char.isDigit)

/-- The fraction of a number with its point; empty without a digit after the point. -/
def readFractionPart : List Char → List Char × List Char
  | '.' :: cs =>
    match cs.takeWhile Char.isDigit with
    | [] => ([], '.' :: cs)
    | digits => ('.' :: digits, cs.dropWhile Char.isDigit)
  | cs => ([], cs)

/-- The exponent of a number with its letter; empty without a digit in it. -/
def readExponentPart : List Char → List Char × List Char
  | [] => ([], [])
  | c :: cs =>
    if c = 'e' ∨ c = 'E' then
      let (sign, body) :=
        match cs with
        | '-' :: rest => (['-'], rest)
        | '+' :: rest => (['+'], rest)
        | rest => ([], rest)
      match body.takeWhile Char.isDigit with
      | [] => ([], c :: cs)
      | digits => (c :: sign ++ digits, body.dropWhile Char.isDigit)
    else ([], c :: cs)

def readNumber (negative : Bool) (cs : List Char) : Except ReadFault (Value × List Char) :=
  match readWholePart cs with
  | none => .error .malformed
  | some (whole, afterWhole) =>
    let (fraction, afterFraction) := readFractionPart afterWhole
    let (exponent, rest) := readExponentPart afterFraction
    if fraction.isEmpty && exponent.isEmpty then
      if whole.length > Text.digitLimit then .error (.longInt whole.length)
      else
        let n : Int := Text.ofDigits 10 (Text.leadingDigits whole).1
        .ok (.int (if negative then -n else n), rest)
    else
      let sign := if negative then ['-'] else []
      match Text.readPlainFloat? (sign ++ whole ++ fraction ++ exponent) with
      | some x => .ok (.float x, rest)
      | none => .error .malformed

/-! ## Values -/

def names : List (String × Value) :=
  [("null", .null), ("true", .bool true), ("false", .bool false),
    ("NaN", .float Decimal.notANumber), ("Infinity", .float Decimal.infinity),
    ("-Infinity", .float (-Decimal.infinity))]

/-- The characters after a word, if the text starts with it. -/
def dropWord : List Char → List Char → Option (List Char)
  | [], cs => some cs
  | _ :: _, [] => none
  | w :: ws, c :: cs => if w = c then dropWord ws cs else none

def readName (cs : List Char) : Option (Value × List Char) :=
  names.findSome? fun (name, value) => (dropWord name.toList cs).map fun rest => (value, rest)

/-- A value that is neither a list nor a map. -/
def readScalar (fuel : Nat) (cs : List Char) : Except ReadFault (Value × List Char) :=
  match readName cs with
  | some found => .ok found
  | none =>
    match cs with
    | '"' :: rest => do
      let (s, after) ← readText [] fuel rest
      return (.text s, after)
    | '-' :: rest => readNumber true rest
    | _ => readNumber false cs

mutual

/-- A value that may hold lists and maps down to a depth. -/
def readValue (depth : Nat) : Nat → List Char → Except ReadFault (Value × List Char)
  | 0, _ => .error .malformed
  | fuel + 1, cs =>
    match cs, depth with
    | '[' :: _, 0 => .error (.tooDeep "array")
    | '\x7b' :: _, 0 => .error (.tooDeep "object")
    | '[' :: rest, depth + 1 =>
      match skipBlanks rest with
      | ']' :: after => .ok (.list [], after)
      | first => readItems depth [] fuel first
    | '\x7b' :: rest, depth + 1 =>
      match skipBlanks rest with
      | '\x7d' :: after => .ok (.map [], after)
      | first => readEntries depth [] fuel first
    | _, _ => readScalar (fuel + 1) cs
termination_by structural fuel => fuel

/-- The items of a list up to its closing bracket, after those in `before`, in reverse. -/
def readItems (depth : Nat) (before : List Value) :
    Nat → List Char → Except ReadFault (Value × List Char)
  | 0, _ => .error .malformed
  | fuel + 1, cs => do
    let (item, rest) ← readValue depth fuel cs
    match skipBlanks rest with
    | ',' :: after => readItems depth (item :: before) fuel (skipBlanks after)
    | ']' :: after => return (.list (item :: before).reverse, after)
    | _ => .error .malformed
termination_by structural fuel => fuel

/-- The entries of a map up to its closing brace, after those in `before`. -/
def readEntries (depth : Nat) (before : List (Value × Value)) :
    Nat → List Char → Except ReadFault (Value × List Char)
  | 0, _ => .error .malformed
  | fuel + 1, cs =>
    match cs with
    | '"' :: body => do
      let (key, afterKey) ← readText [] (fuel + 1) body
      match skipBlanks afterKey with
      | ':' :: start =>
        let (value, rest) ← readValue depth fuel (skipBlanks start)
        let entries := Value.insertEntry (.text key) value before
        match skipBlanks rest with
        | ',' :: after => readEntries depth entries fuel (skipBlanks after)
        | '\x7d' :: after => return (.map entries, after)
        | _ => .error .malformed
      | _ => .error .malformed
    | _ => .error .malformed
termination_by structural fuel => fuel

end

/-- How deep lists and maps may be inside each other in a message. -/
def depthLimit : Nat := 965

/-- Reads a text that is one value, with lists and maps inside each other down to a depth. -/
def readWithin (depth : Nat) (s : String) : Except ReadFault Value :=
  let cs := s.toList
  match readValue depth (2 * cs.length + 2) (skipBlanks cs) with
  | .error fault => .error fault
  | .ok (value, rest) => if (skipBlanks rest).isEmpty then .ok value else .error .malformed

def read (s : String) : Except ReadFault Value := readWithin depthLimit s

end Vivarium.Json
