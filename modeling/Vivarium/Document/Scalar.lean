import Vivarium.Document.Node.Basic
import Vivarium.Document.Timestamp
import Vivarium.Text.Base64
import Vivarium.Text.Lines
import Vivarium.Text.Lowercase

/-!
# What a scalar stands for

A scalar without quotes and without a tag is what its text looks like: nothing, a truth value, a
whole number in one of five notations, a fractional number in one of five, a time, or else a text
(`tagOf`). What is made of a text under a tag is more general: the form need not fit, and then
there is a fault, or another form is read.
-/

namespace Vivarium.Document.Scalar

/-! ## Words -/

/-- The words that stand for nothing; so does a text without characters. -/
def nullWords : List String := ["~", "null", "Null", "NULL"]

/-- The words that stand for a truth value, in small letters. -/
def boolWords : List (String × Bool) :=
  [("yes", true), ("no", false), ("true", true), ("false", false), ("on", true), ("off", false)]

/-- The forms of a word that count: in small letters, with a capital first, and in capitals. -/
def forms (word : String) : List String := [word, word.capitalize, word.toUpper]

def isBool (text : String) : Bool := boolWords.any fun entry => (forms entry.1).contains text

/-! ## Forms of numbers -/

def isDigitMark (c : Char) : Bool := c.isDigit || c == '_'

def isRun (p : Char → Bool) (cs : List Char) : Bool := !cs.isEmpty && cs.all p

/-- The pieces of a text between colons. -/
def byColon : List Char → List (List Char)
  | [] => [[]]
  | ':' :: cs => [] :: byColon cs
  | c :: cs =>
    match byColon cs with
    | [] => [[c]]
    | p :: ps => (c :: p) :: ps

/-- Whether a text is a number below sixty in one or two digits. -/
def isSixtieth : List Char → Bool
  | [a] => a.isDigit
  | [a, b] => '0' ≤ a && a ≤ '5' && b.isDigit
  | _ => false

/-- A text without its sign, if it has one. -/
def unsigned : List Char → List Char
  | '-' :: cs => cs
  | '+' :: cs => cs
  | cs => cs

/-- Whether a text starts with a digit other than zero, and is otherwise digits and underscores. -/
def isDecimal : List Char → Bool
  | [] => false
  | c :: cs => '1' ≤ c && c ≤ '9' && cs.all isDigitMark

/-- Whether a text starts with a digit and is otherwise digits and underscores. -/
def isDigits : List Char → Bool
  | [] => false
  | c :: cs => c.isDigit && cs.all isDigitMark

/-- Whether a text has the form of a whole number: binary, octal, hexadecimal, decimal, or to the
base sixty. -/
def isInt (cs : List Char) : Bool :=
  match unsigned cs with
  | ['0'] => true
  | '0' :: 'b' :: rest => isRun (fun c => c == '0' || c == '1' || c == '_') rest
  | '0' :: 'x' :: rest =>
    isRun (fun c => c.isDigit || ('a' ≤ c && c ≤ 'f') || ('A' ≤ c && c ≤ 'F') || c == '_') rest
  | '0' :: rest => isRun (fun c => ('0' ≤ c && c ≤ '7') || c == '_') rest
  | body =>
    match byColon body with
    | [] => false
    | first :: rest => isDecimal first && rest.all isSixtieth

/-- Whether a text is an exponent with its sign, or empty. -/
def isExponent : List Char → Bool
  | [] => true
  | e :: sign :: digits =>
    (e == 'e' || e == 'E') && (sign == '-' || sign == '+') && isRun Char.isDigit digits
  | _ => false

/-- Whether a text has the form of a fractional number that starts with a digit. -/
def isPointed (cs : List Char) : Bool :=
  match byColon (cs.takeWhile (· ≠ '.')), cs.dropWhile (· ≠ '.') with
  | first :: sixtieths, '.' :: rest =>
    let exponent := rest.dropWhile isDigitMark
    isDigits first && sixtieths.all isSixtieth &&
      (if sixtieths.isEmpty then isExponent exponent else exponent.isEmpty)
  | _, _ => false

/-- Whether a text has the form of a fractional number: with a whole part, without one, to the base
sixty, infinite, or not a number. -/
def isFloat (cs : List Char) : Bool :=
  isPointed (unsigned cs) ||
    [".inf", ".Inf", ".INF"].contains (String.ofList (unsigned cs)) ||
    [".nan", ".NaN", ".NAN"].contains (String.ofList cs) ||
    match cs with
    | '.' :: rest =>
      isDigits (rest.takeWhile isDigitMark) && isExponent (rest.dropWhile isDigitMark)
    | _ => false

/-! ## Values of numbers -/

/-- The whole number that decimal digits give. -/
def decimal (cs : List Char) : Except Fault Int :=
  match Text.readInt cs with
  | .ok n => .ok n
  | .error .malformed => .error (.badInt 10 (String.ofList cs))
  | .error (.tooLong digits) => .error (.longInt digits)

/-- The whole number that digits of another base give. -/
def inBase (base : Nat) (cs : List Char) : Except Fault Int :=
  (Text.readIntIn? base cs).elim (.error (.badInt base (String.ofList cs))) .ok

/-- The whole number of an unsigned text without underscores. -/
def magnitude : List Char → Except Fault Int
  | [] => .error .emptyNumber
  | ['0'] => .ok 0
  | '0' :: 'b' :: rest => inBase 2 rest
  | '0' :: 'x' :: rest => inBase 16 rest
  | '0' :: rest => inBase 8 ('0' :: rest)
  | body => do
    let parts ← (byColon body).mapM decimal
    return parts.foldl (fun n part => 60 * n + part) 0

/-- Whether a text starts with a minus. -/
def isNegative : List Char → Bool
  | '-' :: _ => true
  | _ => false

/-- The whole number of a text. -/
def toInt (cs : List Char) : Except Fault Value := do
  let written := cs.filter (· ≠ '_')
  let n ← magnitude (unsigned written)
  return .int (if isNegative written then -n else n)

/-- The sum of numbers after one that was made already, each sixty times as heavy as the one before
it; the first of them has the given weight. -/
def sixtySum (weight : Nat) (sum : Float) : List Float → Except Fault Float
  | [] => .ok sum
  | x :: xs => do
    let factor ← Number.toDouble (.whole weight)
    sixtySum (60 * weight) (sum + x * factor) xs

/-- The fractional number that a piece of a text gives. -/
def fraction (cs : List Char) : Except Fault Float :=
  (Text.readFloat? cs).elim (.error (.badFloat (String.ofList cs))) .ok

/-- The size of a fractional number, of an unsigned text in small letters. -/
def size (body : List Char) : Except Fault Float :=
  if body = ".inf".toList then .ok Decimal.infinity
  else if body = ".nan".toList then .ok Decimal.notANumber
  else
    match byColon body with
    | [part] => fraction part
    | parts => do
      let sizes ← parts.mapM fraction
      sixtySum 1 (Decimal.nearest false ⟨0, 1⟩) sizes.reverse

def toFloat (cs : List Char) : Except Fault Value :=
  let written := Text.lower (cs.filter (· ≠ '_'))
  if written.isEmpty then .error .emptyNumber
  else (size (unsigned written)).map fun x => .float (if isNegative written then -x else x)

/-! ## Other values -/

def toBool (cs : List Char) : Except Fault Value :=
  let word := String.ofList (Text.lower cs)
  match boolWords.lookup word with
  | some b => .ok (.bool b)
  | none => .error (.notTruth word)

def toTime (cs : List Char) : Except Fault Value :=
  match Timestamp.read? (Text.dropBreak cs) with
  | some written => written.toValue
  | none => .error .notTime

/-- The bytes of a text, which must be of ASCII characters. -/
def toBytes (cs : List Char) : Except Fault Value :=
  match (if cs.all fun c => c.toNat < 128 then Text.Base64.decode? cs else none) with
  | some content => .ok (.bytes content)
  | none => .error .badDocument

/-! ## Resolution -/

def mergeKey : String := "<<"

/-- The mark for the key whose value a map stands for. -/
def equalsKey : String := "="

/-- The signs that no plain text can start with and that stand for nothing known. -/
def signs : List String := ["!", "&", "*"]

/-- Whether a text without quotes is a time. -/
def isTime (cs : List Char) : Bool := (Timestamp.read? cs).any Timestamp.Written.isPlain

/-- What a text that does not start with a line break looks like; one at its end does not count. -/
def tagOfLine (cs : List Char) : Tag :=
  let text := String.ofList cs
  if isBool text then .bool
  else if isFloat cs then .float
  else if isInt cs then .int
  else if text = mergeKey then .merge
  else if text ∈ nullWords then .null
  else if isTime cs then .timestamp
  else if text = equalsKey then .equals
  else if text ∈ signs then .unknown
  else .text

/-- What a text looks like. -/
def tagOf (text : String) : Tag :=
  match text.toList with
  | [] => .null
  | '\n' :: _ => .text
  | cs => tagOfLine (Text.dropBreak cs)

end Vivarium.Document.Scalar
