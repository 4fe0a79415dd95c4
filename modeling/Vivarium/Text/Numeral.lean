import Vivarium.Decimal.Binary
import Vivarium.Text.Blank
import Vivarium.Text.Digit

/-!
# Numbers written in text

A whole number is an optional sign and decimal digits of any script, with single underscores
between digits, or of another base; a fractional number adds a point, an exponent, and names for
infinity and for the value that is not a number. Blanks around a number are dropped.
-/

namespace Vivarium.Text

/-- Why a text is not a whole number. -/
inductive NumeralFault where
  /-- The text has another form. -/
  | malformed
  /-- The number has more digits than are read. -/
  | tooLong (digits : Nat)
deriving DecidableEq, Repr

/-- The most digits a whole number may be written with. -/
def digitLimit : Nat := 4300

/-- The blanks that may stand around a number: of the ASCII characters, only the space and the five
layout controls. -/
def isNumeralBlank (c : Char) : Bool :=
  if c.toNat < 128 then (9 ≤ c.toNat && c.toNat ≤ 13) || c == ' ' else isBlank c

/-- A text without the blanks around a number. -/
def trimNumeral (cs : List Char) : List Char :=
  ((cs.dropWhile isNumeralBlank).reverse.dropWhile isNumeralBlank).reverse

/-- Splits a sign off: whether it is a minus, and the rest. -/
def takeSign : List Char → Bool × List Char
  | '-' :: cs => (true, cs)
  | '+' :: cs => (false, cs)
  | cs => (false, cs)

/-- The digits at the start of a text and the rest. An underscore must stand between two digits;
`gap` says that a digit must come next. -/
def groupedDigits (digit? : Char → Option Nat) (gap : Bool) :
    List Char → Option (List Nat × List Char)
  | [] => if gap then none else some ([], [])
  | c :: cs =>
    match digit? c with
    | some d => (groupedDigits digit? false cs).map fun (ds, rest) => (d :: ds, rest)
    | none =>
      if gap then none
      else if c = '_' then groupedDigits digit? true cs
      else some ([], c :: cs)

def ofDigits (base : Nat) (digits : List Nat) : Nat :=
  digits.foldl (fun n d => base * n + d) 0

/-- Reads a whole number. -/
def readInt (cs : List Char) : Except NumeralFault Int :=
  let (negative, body) := takeSign (trimNumeral cs)
  match groupedDigits digitValue? true body with
  | none => .error .malformed
  | some (digits, rest) =>
    if digits.length > digitLimit then .error (.tooLong digits.length)
    else if !rest.isEmpty then .error .malformed
    else
      let n : Int := ofDigits 10 digits
      .ok (if negative then -n else n)

/-! ## Other bases -/

/-- The value of a digit in a base: of any script up to nine, and then of the letters. -/
def digitIn? (base : Nat) (c : Char) : Option Nat :=
  let value := (digitValue? c).orElse fun _ =>
    if c.isAlpha then some (c.toLower.toNat - 87) else none
  value.filter (· < base)

/-- The letter that, after a zero, may tell the base of a number. -/
def baseLetter? (base : Nat) : Option Char :=
  if base = 2 then some 'b' else if base = 8 then some 'o' else if base = 16 then some 'x' else none

/-- A number without a mark of its base before the digits. An underscore may follow the mark. -/
def dropBaseMark (base : Nat) : List Char → List Char
  | zero :: letter :: cs =>
    if digitValue? zero = some 0 ∧ some letter.toLower = baseLetter? base then
      match cs with
      | '_' :: digits => digits
      | digits => digits
    else zero :: letter :: cs
  | cs => cs

/-- Reads a whole number in a base of two, eight or sixteen, of any length. -/
def readIntIn? (base : Nat) (cs : List Char) : Option Int :=
  let (negative, body) := takeSign (trimNumeral cs)
  match groupedDigits (digitIn? base) true (dropBaseMark base body) with
  | some (digits, []) =>
    let n : Int := ofDigits base digits
    some (if negative then -n else n)
  | _ => none

/-! ## Fractional numbers -/

/-- A text with every decimal digit written in ASCII and no underscores, if each underscore stands
between two digits. `afterDigit` says that a digit came before. -/
def plainDigits (afterDigit : Bool) : List Char → Option (List Char)
  | [] => some []
  | '_' :: c :: cs =>
    match afterDigit, digitValue? c with
    | true, some d => (plainDigits true cs).map (Char.ofNat (48 + d) :: ·)
    | _, _ => none
  | ['_'] => none
  | c :: cs =>
    match digitValue? c with
    | some d => (plainDigits true cs).map (Char.ofNat (48 + d) :: ·)
    | none => (plainDigits false cs).map (c :: ·)

/-- The ASCII digits at the start of a text and the rest. -/
def leadingDigits (cs : List Char) : List Nat × List Char :=
  ((cs.takeWhile Char.isDigit).map fun c => c.toNat - 48, cs.dropWhile Char.isDigit)

/-- The double nearest to `coefficient · 10 ^ exponent`, where `digits` digits were written. Far
outside the range of doubles the answer needs no power of ten. -/
def scaledDouble (negative : Bool) (coefficient digits : Nat) (exponent : Int) : Float :=
  if coefficient == 0 || exponent + digits < -400 then Decimal.nearest negative ⟨0, 1⟩
  else if exponent > 400 then if negative then -Decimal.infinity else Decimal.infinity
  else Decimal.nearest negative (Decimal.Fraction.decimal coefficient exponent)

/-- The exponent part of a number: nothing, or a letter, an optional sign and digits. -/
def readExponent? : List Char → Option Int
  | [] => some 0
  | c :: cs =>
    if c = 'e' ∨ c = 'E' then
      let (negative, body) := takeSign cs
      match leadingDigits body with
      | (d :: ds, []) =>
        let n : Int := ofDigits 10 (d :: ds)
        some (if negative then -n else n)
      | _ => none
    else none

/-- Reads a number without blanks around it and without underscores. -/
def readPlainFloat? (cs : List Char) : Option Float :=
  let (negative, body) := takeSign cs
  let name := String.ofList (body.map Char.toLower)
  if name == "inf" || name == "infinity" then
    some (if negative then -Decimal.infinity else Decimal.infinity)
  else if name == "nan" then some Decimal.notANumber
  else
    let (whole, afterWhole) := leadingDigits body
    let (fraction, afterFraction) :=
      match afterWhole with
      | '.' :: rest => leadingDigits rest
      | rest => ([], rest)
    if whole.isEmpty && fraction.isEmpty then none
    else
      (readExponent? afterFraction).map fun exponent =>
        let digits := whole ++ fraction
        scaledDouble negative (ofDigits 10 digits) digits.length (exponent - fraction.length)

/-- Reads a fractional number. -/
def readFloat? (cs : List Char) : Option Float :=
  (plainDigits false (trimNumeral cs)).bind readPlainFloat?

end Vivarium.Text
