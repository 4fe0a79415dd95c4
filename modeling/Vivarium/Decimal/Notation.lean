import Vivarium.Decimal.Shortest

/-!
# The text of a double

A double is written with the fewest digits that read back. Positional notation is used for
exponents from -4 to 15 and always shows a fraction; otherwise the exponent is written with its
sign and at least two digits.
-/

namespace Vivarium.Decimal

structure Style where
  /-- The least exponent written positionally. -/
  least : Int
  /-- The greatest exponent written positionally. -/
  greatest : Int
  /-- The least number of digits of a written exponent. -/
  exponentDigits : Nat

def plainStyle : Style := ⟨-4, 15, 2⟩

/-- The digits of a number, most significant first. -/
def digitsOf (n : Nat) : List Char := Nat.toDigits 10 n

/-- The digits of a coefficient without the zeros at its end. -/
def significant (n : Nat) : List Char :=
  (((digitsOf n).reverse.dropWhile (· = '0')).reverse)

/-- A list of digits with zeros in front, up to a least length. -/
def padLeft (count : Nat) (digits : List Char) : List Char :=
  List.replicate (count - digits.length) '0' ++ digits

/-- The text of a positive decimal. -/
def Style.render (style : Style) (d : Scientific) : List Char :=
  let all := digitsOf d.coefficient
  let digits := significant d.coefficient
  -- The value is a digit, a point, the other digits, times ten to this power.
  let power : Int := d.exponent + all.length - 1
  if style.least ≤ power ∧ power ≤ style.greatest then
    if power < 0 then
      ['0', '.'] ++ List.replicate (-power - 1).toNat '0' ++ digits
    else
      let whole := digits.take (power.toNat + 1)
      let fraction := digits.drop (power.toNat + 1)
      whole ++ List.replicate (power.toNat + 1 - whole.length) '0' ++ ['.'] ++
        (if fraction.isEmpty then ['0'] else fraction)
  else
    let fraction := digits.drop 1
    digits.take 1 ++ (if fraction.isEmpty then [] else '.' :: fraction) ++
      ['e', if power < 0 then '-' else '+'] ++ padLeft style.exponentDigits (digitsOf power.natAbs)

def text (x : Float) : String :=
  match Parts.ofFloat x with
  | .nan => "nan"
  | .infinite negative => if negative then "-inf" else "inf"
  | .finite negative mantissa exponent =>
    let body :=
      if mantissa = 0 then ['0', '.', '0'] else plainStyle.render (shortest mantissa exponent)
    String.ofList (if negative then '-' :: body else body)

end Vivarium.Decimal
