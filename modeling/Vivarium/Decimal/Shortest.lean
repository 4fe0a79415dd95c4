import Vivarium.Decimal.Binary

/-!
# The shortest decimal that reads back

Of all decimals that round to a given double the one with the fewest digits is chosen, and of
those the nearest. A decimal of `n` digits lies on a grid, and if any point of the grid rounds to
the double then so does one of the double's two neighbours on it; so the first grid on which a
neighbour does gives the answer, and seventeen digits always do.
-/

namespace Vivarium.Decimal

structure Scientific where
  coefficient : Nat
  exponent : Int
deriving DecidableEq, Repr

/-- The reals that round to a double: from `low` to `high`, in units of `2 ^ exponent`, the ends
included when `closed`. The double itself is `middle`. -/
structure Basin where
  low : Nat
  middle : Nat
  high : Nat
  exponent : Int
  closed : Bool

/-- The reals that round to `mantissa · 2 ^ exponent`. Below a power of two the doubles lie twice as
close. -/
def Basin.ofParts (mantissa : Nat) (exponent : Int) : Basin :=
  let narrow := mantissa == Nat.pow 2 52 && exponent != -1074
  { low := 4 * mantissa - (if narrow then 1 else 2)
    middle := 4 * mantissa
    high := 4 * mantissa + 2
    exponent := exponent - 2
    closed := mantissa % 2 == 0 }

/-- Whether a decimal rounds to the double. -/
def Basin.holds (basin : Basin) (d : Scientific) : Bool :=
  let point := Fraction.decimal d.coefficient d.exponent
  let unit := Fraction.scaled 1 basin.exponent
  let here := point.num * unit.den
  let low := basin.low * unit.num * point.den
  let high := basin.high * unit.num * point.den
  if basin.closed then low ≤ here && here ≤ high else low < here && here < high

/-- The least power of ten above a positive fraction, searched upward from `start`. -/
def leastPowerAbove (f : Fraction) (start : Int) : Nat → Int
  | 0 => start
  | fuel + 1 =>
    if f.num * Nat.pow 10 (-start).toNat < f.den * Nat.pow 10 start.toNat then start
    else leastPowerAbove f (start + 1) fuel

/-- The least `k` such that a positive fraction is below `10 ^ k`. -/
def magnitude (f : Fraction) : Int :=
  let binary : Int := (f.num.log2 : Int) - f.den.log2
  leastPowerAbove f (binary * 30103 / 100000 - 1) 5

/-- The nearer of the double's two neighbours with `count` digits that round to the double, a tie
going to the even one. -/
def neighbour? (basin : Basin) (power : Int) (count : Nat) : Option Scientific :=
  let exponent := power - count
  let value := Fraction.scaled basin.middle basin.exponent
  let num := value.num * Nat.pow 10 (-exponent).toNat
  let den := value.den * Nat.pow 10 exponent.toNat
  let below : Scientific := ⟨num / den, exponent⟩
  let above : Scientific := ⟨num / den + 1, exponent⟩
  let twice := 2 * (num % den)
  let preferAbove := twice > den || (twice == den && below.coefficient % 2 == 1)
  match basin.holds below, basin.holds above with
  | true, true => some (if preferAbove then above else below)
  | true, false => some below
  | false, true => some above
  | false, false => none

/-- The first neighbour found with `count` digits or up to `fuel` digits more. -/
def firstNeighbour (basin : Basin) (power : Int) (count : Nat) : Nat → Scientific
  | 0 => ⟨0, 0⟩
  | fuel + 1 =>
    match neighbour? basin power count with
    | some d => d
    | none => firstNeighbour basin power (count + 1) fuel

/-- The shortest decimal that rounds to the positive double `mantissa · 2 ^ exponent`. -/
def shortest (mantissa : Nat) (exponent : Int) : Scientific :=
  let basin := Basin.ofParts mantissa exponent
  firstNeighbour basin (magnitude (Fraction.scaled basin.middle basin.exponent)) 1 17

end Vivarium.Decimal
