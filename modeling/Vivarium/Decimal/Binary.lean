/-!
# Doubles as exact numbers

A double is taken apart into a sign, a whole mantissa and a power of two (`Parts`), and an exact
fraction is rounded to the nearest double, a tie going to the even mantissa (`nearest`). All other
reading, printing and comparing of doubles is exact whole-number arithmetic on these.
-/

namespace Vivarium.Decimal

/-- What a double stands for. A finite one is `± mantissa · 2 ^ exponent`. -/
inductive Parts where
  | nan
  | infinite (negative : Bool)
  | finite (negative : Bool) (mantissa : Nat) (exponent : Int)
deriving DecidableEq, Repr

/-- The parts of a double, read from its bits. -/
def Parts.ofFloat (x : Float) : Parts :=
  let bits := x.toBits.toNat
  let negative := bits / Nat.pow 2 63 == 1
  let biased : Nat := bits / Nat.pow 2 52 % 2048
  let fraction : Nat := bits % Nat.pow 2 52
  if biased == 2047 then
    if fraction == 0 then .infinite negative else .nan
  else if biased == 0 then .finite negative fraction (-1074)
  else .finite negative (fraction + Nat.pow 2 52) ((biased : Int) - 1075)

/-- A non-negative fraction. -/
structure Fraction where
  num : Nat
  den : Nat
deriving DecidableEq, Repr

def Fraction.scaled (n : Nat) (e : Int) : Fraction :=
  ⟨n * Nat.pow 2 e.toNat, Nat.pow 2 (-e).toNat⟩

def Fraction.decimal (n : Nat) (e : Int) : Fraction :=
  ⟨n * Nat.pow 10 e.toNat, Nat.pow 10 (-e).toNat⟩

/-- The whole number nearest to `num / den`; a tie goes to the even one. -/
def roundDiv (num den : Nat) : Nat :=
  let quotient := num / den
  let twice := 2 * (num % den)
  if twice > den || (twice == den && quotient % 2 == 1) then quotient + 1 else quotient

/-- The bits of the non-negative double nearest to a fraction. The mantissa is rounded at the
exponent that gives it 53 bits, or at the least exponent there is; a mantissa that rounds up to
the next power of two carries into the exponent, and past the last exponent lies infinity. -/
def nearestBits (f : Fraction) : Nat :=
  if f.num == 0 then 0
  else
    let guess : Int := (f.num.log2 : Int) - f.den.log2 - 52
    let wide := f.num * Nat.pow 2 (-guess).toNat < f.den * Nat.pow 2 guess.toNat * Nat.pow 2 52
    let exponent := max (if wide then guess - 1 else guess) (-1074)
    let mantissa := roundDiv (f.num * Nat.pow 2 (-exponent).toNat) (f.den * Nat.pow 2 exponent.toNat)
    min ((exponent + 1074).toNat * Nat.pow 2 52 + mantissa) (2047 * Nat.pow 2 52)

def nearest (negative : Bool) (f : Fraction) : Float :=
  Float.ofBits (UInt64.ofNat (nearestBits f + if negative then Nat.pow 2 63 else 0))

/-- The double nearest to a whole number, if it is not past the largest double. -/
def ofInt? (n : Int) : Option Float :=
  if nearestBits ⟨n.natAbs, 1⟩ < 2047 * Nat.pow 2 52 then some (nearest (n < 0) ⟨n.natAbs, 1⟩)
  else none

def infinity : Float := Float.ofBits (UInt64.ofNat (2047 * Nat.pow 2 52))

def notANumber : Float := Float.ofBits (UInt64.ofNat (2047 * Nat.pow 2 52 + Nat.pow 2 51))

/-- The whole part of a finite double: the fraction is dropped. -/
def truncate? (x : Float) : Option Int :=
  match Parts.ofFloat x with
  | .finite negative mantissa exponent =>
    let f := Fraction.scaled mantissa exponent
    let whole : Int := f.num / f.den
    some (if negative then -whole else whole)
  | _ => none

end Vivarium.Decimal
