/-!
# Binary fractions

Numbers as a machine keeps them: 53 binary digits at some power of two. Only numbers from 0 on
occur, and none that is too large or too small for the range of exponents of a double. A quotient
is rounded to the nearest such number, and a quotient in the middle between two of them to the one
with the even last digit; every operation is exact arithmetic followed by one rounding.
-/

namespace ByteScan.Decimal

/-- The natural number nearest to a quotient; the even one of two that are equally near. -/
def roundDiv (num den : Nat) : Nat :=
  let below := num / den
  let twice := 2 * (num % den)
  if twice < den then below
  else if den < twice then below + 1
  else below + below % 2

/-- The number `mantissa * 2 ^ exponent`. -/
structure Binary where
  /-- The binary digits: 53 of them, or none for zero. -/
  mantissa : Nat
  /-- The power of two of the last digit. -/
  exponent : Int
  deriving DecidableEq, Repr

namespace Binary

/-- Zero. -/
def zero : Binary := ⟨0, 0⟩

/-- The numerator of a number, over the denominator that goes with it. -/
def num (b : Binary) : Nat := b.mantissa <<< b.exponent.toNat

/-- The denominator of a number. -/
def den (b : Binary) : Nat := 1 <<< (-b.exponent).toNat

/-- The number whose last digit is at the given power of two and that is nearest to a quotient. A
quotient that is rounded up to a power of two has its last digit one power higher. -/
def roundAt (exponent : Int) (num den : Nat) : Binary :=
  let mantissa := roundDiv (num <<< (-exponent).toNat) (den <<< exponent.toNat)
  if mantissa = 1 <<< 53 then ⟨1 <<< 52, exponent + 1⟩ else ⟨mantissa, exponent⟩

/-- The number nearest to a quotient. The first digit of the quotient is at the power of two given
by the lengths of both numbers, or one below. -/
def ofQuotient (num den : Nat) : Binary :=
  if num = 0 then zero
  else
    let first : Int := (num.log2 : Int) - den.log2
    let isBelow := num <<< (-first).toNat < den <<< first.toNat
    roundAt (if isBelow then first - 53 else first - 52) num den

/-- The number nearest to a natural number. -/
def ofNat (n : Nat) : Binary := ofQuotient n 1

/-- The number nearest to a sum. -/
def add (a b : Binary) : Binary := ofQuotient (a.num * b.den + b.num * a.den) (a.den * b.den)

/-- The number nearest to a product. -/
def mul (a b : Binary) : Binary := ofQuotient (a.num * b.num) (a.den * b.den)

end Binary

end ByteScan.Decimal
