import ByteScan.Decimal.Binary
import ByteScan.Text.Numeral

/-!
# The shortest decimal of a number

A number stands for all quotients that round to it. Its shortest decimal is the one with the fewest
digits among these quotients, and the nearest to the number of those. For each count of digits
there are two decimals next to the number, one below and one above it; if any decimal with that
count rounds to the number, one of these two does.
-/

namespace ByteScan.Decimal

/-- The decimal `digits * 10 ^ power`. -/
structure Number where
  /-- The digits. -/
  digits : Nat
  /-- The power of ten of the last digit. -/
  power : Int
  deriving DecidableEq, Repr

namespace Binary

/-- Whether a decimal rounds to a number. A number in the middle between two binary fractions rounds
to the even one; below a power of two the binary fractions are half as far apart. -/
def isRoundedFrom (b : Binary) (d : Number) : Bool :=
  let below := if b.mantissa = 1 <<< 52 then 1 else 2
  -- four times the digits of the decimal and of the ends of the range, over one denominator
  let scaled := 4 * (d.digits * Nat.pow 10 d.power.toNat) * b.den
  let unit := Nat.pow 10 (-d.power).toNat <<< b.exponent.toNat
  let low := (4 * b.mantissa - below) * unit
  let high := (4 * b.mantissa + 2) * unit
  if b.mantissa % 2 = 0 then low ≤ scaled && scaled ≤ high else low < scaled && scaled < high

/-- The power of ten of the first decimal digit of a number. -/
def firstPower (b : Binary) : Int :=
  let whole := b.num / b.den
  if 0 < whole then (Numeral.decimal whole).length - 1
  else
    match (List.range 400).find? fun k => b.den ≤ b.num * Nat.pow 10 (k + 1) with
    | some k => -(k + 1 : Int)
    | none => 0

/-- The decimals with the given count of digits that stand next to a number, below and above, the
nearer one first, and the even one of two that are equally near. -/
def neighbours (b : Binary) (count : Nat) : List Number :=
  let power := b.firstPower - ((count : Int) - 1)
  let num := b.num * Nat.pow 10 (-power).toNat
  let den := b.den * Nat.pow 10 power.toNat
  let below : Number := ⟨num / den, power⟩
  let above : Number := ⟨num / den + 1, power⟩
  if roundDiv num den = num / den then [below, above] else [above, below]

/-- The shortest decimal of a number. Seventeen digits are always enough. -/
def shortest (b : Binary) : Number :=
  (((List.range 17).flatMap fun k => b.neighbours (k + 1)).find? b.isRoundedFrom).getD ⟨0, 0⟩

end Binary

/-- Where a decimal is written without a power of ten: when its point stands behind more than
`lowest` and at most `highest` digits, counted from the first one. -/
structure Layout where
  /-- Too many zeros in front of the first digit. -/
  lowest : Int
  /-- The most digits before the point. -/
  highest : Int

/-- A decimal with a point and at least one digit on either side of it, or with one digit before the
point and a power of ten, whose sign is always written. -/
def Number.render (layout : Layout) (d : Number) : List Char :=
  let all := Numeral.decimal d.digits
  let digits := (all.reverse.dropWhile (· = '0')).reverse
  let point : Int := all.length + d.power
  if digits.isEmpty then ['0', '.', '0']
  else if layout.lowest < point ∧ point ≤ layout.highest then
    if point ≤ 0 then ['0', '.'] ++ List.replicate (-point).toNat '0' ++ digits
    else if digits.length ≤ point.toNat then
      digits ++ List.replicate (point.toNat - digits.length) '0' ++ ['.', '0']
    else digits.take point.toNat ++ '.' :: digits.drop point.toNat
  else
    let fraction := if digits.length = 1 then [] else '.' :: digits.drop 1
    let sign := if point - 1 < 0 then '-' else '+'
    digits.take 1 ++ fraction ++ ['e', sign] ++ Numeral.decimal (point - 1).natAbs

end ByteScan.Decimal
