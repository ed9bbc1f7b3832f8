import ByteScan.Decimal.Binary
import ByteScan.Text.Numeral

/-!
# Numbers with a fixed count of places

A number is rounded to so many places behind the point; a number in the middle goes to the even
last digit.
-/

namespace ByteScan.Decimal

/-- A quotient with the given count of places behind the point. -/
def fixed (places num den : Nat) : List Char :=
  let digits := Numeral.zeroFilled (places + 1)
    (Numeral.decimal (roundDiv (num * Nat.pow 10 places) den))
  digits.take (digits.length - places) ++ '.' :: digits.drop (digits.length - places)

/-- A number with the given count of places behind the point. -/
def Binary.fixed (places : Nat) (b : Binary) : List Char := Decimal.fixed places b.num b.den

end ByteScan.Decimal
