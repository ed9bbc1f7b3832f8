/-!
# Numerals

Reading and writing natural numbers in a base up to 16. A numeral is read digit by digit, letters
in either case; an unsigned word may carry one plus sign and must fit into 64 bits.
-/

namespace ByteScan.Numeral

/-- The value of a hexadecimal digit of either case. -/
def hexDigit? (c : Char) : Option Nat :=
  if '0' ≤ c ∧ c ≤ '9' then some (c.toNat - '0'.toNat)
  else if 'a' ≤ c ∧ c ≤ 'f' then some (c.toNat - 'a'.toNat + 10)
  else if 'A' ≤ c ∧ c ≤ 'F' then some (c.toNat - 'A'.toNat + 10)
  else none

/-- The value of a digit in the given base. -/
def digit? (base : Nat) (c : Char) : Option Nat :=
  (hexDigit? c).filter (· < base)

/-- The value of a run of digits that continues the digits of value `n`. -/
def continue? (base : Nat) (n : Nat) : List Char → Option Nat
  | [] => some n
  | c :: cs => (digit? base c).bind fun d => continue? base (n * base + d) cs

/-- The value of a numeral: one digit or more, and nothing else. -/
def natural? (base : Nat) (cs : List Char) : Option Nat :=
  if cs.isEmpty then none else continue? base 0 cs

/-- The value of the numeral of a word, which a plus sign may precede. -/
def word? (base : Nat) (cs : List Char) : Option UInt64 :=
  let digits := match cs with
    | '+' :: rest => rest
    | _ => cs
  (natural? base digits).bind fun n =>
    if n < UInt64.size then some (UInt64.ofNat n) else none

/-- The decimal numeral of a number. -/
def decimal (n : Nat) : List Char := Nat.toDigits 10 n

/-- The hexadecimal numeral of a number, with small letters. -/
def hex (n : Nat) : List Char := Nat.toDigits 16 n

/-- The hexadecimal numeral of a number, with capital letters. -/
def hexUpper (n : Nat) : List Char := (hex n).map Char.toUpper

/-- A numeral filled up with leading zeros to at least the given width. -/
def zeroFilled (width : Nat) (digits : List Char) : List Char :=
  List.replicate (width - digits.length) '0' ++ digits

end ByteScan.Numeral
