import ByteScan.Decimal.Fixed

/-!
# Quantities in words

Counts with their noun, and amounts of bytes in the largest unit of 1024 bytes, 1024 units and so
on that they fill. An amount is kept in 53 binary digits before it is divided.
-/

namespace ByteScan.Text

/-- A count with its noun. -/
def counted (count : Nat) (one many : String) : String :=
  let noun := if count = 1 then one else many
  s!"{count} {noun}"

/-- The bytes of a KB. -/
def kilo : Nat := 1024

/-- The bytes of an MB. -/
def mega : Nat := 1024 * kilo

/-- The bytes of a GB. -/
def giga : Nat := 1024 * mega

/-- An amount of bytes. -/
def byteAmount (bytes : Nat) : String :=
  let inUnits (size : Nat) (name : String) : String :=
    let kept := Decimal.Binary.ofNat bytes
    String.ofList (Decimal.fixed 2 kept.num (kept.den * size)) ++ name
  if giga ≤ bytes then inUnits giga " GB"
  else if mega ≤ bytes then inUnits mega " MB"
  else if kilo ≤ bytes then inUnits kilo " KB"
  else s!"{bytes} bytes"

end ByteScan.Text
