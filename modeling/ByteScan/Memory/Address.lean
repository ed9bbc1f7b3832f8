import ByteScan.Bytes
import ByteScan.Text.Numeral

/-!
# Addresses

Places in the memory of a program. Moving an address and measuring the distance between two of them
is exact or faults.
-/

namespace ByteScan

/-- A place in the memory of a program. -/
structure Address where
  /-- The number of the place. -/
  value : UInt64
  deriving DecidableEq, Repr

namespace Address

/-- The address so many bytes on. -/
def add (a : Address) (n : UInt64) : Except Fault Address := return ⟨← Word.add a.value n⟩

/-- How many bytes an address is behind another. -/
def sub (a b : Address) : Except Fault UInt64 := Word.sub a.value b.value

/-- Whether an address is at or behind `start` and before `stop`. -/
def isWithin (a start stop : Address) : Bool := start.value ≤ a.value && a.value < stop.value

/-- Addresses come in the order of their numbers. -/
instance : Ord Address := ⟨fun a b => compare a.value b.value⟩

/-- An address in all its 16 digits. -/
def render (a : Address) : String :=
  String.ofList ('0' :: 'x' :: Numeral.zeroFilled 16 (Numeral.hex a.value.toNat))

end Address

end ByteScan
