import ByteScan.Memory.Error
import ByteScan.Memory.Module

/-!
# Reading the memory of a program

A reader gives bytes of some program. Nothing is promised about a reader of another program: it may
give any bytes in any number, or refuse. The memory of the scanner's own program can also be looked
at in place.
-/

namespace ByteScan

/-- A source of bytes of some program. -/
structure MemoryReader where
  /-- Whether it is the scanner's own program. -/
  isCurrent : Bool
  /-- Asks for so many bytes from an address on. -/
  read : Address → Nat → Attempt MemoryError Bytes
  /-- The bytes that lie from an address on in the scanner's own memory. -/
  inPlace : Address → Bytes

end ByteScan
