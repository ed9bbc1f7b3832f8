import ByteScan.Memory.Address

/-!
# Modules

A module is a file that is mapped into the memory of a program, seen as one range of addresses.
-/

namespace ByteScan

/-- A mapped file. -/
structure Module where
  /-- The name of the file, without its directory. -/
  name : String
  /-- The whole path of the file. -/
  path : String
  /-- Where the range begins. -/
  base : Address
  /-- How many bytes the range has. -/
  size : UInt64
  deriving DecidableEq, Repr

namespace Module

/-- The address right behind the range. -/
def stop (m : Module) : Except Fault Address := m.base.add m.size

/-- Whether an address lies in the range. -/
def contains (m : Module) (a : Address) : Except Fault Bool := return a.isWithin m.base (← m.stop)

/-- A module by its name, its base and its size. -/
def render (m : Module) : String :=
  s!"{m.name} {m.base.render}+0x{String.ofList (Numeral.hex m.size.toNat)}"

end Module

end ByteScan
