import ByteScan.Memory.Reader
import ByteScan.ScanResult
import ByteScan.Text.Quoted

/-!
# Regions

The bytes that a scanner searches, and whether they are its own, lent to it, or those of a mapped
file. Whoever makes a region of bytes here is refused if they are more than the largest offset, so
each place in it can be reported; a region that is put together from a kind and bytes is not looked
at. Where bytes have to be copied from another program, a region is made of all of them or not at
all.
-/

namespace ByteScan

/-- Whose bytes they are. -/
inductive RegionKind where
  /-- The bytes belong to the scanner. -/
  | owned
  /-- The bytes belong to someone else. -/
  | borrowed
  /-- The bytes are those of a file. -/
  | mapped
  deriving DecidableEq, Repr

/-- A kind in a word. -/
def RegionKind.name : RegionKind → String
  | .owned => "owned"
  | .borrowed => "borrowed"
  | .mapped => "mapped"

/-- The bytes that a scanner searches. -/
structure Region where
  /-- Whose bytes they are. -/
  kind : RegionKind
  /-- The bytes. -/
  bytes : Bytes
  deriving DecidableEq, Repr

namespace Region

/-- How many bytes a region may have. -/
def maxLength : Nat := ScanResult.maxOffset

/-- Refuses a region of too many bytes. -/
def checkLength (r : Region) : Except MemoryError Region :=
  if r.bytes.size > maxLength then .error (.tooLarge r.bytes.size) else .ok r

/-- The region of the given bytes. -/
def ofBytes (kind : RegionKind) (bytes : Bytes) : Except MemoryError Region :=
  checkLength ⟨kind, bytes⟩

/-- The first `length` bytes of a piece of memory, which may only be touched if they are few
enough. -/
def ofMemory (memory : Bytes) (length : Nat) : Except MemoryError Region :=
  if length > maxLength then .error (.tooLarge length)
  else .ok ⟨.borrowed, memory.extract 0 length⟩

/-- The region of a file, given what it holds. -/
def ofFile (content : Except SystemError Bytes) : Except MemoryError Region := do
  ofBytes .mapped (← content.mapError .unreadable)

/-- A copy of `length` bytes of another program. -/
def ofReader (reader : MemoryReader) (base : Address) (length : Nat) :
    Attempt MemoryError Region := do
  if length > maxLength then throw (.tooLarge length)
  let bytes ← reader.read base length
  if bytes.size = length then return ⟨.owned, bytes⟩
  else throw (.partialRead base length bytes.size)

/-- The bytes of a module: in place if it is one of the scanner's own program, and otherwise a
copy. -/
def ofModule (reader : MemoryReader) (m : Module) : Attempt MemoryError Region :=
  if reader.isCurrent then Attempt.ofExcept (ofMemory (reader.inPlace m.base) m.size.toNat)
  else ofReader reader m.base m.size.toNat

/-- A region as it is shown in a report on its state. -/
def render (r : Region) : String :=
  s!"MemoryRegion \x7b kind: {Text.quoted r.kind.name}, len: {r.bytes.size} \x7d"

end Region

end ByteScan
