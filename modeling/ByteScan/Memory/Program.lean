import ByteScan.Memory.Listing
import ByteScan.Memory.Reader

/-!
# Running programs

A program has a number, the path of the file that it runs, the listing of its mappings, and memory:
segments of bytes that can be read, with nothing that can be read between them. A read of memory
takes the bytes up to the first one that cannot be read. It fails if that is the first one asked
for, and counts as partial if it comes later.
-/

namespace ByteScan

/-- Readable bytes in the memory of a program. -/
structure Segment where
  /-- Where they begin. -/
  base : Address
  /-- The bytes. -/
  bytes : Bytes

/-- A running program. -/
structure Program where
  /-- The number of the program. -/
  id : Nat
  /-- The path of the file that it runs. -/
  executable : String
  /-- The listing of its mappings. -/
  listing : String
  /-- What can be read of its memory. -/
  memory : List Segment

namespace Program

/-- The readable bytes from an address on. -/
def bytesAt (p : Program) (a : Address) : Bytes :=
  match p.memory.find? fun s =>
      s.base.value.toNat ≤ a.value.toNat && a.value.toNat < s.base.value.toNat + s.bytes.size with
  | some s => s.bytes.extract (a.value.toNat - s.base.value.toNat) s.bytes.size
  | none => #[]

/-- Reads so many bytes from an address on. Nothing is read if nothing is asked for. -/
def readBytes (p : Program) (a : Address) (length : Nat) : Except MemoryError Bytes :=
  let bytes := (p.bytesAt a).extract 0 length
  if length = 0 then .ok #[]
  else if bytes.isEmpty then .error (.readFailed a length .badAddress)
  else if bytes.size = length then .ok bytes
  else .error (.partialRead a length bytes.size)

/-- The reader of a program. -/
def reader (p : Program) (isCurrent : Bool) : MemoryReader where
  isCurrent := isCurrent
  read a length := Attempt.ofExcept (p.readBytes a length)
  inPlace := p.bytesAt

/-- The modules of a program. -/
def modules (p : Program) : Except Fault (List Module) := Listing.modules p.listing

/-- The first module that has the given name or path. -/
def findModule (p : Program) (name : String) : Attempt MemoryError Module := do
  match (← p.modules).find? fun m => m.name = name || m.path = name with
  | some m => return m
  | none => throw (.noSuchModule name)

/-- The module of the file that the program runs. -/
def mainModule (p : Program) : Attempt MemoryError Module := do
  match (← p.modules).find? fun m => m.path = p.executable with
  | some m => return m
  | none => throw (.noSuchModule p.executable)

/-- The program with the given number among those that run. -/
def attach (running : List Program) (id : Nat) : Except MemoryError Program :=
  match running.find? fun p => p.id = id with
  | some p => .ok p
  | none => .error (.noSuchProgram id)

end Program

end ByteScan
