import ByteScan.Memory.Address
import ByteScan.SystemError

/-!
# Errors of reading memory
-/

namespace ByteScan

/-- Why there are no bytes to search. -/
inductive MemoryError where
  /-- A file cannot be read. -/
  | unreadable (cause : SystemError)
  /-- A read of memory is refused. -/
  | readFailed (address : Address) (length : Nat) (cause : SystemError)
  /-- A read gives more or fewer bytes than asked for. -/
  | partialRead (address : Address) (expected actual : Nat)
  /-- There is no program of that number. -/
  | noSuchProgram (id : Nat)
  /-- A program has no module of that name. -/
  | noSuchModule (name : String)
  /-- There are more bytes than offsets. -/
  | tooLarge (length : Nat)
  /-- The machine cannot do it. -/
  | unsupported (what : String)
  deriving DecidableEq, Repr

/-- The wording of a memory error. -/
def MemoryError.message : MemoryError → String
  | .unreadable cause => "IO error: " ++ cause.message
  | .readFailed address length cause =>
    s!"Read of {length} bytes failed at address {address.render}: {cause.message}"
  | .partialRead address expected actual =>
    s!"Partial read at address {address.render}: expected {expected} bytes, got {actual}"
  | .noSuchProgram id => s!"Process not found: {id}"
  | .noSuchModule name => s!"Module not found: {name}"
  | .tooLarge length => s!"Region of {length} bytes exceeds the addressable scan range"
  | .unsupported what => s!"Not supported: {what}"

end ByteScan
