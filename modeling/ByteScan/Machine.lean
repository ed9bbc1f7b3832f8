/-!
# The machine

What the scanner finds out about the machine that it runs on, and cannot decide: which instructions
there are, how many processors, and whether workers can be started. It is a parameter of everything
that depends on it, so what is said of the scanner is said for every machine.
-/

namespace ByteScan

/-- Why workers cannot be started. -/
structure WorkersError where
  /-- The error in words. -/
  message : String
  /-- Its cause, and the cause of that. -/
  causes : List String
  deriving DecidableEq, Repr

/-- The machine that a scanner runs on. -/
class Machine where
  /-- Whether lanes of 16 bytes can be compared at once. -/
  hasSse2 : Bool
  /-- Whether lanes of 32 bytes can be compared at once. -/
  hasAvx2 : Bool
  /-- How many processors there are. -/
  processors : UInt64
  /-- There is at least one. -/
  processors_ne_zero : processors ≠ 0
  /-- How many workers are there for everyone. -/
  sharedWorkers : UInt64
  /-- There is at least one. -/
  sharedWorkers_ne_zero : sharedWorkers ≠ 0
  /-- Starts so many workers for one scanner alone. -/
  startWorkers : Nat → Except WorkersError Unit

/-- A machine with one processor, all instructions, and room for any number of workers. -/
@[reducible]
def Machine.uniprocessor : Machine where
  hasSse2 := true
  hasAvx2 := true
  processors := 1
  processors_ne_zero := by decide
  sharedWorkers := 1
  sharedWorkers_ne_zero := by decide
  startWorkers _ := .ok ()

end ByteScan
