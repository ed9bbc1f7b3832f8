/-!
# Faults

A scan answers or refuses: a pattern can be malformed, a file can be missing, and each such refusal
is an error with a cause. A *fault* is neither. It is the breach of an assumption that the scanner
itself makes: a load that leaves its bytes, a sum that leaves its word. A computation that faults
has no answer at all, so faults are kept apart from the errors: `Except Fault` is a computation
that may fault, and `Attempt ε` one that may also refuse with an error of kind `ε`.
-/

namespace ByteScan

/-- The assumptions whose breach ends a computation without an answer. -/
inductive Fault where
  /-- A load or an index outside of the bytes that it is taken from. -/
  | outOfBounds
  /-- A sum or a difference of words that is not a word. -/
  | wordOverflow
  /-- A match so far into the data that a result cannot hold its offset. -/
  | offsetTooLarge
  /-- A lane with more bytes than its mask has bits. -/
  | laneTooWide
  /-- A repeated search that is answered from before the place where it started. -/
  | noProgress
  deriving DecidableEq, Repr

/-- A computation that faults, refuses with an error of kind `ε`, or gives an `α`. -/
abbrev Attempt (ε α : Type) := ExceptT ε (Except Fault) α

namespace Attempt

/-- A computation that cannot fault. -/
def ofExcept {ε α : Type} (x : Except ε α) : Attempt ε α := ExceptT.mk (.ok x)

/-- The same computation, its errors taken as errors of another kind. -/
def mapError {ε ε' α : Type} (f : ε → ε') (x : Attempt ε α) : Attempt ε' α :=
  ExceptT.mk (x.run.map (·.mapError f))

end Attempt

/-! ### Words

A word has 64 bits. Adding and subtracting words is exact or faults. -/

namespace Word

/-- The sum of two words. -/
def add (a b : UInt64) : Except Fault UInt64 :=
  if a.toNat + b.toNat < UInt64.size then .ok (a + b) else .error .wordOverflow

/-- The difference of two words. -/
def sub (a b : UInt64) : Except Fault UInt64 :=
  if b ≤ a then .ok (a - b) else .error .wordOverflow

end Word

end ByteScan
