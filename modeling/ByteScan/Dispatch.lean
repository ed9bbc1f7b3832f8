import ByteScan.Bytes
import ByteScan.Machine
import ByteScan.ScanResult

/-!
# Handing out a batch

A batch of patterns is cut into pieces, and the pieces are handed to workers. Every pattern has a
slot for its result. The slots are cut like the patterns, and a piece of patterns goes to a worker
together with the slots at the same places, so a worker fills the slots of its own piece and no
others. Without load balancing there is one piece per worker at most; with it every pattern is a
piece of its own.
-/

namespace ByteScan

/-- The workers for batches. -/
structure Dispatcher where
  /-- How many workers there are. -/
  workers : Nat
  /-- Whether they work for one scanner alone. -/
  isDedicated : Bool
  deriving DecidableEq, Repr

namespace Dispatcher

section Machine

variable [Machine]

/-- The workers that are there for everyone. -/
def shared : Dispatcher := ⟨Machine.sharedWorkers.toNat, false⟩

/-- Starts workers for one scanner, at least one. -/
def dedicated (workers : Nat) : Except WorkersError Dispatcher := do
  Machine.startWorkers (max workers 1)
  return ⟨max workers 1, true⟩

end Machine

/-- How many patterns a piece of a batch of `count` has, the last piece apart. -/
def pieceLength (d : Dispatcher) (loadBalance : Bool) (count : Nat) : Nat :=
  if loadBalance then 1 else (count + (max d.workers 1 - 1)) / max d.workers 1

/-- The slots of a batch of `count`, in pieces. -/
def pieces (d : Dispatcher) (loadBalance : Bool) (count : Nat) : List (List Nat) :=
  chunks (d.pieceLength loadBalance count) (List.range count)

/-- The pieces of patterns and the pieces of slots side by side, so each pattern has a slot. -/
def work {α : Type} (d : Dispatcher) (loadBalance : Bool) (batch : List α) :
    List (List (α × Nat)) :=
  List.zipWith List.zip (chunks (d.pieceLength loadBalance batch.length) batch)
    (d.pieces loadBalance batch.length)

/-- Searches for some patterns, one after the other, and puts each result into the slot that stands
beside its pattern. -/
def fill {α : Type} {m : Type → Type} [Monad m] (search : α → m ScanResult) :
    List (α × Nat) → Array ScanResult → m (Array ScanResult)
  | [], results => pure results
  | (p, slot) :: calls, results => do
    fill search calls (results.setIfInBounds slot (← search p))

/-- Searches for every pattern of a batch. The slots begin as "not found" and are filled piece by
piece. -/
def run {α : Type} {m : Type → Type} [Monad m] (d : Dispatcher) (loadBalance : Bool)
    (batch : List α) (search : α → m ScanResult) : m (List ScanResult) := do
  let results ← (d.work loadBalance batch).foldlM (fun results piece => fill search piece results)
    (Array.replicate batch.length ScanResult.notFound)
  return results.toList

end Dispatcher

end ByteScan
