import ByteScan.Scanner
import Mathlib.Data.Fintype.Basic
import Mathlib.Logic.Function.Basic
import Mathlib.Logic.Relation

/-!
# Workers that share a cache

How the patterns of a batch are searched for when several workers share one cache. Each worker takes
a pattern that nobody has taken, looks its key up in the cache, searches for it if it has to, stores
the result, and records in the slot of the pattern what is then in the cache. The cache is free
between any two of these steps, so the steps of the workers interleave in any order, and two workers
that miss the same key both search for it.

A worker by itself is sequential: `Act` is one step of a worker. A `Step` of all workers is a step
of any one of them, and a `Run` any number of such steps. Which worker searched for which key is
written down along the way; no worker ever reads it.
-/

namespace ByteScan.Workers

open Relation

/-- What a worker is doing, in a batch of `n` patterns. -/
inductive Phase (n : Nat) where
  /-- It has no pattern. -/
  | idle
  /-- It has taken a pattern. -/
  | looking (i : Fin n)
  /-- The key of its pattern was not in the cache. -/
  | missing (i : Fin n)
  /-- It has searched for its pattern. -/
  | storing (i : Fin n) (r : ScanResult)
  /-- It knows what the cache holds for its pattern. -/
  | recording (i : Fin n) (r : ScanResult)

/-- The pattern that a worker has taken. -/
def Phase.index? {n : Nat} : Phase n → Option (Fin n)
  | idle => none
  | looking i | missing i | storing i _ | recording i _ => some i

/-- What the workers of a batch share. -/
structure Shared (batch : List Pattern) (workers : Nat) where
  /-- The patterns that nobody has taken. -/
  waiting : Finset (Fin batch.length)
  /-- The cache. -/
  cache : Cache
  /-- The slots for the results. -/
  slots : Fin batch.length → ScanResult
  /-- Who has searched for which key, the latest search first. -/
  scans : List (Fin workers × String)

/-- The workers of a batch, and what they share. -/
structure State (batch : List Pattern) (workers : Nat) where
  /-- What they share. -/
  shared : Shared batch workers
  /-- What each of them is doing. -/
  phase : Fin workers → Phase batch.length

variable [Machine] {batch : List Pattern} {workers : Nat}

/-- All patterns are waiting, and the cache is empty. -/
def State.start (batch : List Pattern) (workers : Nat) : State batch workers :=
  ⟨⟨Finset.univ, .empty, fun _ => .notFound, []⟩, fun _ => .idle⟩

/-- No pattern is waiting, and no worker has one. -/
def State.Done (σ : State batch workers) : Prop := σ.shared.waiting = ∅ ∧ ∀ w, σ.phase w = .idle

/-- How often a key was searched for. -/
def State.scanCount (σ : State batch workers) (key : String) : Nat :=
  σ.shared.scans.countP fun scan => scan.2 = key

/-- The results, in the order of the slots. -/
def State.results (σ : State batch workers) : List ScanResult := List.ofFn σ.shared.slots

/-- What worker `w` can do next, and what the workers share before and after. -/
inductive Act (s : Scanner) (w : Fin workers) :
    Shared batch workers → Phase batch.length → Phase batch.length → Shared batch workers → Prop
  /-- It takes a pattern that is waiting. -/
  | take {d : Shared batch workers} {i : Fin batch.length} : i ∈ d.waiting →
      Act s w d .idle (.looking i) { d with waiting := d.waiting.erase i }
  /-- The cache holds a result for its pattern. -/
  | hit {d : Shared batch workers} {i : Fin batch.length} {r : ScanResult} :
      d.cache.get? (batch.get i).source = some r → Act s w d (.looking i) (.recording i r) d
  /-- The cache holds no result for its pattern. -/
  | miss {d : Shared batch workers} {i : Fin batch.length} :
      d.cache.get? (batch.get i).source = none → Act s w d (.looking i) (.missing i) d
  /-- It searches for its pattern. -/
  | scan {d : Shared batch workers} {i : Fin batch.length} {r : ScanResult} :
      s.search (batch.get i) = .ok r →
        Act s w d (.missing i) (.storing i r) { d with scans := (w, (batch.get i).key) :: d.scans }
  /-- It stores its result, unless the cache holds one by now. -/
  | store {d : Shared batch workers} {i : Fin batch.length} {r : ScanResult} :
      Act s w d (.storing i r) (.recording i (d.cache.insertIfAbsent (batch.get i).source r).1)
        { d with cache := (d.cache.insertIfAbsent (batch.get i).source r).2 }
  /-- It records in the slot of its pattern what the cache holds. -/
  | record {d : Shared batch workers} {i : Fin batch.length} {r : ScanResult} :
      Act s w d (.recording i r) .idle { d with slots := Function.update d.slots i r }

/-- A step: one of the workers acts. -/
inductive Step (s : Scanner) : State batch workers → State batch workers → Prop
  /-- Worker `w` acts. -/
  | mk {σ : State batch workers} {w : Fin workers} {x y : Phase batch.length}
      {d : Shared batch workers} : σ.phase w = x → Act s w σ.shared x y d →
        Step s σ ⟨d, Function.update σ.phase w y⟩

/-- Any number of steps, in any order of the workers. -/
def Run (s : Scanner) : State batch workers → State batch workers → Prop := ReflTransGen (Step s)

end ByteScan.Workers
