import ByteScan.Machine
import ByteScan.Text.Lowercase

/-!
# Algorithms

The four ways to search, from the slowest to the fastest. They give the same answers; a
configuration may force one of them. On a machine that lacks the instructions of one, the next
slower one takes its place.
-/

namespace ByteScan

/-- A way to search. -/
inductive Algorithm where
  /-- One byte after the other. -/
  | simple
  /-- A word of eight bytes at every place. -/
  | compiled
  /-- Lanes of 16 bytes. -/
  | sse2
  /-- Lanes of 32 bytes. -/
  | avx2
  deriving DecidableEq, Repr

namespace Algorithm

/-- All algorithms, the slowest first. -/
def all : List Algorithm := [simple, compiled, sse2, avx2]

/-- The name of an algorithm. -/
def name : Algorithm → String
  | simple => "simple"
  | compiled => "compiled"
  | sse2 => "sse2"
  | avx2 => "avx2"

/-- How many algorithms are slower. -/
def rank : Algorithm → Nat
  | simple => 0
  | compiled => 1
  | sse2 => 2
  | avx2 => 3

/-- The slower algorithm comes first. -/
instance : Ord Algorithm := ⟨fun a b => compare a.rank b.rank⟩

/-- The next slower algorithm. -/
def fallback : Algorithm → Option Algorithm
  | avx2 => some sse2
  | sse2 => some compiled
  | compiled => some simple
  | simple => none

theorem rank_lt_of_fallback {a b : Algorithm} (h : a.fallback = some b) : b.rank < a.rank := by
  cases a <;> cases h <;> decide

section Machine

variable [Machine]

/-- Whether the machine can run an algorithm. -/
def isSupported : Algorithm → Bool
  | simple | compiled => true
  | sse2 => Machine.hasSse2
  | avx2 => Machine.hasAvx2

/-- The first algorithm that the machine can run, from the given one on to slower ones. -/
def resolve (a : Algorithm) : Algorithm :=
  if a.isSupported then a
  else
    match _ : a.fallback with
    | some slower => resolve slower
    | none => a
termination_by a.rank
decreasing_by exact rank_lt_of_fallback ‹_›

/-- The algorithms that give way on the way to one that the machine can run, each with the one that
takes its place. -/
def replacements (a : Algorithm) : List (Algorithm × Algorithm) :=
  if a.isSupported then []
  else
    match _ : a.fallback with
    | some slower => (a, slower) :: replacements slower
    | none => []
termination_by a.rank
decreasing_by exact rank_lt_of_fallback ‹_›

/-- The fastest algorithm that the machine can run. -/
def best : Algorithm := (all.reverse.find? isSupported).getD compiled

/-- Where no algorithm is named, the fastest one is meant. -/
instance : Inhabited Algorithm := ⟨best⟩

end Machine

/-- The algorithm that a name stands for, in letters of any case; `sse` and `avx` are short for
the two vector algorithms. A text that is no name is handed back in small letters. -/
def ofName (text : String) : Except String Algorithm :=
  let name := Text.lower text
  if name = "simple" then .ok simple
  else if name = "compiled" then .ok compiled
  else if name = "sse2" ∨ name = "sse" then .ok sse2
  else if name = "avx2" ∨ name = "avx" then .ok avx2
  else .error name

/-- What is said about a text that names no algorithm, given in small letters. -/
def unknownMessage (text : String) : String := s!"Unknown algorithm: {text}"

end Algorithm

end ByteScan
