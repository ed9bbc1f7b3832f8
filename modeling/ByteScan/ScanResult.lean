import ByteScan.Fault
import ByteScan.Text.Numeral

/-!
# Results of a search

A search either finds a match or does not, and reports the offset of a match as a signed number of
32 bits; where there is no match the offset is -1. `found` is the only way to a result of a match
inside the library, and it faults on an offset that does not fit. Results that come from outside
may hold any flag with any offset, so the operations are defined on all of them: a negative offset
stands for the word that continues its sign.
-/

namespace ByteScan

/-- The outcome of a search for one pattern. -/
structure ScanResult where
  /-- Whether there is a match. -/
  found : Bool
  /-- Where it is. -/
  offset : Int32
  deriving DecidableEq, Repr

namespace ScanResult

/-- The largest offset that a result can hold. -/
def maxOffset : Nat := 0x7FFFFFFF

/-- No match. -/
def notFound : ScanResult := ⟨false, -1⟩

/-- A match at the given offset. -/
def foundAt (offset : Nat) : Except Fault ScanResult :=
  if offset ≤ maxOffset then .ok ⟨true, Int32.ofNat offset⟩ else .error .offsetTooLarge

/-- The result for a place, or for none. -/
def ofPlace : Option Nat → Except Fault ScanResult
  | some offset => foundAt offset
  | none => .ok notFound

/-- The offset as a word, its sign continued. -/
def offsetWord (r : ScanResult) : UInt64 := r.offset.toInt64.toUInt64

/-- Where the match is, if there is one. -/
def position (r : ScanResult) : Option UInt64 :=
  if r.found then some r.offsetWord else none

/-- The result in the whole data of a search in the part from `start` on. -/
def addOffset (r : ScanResult) (start : Nat) : Except Fault ScanResult :=
  if r.found then
    if r.offsetWord.toNat + start < UInt64.size then foundAt (r.offsetWord.toNat + start)
    else .error .wordOverflow
  else
    .ok r

/-- A result in words. A negative offset shows as the 32 bits that represent it. -/
def render (r : ScanResult) : String :=
  if r.found then "found at 0x" ++ String.ofList (Numeral.hexUpper r.offset.toUInt32.toNat)
  else "not found"

end ScanResult

end ByteScan
