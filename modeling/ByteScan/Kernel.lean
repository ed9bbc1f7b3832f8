import ByteScan.Algorithm
import ByteScan.Kernel.Lanes
import ByteScan.Kernel.Words

/-!
# Searching

The search that an algorithm stands for. Every algorithm finds the lowest place at which a pattern
matches; a search from a place on finds the lowest match that does not begin before that place. It
searches the slice from there on, and counts its result from the beginning of the data. An algorithm
whose instructions the machine lacks leaves the search to a slower one.

Places are plain numbers: data and patterns lie in memory, so no sum of two places leaves a word.
-/

namespace ByteScan.Algorithm

variable [Machine]

/-- The search in lanes of 16 bytes, or word by word on a machine that has no such lanes. -/
def findSse2 (s : Slice) (p : Pattern) : Except Fault ScanResult :=
  if sse2.isSupported then Lanes.find s 16 p.laneForm p.maskForm
  else Words.find s p.wordForm p.maskForm

/-- The search in lanes of 32 bytes, or in shorter ones on a machine that has no such lanes. -/
def findAvx2 (s : Slice) (p : Pattern) : Except Fault ScanResult :=
  if avx2.isSupported then Lanes.find s 32 p.laneForm p.maskForm
  else findSse2 s p

/-- Finds the first match of a pattern in a slice. -/
def findIn (a : Algorithm) (s : Slice) (p : Pattern) : Except Fault ScanResult :=
  match a with
  | simple => Walk.find s p.maskForm
  | compiled => Words.find s p.wordForm p.maskForm
  | sse2 => findSse2 s p
  | avx2 => findAvx2 s p

/-- Finds the first match of a pattern. -/
def find (a : Algorithm) (data : Bytes) (p : Pattern) : Except Fault ScanResult :=
  a.findIn (Slice.ofBytes data) p

/-- Finds the first match of a pattern that does not begin before `start`. There is none behind
the end of the data. -/
def findFrom (a : Algorithm) (data : Bytes) (p : Pattern) (start : Nat) :
    Except Fault ScanResult :=
  if data.size < start then .ok .notFound
  else do (← a.findIn (← (Slice.ofBytes data).skip start) p).addOffset start

end ByteScan.Algorithm
