import ByteScan.Kernel.Walk
import ByteScan.Pattern.WordForm

/-!
# Searching word by word

The search that loads the word at every place and makes the first test of the word form; only where
it passes are the other tests made. As long as eight more places are left, eight words are tested
in one block. Places whose loads would leave the slice are handed to the search byte by byte.
-/

namespace ByteScan.Words

/-- How many places are tested in one block. -/
def blockLength : Nat := 8

/-- Where a scan of places came to an end. -/
inductive Stop where
  /-- At a match. -/
  | matched (place : Nat)
  /-- At a place that it does not try, without a match. -/
  | ended (place : Nat)

/-- Makes the tests at consecutive words, the first of them at `place`. -/
def passesAll (s : Slice) : List WordTest → Nat → Except Fault Bool
  | [], _ => .ok true
  | test :: tests, place => do
    if test.passes (← Word.load s place) then passesAll s tests (place + Word.width)
    else return false

/-- How far behind `place` the first of `count` places is at which the test passes. -/
def firstHit (s : Slice) (test : WordTest) : Nat → Nat → Except Fault (Option Nat)
  | _, 0 => .ok none
  | place, count + 1 => do
    if test.passes (← Word.load s place) then return some 0
    else return (← firstHit s test (place + 1) count).map (· + 1)

/-- Tries the places below `limit` in blocks, from `place` on. -/
def scanBlocks (s : Slice) (first : WordTest) (rest : List WordTest) (limit place : Nat) :
    Except Fault Stop :=
  if place + blockLength ≤ limit then do
    match ← firstHit s first place blockLength with
    | none => scanBlocks s first rest limit (place + blockLength)
    | some k =>
      if ← passesAll s rest (place + k + Word.width) then return .matched (place + k)
      else scanBlocks s first rest limit (place + k + 1)
  else
    return .ended place
termination_by limit - place
decreasing_by all_goals (simp only [blockLength] at *; omega)

/-- Tries the places below `limit` one at a time, from `place` on. -/
def scanSingles (s : Slice) (first : WordTest) (rest : List WordTest) (limit place : Nat) :
    Except Fault Stop :=
  if place < limit then do
    if ← passesAll s (first :: rest) place then return .matched place
    else scanSingles s first rest limit (place + 1)
  else
    return .ended place
termination_by limit - place

/-- Finds the first place at which the pattern matches. -/
def find (s : Slice) (form : WordForm) (mask : MaskForm) : Except Fault ScanResult :=
  if s.size < form.span then Walk.find s mask
  else match form.tests with
    | [] => .error .outOfBounds
    | first :: rest => do
      let limit := s.size - form.span + 1
      match ← scanBlocks s first rest limit 0 with
      | .matched place => ScanResult.foundAt place
      | .ended place =>
        match ← scanSingles s first rest limit place with
        | .matched place => ScanResult.foundAt place
        | .ended place => Walk.findRest s mask place

end ByteScan.Words
