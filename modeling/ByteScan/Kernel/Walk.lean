import ByteScan.Bytes
import ByteScan.Pattern.MaskForm
import ByteScan.ScanResult

/-!
# Searching byte by byte

The search that compares the bytes of every place one after the other. It reads nothing outside of
the slice, whatever the length of the pattern, so the faster searches leave the end of a slice to
it, where a whole word or lane no longer fits.
-/

namespace ByteScan.Walk

/-- Compares the bytes from `place` on with the bytes that the marks ask for, in step. -/
def fits (s : Slice) : List Bool → List UInt8 → Nat → Except Fault Bool
  | [], _, _ => .ok true
  | false :: mask, bytes, place => fits s mask bytes (place + 1)
  | true :: _, [], _ => .error .outOfBounds
  | true :: mask, b :: bytes, place => do
    if (← s.byteAt place) = b then fits s mask bytes (place + 1) else return false

/-- Tries `count` places from `place` on and gives the first that fits. -/
def firstFit (s : Slice) (form : MaskForm) : Nat → Nat → Except Fault (Option Nat)
  | _, 0 => .ok none
  | place, count + 1 => do
    if ← fits s form.mask form.bytes place then return some place
    else firstFit s form (place + 1) count

/-- Finds the first place at which the pattern matches. -/
def find (s : Slice) (form : MaskForm) : Except Fault ScanResult :=
  if s.size < form.length then .ok .notFound
  else do ScanResult.ofPlace (← firstFit s form 0 (s.size - form.length + 1))

/-- Finds the first place from `place` on at which the pattern matches: the search of the end of a
slice, its result counted from the beginning of the slice. -/
def findRest (s : Slice) (form : MaskForm) (place : Nat) : Except Fault ScanResult := do
  (← find (← s.skip place) form).addOffset place

end ByteScan.Walk
