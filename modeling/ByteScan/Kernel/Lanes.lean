import ByteScan.Kernel.Walk
import ByteScan.Pattern.LaneForm

/-!
# Searching lane by lane

The search that loads a whole lane of bytes and compares all of them with the anchor of the pattern
at once. The bits of the comparison are the candidates of the lane, tried from the lowest on: the
tail lanes are compared with the memory behind the candidate, under their masks. A lane is searched
only if the tail of its last candidate can be loaded too; what is left is handed to the search byte
by byte. The width of a lane, 16 or 32 bytes, is a parameter.
-/

namespace ByteScan.Lanes

/-- The mask of the positions at which two lanes agree. -/
def equalMask (a b : List UInt8) : UInt32 := laneMask (List.zipWith (· == ·) a b)

/-- The positions of the bits of a mask that are set, from the lowest on. -/
def setBits (mask : UInt32) : List Nat := (List.range 32).filter fun i => mask.toNat.testBit i

/-- Whether the memory from `place` on agrees with the lanes wherever their masks are set. -/
def verify (s : Slice) (width : Nat) : List (List UInt8 × UInt32) → Nat → Except Fault Bool
  | [], _ => .ok true
  | (lane, mask) :: lanes, place => do
    if equalMask lane (← s.load width place) &&& mask = mask then
      verify s width lanes (place + width)
    else
      return false

/-- The first of the candidates behind which the tail is verified. Candidates are counted from
`cursor` on. -/
def firstVerified (s : Slice) (width : Nat) (tail : List (List UInt8 × UInt32)) (cursor : Nat) :
    List Nat → Except Fault (Option Nat)
  | [] => .ok none
  | candidate :: candidates => do
    if ← verify s width tail (cursor + candidate + 1) then return some (cursor + candidate)
    else firstVerified s width tail cursor candidates

/-- Where a scan of lanes came to an end. -/
inductive Stop where
  /-- With a verified anchor at a place. -/
  | anchored (place : Nat)
  /-- At a place whose lane is not searched, without a match. -/
  | ended (place : Nat)

/-- Searches the lanes from `cursor` on, as long as one lane and the whole tail behind it fit. -/
def scanLanes (s : Slice) (width : Nat) (anchor : UInt8) (tail : List (List UInt8 × UInt32))
    (cursor : Nat) : Except Fault Stop :=
  if 0 < width ∧ cursor + (tail.length + 1) * width ≤ s.size then do
    let lane ← s.load width cursor
    let candidates := setBits (equalMask (List.replicate width anchor) lane)
    match ← firstVerified s width tail cursor candidates with
    | some place => return .anchored place
    | none => scanLanes s width anchor tail (cursor + width)
  else
    return .ended cursor
termination_by s.size - cursor
decreasing_by
  have : width ≤ (tail.length + 1) * width := Nat.le_mul_of_pos_left width (Nat.succ_pos _)
  omega

/-- The place of a match whose anchor, at the given index of the pattern, is at `place`. -/
def matchPlace (place index : Nat) : Except Fault Nat :=
  if index ≤ place then .ok (place - index) else .error .wordOverflow

/-- Finds the first place at which the pattern matches. -/
def find (s : Slice) (width : Nat) (form : LaneForm) (mask : MaskForm) :
    Except Fault ScanResult :=
  match form.anchor? with
  | none => Walk.find s mask
  | some (index, anchor) =>
    if form.isVectorizable then do
      let tail := (form.tailLanes width).zip (← form.tailMasks width)
      match ← scanLanes s width anchor tail index with
      | .anchored place => ScanResult.foundAt (← matchPlace place index)
      | .ended place => Walk.findRest s mask (← matchPlace place index)
    else
      Walk.find s mask

end ByteScan.Lanes
