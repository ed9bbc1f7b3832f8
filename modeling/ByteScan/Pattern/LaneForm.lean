import ByteScan.Bytes
import ByteScan.Pattern

/-!
# The lane form of a pattern

The form that a search reads a whole lane of bytes at a time. The first byte that is asked for, the
*anchor*, is looked for in every lane; what follows it, the *tail*, is laid out in lanes of its
own, the last one filled up with zeros. A lane mask has one bit per byte of a lane, and the bits of
the positions that ask for a byte are set.
-/

namespace ByteScan

/-- The bytes of a pattern with zeros for the wildcards, and which of them count. -/
structure LaneForm where
  /-- The byte at each position, 0 for a wildcard. -/
  bytes : List UInt8
  /-- Whether a position asks for a byte, for each position. -/
  mask : List Bool
  /-- How many wildcards come first. -/
  leading : Nat
  deriving DecidableEq, Repr

/-- The bits of a lane mask, one for each byte of a lane, the first byte at the lowest bit. -/
def laneMask : List Bool → UInt32
  | [] => 0
  | b :: bs => laneMask bs <<< 1 ||| (if b then 1 else 0)

namespace LaneForm

/-- The lane form of some tokens. -/
def ofTokens (tokens : List Token) : LaneForm where
  bytes := tokens.map fun t => t.toByte?.getD 0
  mask := tokens.map fun t => !t.isWildcard
  leading := (tokens.takeWhile Token.isWildcard).length

/-- How many positions the pattern has. -/
def length (form : LaneForm) : Nat := form.mask.length

/-- The first position that asks for a byte, and that byte. -/
def anchor? (form : LaneForm) : Option (Nat × UInt8) :=
  form.bytes[form.leading]?.map fun b => (form.leading, b)

/-- Whether lanes are worth their while: there is an anchor, and something beside it. -/
def isVectorizable (form : LaneForm) : Bool := 1 < form.length && form.anchor?.isSome

/-- The bytes behind the anchor. -/
def tail (form : LaneForm) : List UInt8 := form.bytes.drop (form.leading + 1)

/-- Which of the bytes behind the anchor count. -/
def tailMask (form : LaneForm) : List Bool := form.mask.drop (form.leading + 1)

/-- The places of the tail that ask for a byte, counted from the byte behind the anchor. -/
def checkedIndexes (form : LaneForm) : List Nat :=
  (List.range form.tailMask.length).filter fun i => form.tailMask.getD i false

/-- The tail in lanes of `width` bytes, the last one filled up with zeros. -/
def tailLanes (form : LaneForm) (width : Nat) : List (List UInt8) :=
  (chunks width form.tail).map fun lane => lane ++ List.replicate (width - lane.length) 0

/-- The masks of the lanes of the tail. A mask has 32 bits, so wider lanes have none. -/
def tailMasks (form : LaneForm) (width : Nat) : Except Fault (List UInt32) :=
  if width ≤ 32 then .ok ((chunks width form.tailMask).map laneMask) else .error .laneTooWide

end LaneForm

/-- The lane form of a pattern. -/
def Pattern.laneForm (p : Pattern) : LaneForm := LaneForm.ofTokens p.tokens

end ByteScan
