import ByteScan.Fault

/-!
# Bytes

The bytes that are searched, and the ways a search reads them. A search works on a *slice*: the
bytes of an array from a place on, counted from that place. It reads one byte, a run of bytes of a
given width, or eight bytes as one little-endian word, and it hands the end of a slice on as a slice
of its own. Each of them faults when it would leave the slice. `chunks` cuts a list into pieces of
one length.
-/

namespace ByteScan

/-- A contiguous run of bytes with constant-time access. -/
abbrev Bytes := Array UInt8

/-- How many bytes fit into memory. No sum of two places in so many bytes leaves a word. -/
def Bytes.maxSize : Nat := 0x7FFFFFFFFFFFFFFF

/-- The bytes of an array from a place on. -/
structure Slice where
  /-- The array. -/
  data : Bytes
  /-- Where the slice begins. -/
  start : Nat
  /-- A slice may begin right behind the last byte, but no farther. -/
  start_le : start ≤ data.size

namespace Slice

/-- All bytes of an array. -/
def ofBytes (data : Bytes) : Slice := ⟨data, 0, Nat.zero_le _⟩

/-- How many bytes a slice has. -/
def size (s : Slice) : Nat := s.data.size - s.start

/-- The bytes of a slice. -/
def toList (s : Slice) : List UInt8 := s.data.toList.drop s.start

/-- The slice that begins `n` bytes later. -/
def skip (s : Slice) (n : Nat) : Except Fault Slice :=
  if h : s.start + n ≤ s.data.size then .ok ⟨s.data, s.start + n, h⟩ else .error .outOfBounds

/-- The `width` bytes from `place` on. -/
def load (s : Slice) (width place : Nat) : Except Fault (List UInt8) :=
  if place + width ≤ s.size then
    .ok (s.data.extract (s.start + place) (s.start + place + width)).toList
  else .error .outOfBounds

/-- The byte at `place`. -/
def byteAt (s : Slice) (place : Nat) : Except Fault UInt8 :=
  match s.data[s.start + place]? with
  | some b => .ok b
  | none => .error .outOfBounds

end Slice

namespace Word

/-- How many bytes a word has. -/
def width : Nat := 8

/-- The word with the given bytes, the least significant first. -/
def ofBytes : List UInt8 → UInt64
  | [] => 0
  | b :: bs => ofBytes bs <<< 8 ||| b.toUInt64

/-- The word that stands at `place` in memory. -/
def load (s : Slice) (place : Nat) : Except Fault UInt64 := (s.load width place).map ofBytes

end Word

/-- Cuts a list into consecutive pieces of `n`; the last piece may be shorter. There are no pieces
of length 0. -/
def chunks {α : Type} (n : Nat) (l : List α) : List (List α) :=
  if n = 0 ∨ l = [] then [] else l.take n :: chunks n (l.drop n)
termination_by l.length
decreasing_by
  have : l.length ≠ 0 := by simp_all
  simp only [List.length_drop]
  omega

end ByteScan
