import ByteScan.Json.Reader
import ByteScan.Json.Value
import ByteScan.ScanResult

/-!
# Results in JSON

A result is an object with the flag and the offset, in this order. Both have to be there when a
result is read.
-/

namespace ByteScan.ScanResult

/-- The members of a result. -/
def members (r : ScanResult) : List (String × Json.Value) :=
  [("found", .bool r.found), ("offset", .integer r.offset.toInt)]

/-- A result as a value. -/
def toJson (r : ScanResult) : Json.Value := .object r.members

/-- The fields of a result that have been read. -/
structure Draft where
  /-- The flag. -/
  found : Option Bool := none
  /-- The offset. -/
  offset : Option Int32 := none

/-- The fields of a result. -/
def fields : List (Json.Field Draft) :=
  [⟨"found", (·.found.isSome), fun d cs => do
      let (b, rest) ← Json.readBool cs
      return (⟨some b, d.offset⟩, rest)⟩,
   ⟨"offset", (·.offset.isSome), fun d cs => do
      let (i, rest) ← Json.readInt32 cs
      return (⟨d.found, some i⟩, rest)⟩]

/-- A result whose fields have all been read. -/
def Draft.complete (d : Draft) : Option ScanResult := do return ⟨← d.found, ← d.offset⟩

/-- Reads a result. -/
def ofJson (text : String) : Except Json.Error ScanResult :=
  Json.readText (Json.readRecord fields (Draft.mk none none) Draft.complete) text

end ByteScan.ScanResult
