import ByteScan.Algorithm.Json
import ByteScan.Decimal.Shortest
import ByteScan.Scanner
import ByteScan.ScanResult.Json
import ByteScan.Text.Paint
import ByteScan.Text.Quantity

/-!
# Reports

What was searched, how, for how long, and what was found: one row for each pattern, in the order in
which the patterns were asked for. A report is written as JSON or as text for a terminal.
-/

namespace ByteScan

/-- Billionths of a second in a second. -/
def nanosPerSecond : Nat := 1000000000

/-- A stretch of time. -/
structure Elapsed where
  /-- Whole seconds. -/
  seconds : Nat
  /-- Billionths of a second beside them. -/
  nanos : Nat
  deriving DecidableEq, Repr

namespace Elapsed

/-- A time given in billionths of a second. -/
def ofNanos (n : Nat) : Elapsed := ⟨n / nanosPerSecond, n % nanosPerSecond⟩

/-- No time. -/
def none : Elapsed := ⟨0, 0⟩

/-- The time in seconds. -/
def inSeconds (e : Elapsed) : Decimal.Binary :=
  (Decimal.Binary.ofNat e.seconds).add (Decimal.Binary.ofQuotient e.nanos nanosPerSecond)

/-- The time in thousandths of a second. -/
def inMillis (e : Elapsed) : Decimal.Binary := e.inSeconds.mul (Decimal.Binary.ofNat 1000)

end Elapsed

/-- What was found of one pattern. -/
structure ReportRow where
  /-- The pattern as it was asked for. -/
  pattern : String
  /-- Its first match. -/
  result : ScanResult
  /-- The places of all its matches, if they were asked for. -/
  offsets : Option (List Nat)
  deriving DecidableEq, Repr

/-- What was searched and what was found. -/
structure Report where
  /-- The name of what was searched. -/
  file : String
  /-- How many bytes it has. -/
  size : Nat
  /-- How it was searched. -/
  algorithm : Algorithm
  /-- How many workers there were. -/
  workers : Nat
  /-- How long it took. -/
  elapsed : Elapsed
  /-- What was found, pattern by pattern. -/
  rows : List ReportRow
  deriving DecidableEq, Repr

namespace Report

/-- How many patterns were found. -/
def foundCount (r : Report) : Nat := r.rows.countP fun row => row.result.found

/-! ### In JSON -/

/-- Times are written without a power of ten from a hundred-thousandth on and below 10 to the 16. -/
def timeLayout : Decimal.Layout := ⟨-5, 16⟩

/-- A row as a value. -/
def rowToJson (row : ReportRow) : Json.Value :=
  .object <| ("pattern", .string row.pattern) :: row.result.members ++
    match row.offsets with
    | some offsets => [("offsets", .array (offsets.map Json.Value.natural))]
    | none => []

/-- A report as a value. -/
def toJson (r : Report) : Json.Value :=
  .object [("file", .string r.file), ("size", .natural r.size),
    ("algorithm", r.algorithm.toJson), ("workers", .natural r.workers),
    ("elapsed_ms", .number (r.elapsed.inMillis.shortest.render timeLayout)),
    ("results", .array (r.rows.map rowToJson))]

/-! ### As text -/

/-- An offset as it is shown. -/
def place (n : Nat) : String := "0x" ++ String.ofList (Numeral.hexUpper n)

/-- A text, filled up with spaces to the given count of characters. -/
def padded (width : Nat) (text : String) : String :=
  text ++ String.ofList (List.replicate (width - text.length) ' ')

/-- The column of the patterns is as wide as the longest of them is in UTF-8. -/
def columnWidth (r : Report) : Nat := (r.rows.map fun row => row.pattern.utf8ByteSize).foldl max 0

/-- What the line of a row says behind the pattern. -/
def renderFinding (isColoured : Bool) (row : ReportRow) : String :=
  match row.result.position, row.offsets with
  | none, _ => Text.Paint.dimmed.apply isColoured "not found"
  | some position, none => Text.Paint.yellow.apply isColoured (place position.toNat)
  | some _, some offsets =>
    let count := Text.counted offsets.length "match" "matches" ++ ":"
    let places := ", ".intercalate (offsets.map place)
    Text.Paint.bold.apply isColoured count ++ " " ++ Text.Paint.yellow.apply isColoured places

/-- The line of a row. -/
def renderRow (isColoured : Bool) (width : Nat) (row : ReportRow) : String :=
  let mark :=
    if row.result.found then Text.Paint.green.apply isColoured "[+]"
    else Text.Paint.red.apply isColoured "[-]"
  s!"{mark} {padded width row.pattern}  {renderFinding isColoured row}\n"

/-- A report as text: a heading, a line for each row, and a summary. -/
def render (isColoured : Bool) (r : Report) : String :=
  let mark := Text.Paint.blue.apply isColoured "[*]"
  let size := Text.byteAmount r.size
  let workers := Text.counted r.workers "worker" "workers"
  let time := String.ofList (r.elapsed.inMillis.fixed 2)
  s!"{mark} {r.file} ({size}, {r.algorithm.name} kernel, {workers})\n" ++
  String.join (r.rows.map (renderRow isColoured r.columnWidth)) ++
  s!"{mark} {r.foundCount}/{r.rows.length} found in {time}ms\n"

end Report

end ByteScan
