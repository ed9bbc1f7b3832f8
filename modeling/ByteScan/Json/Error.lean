/-!
# Errors of reading JSON

A text is read from the left to the right, and the first thing that is wrong decides: the text
stops short, it is not JSON, or it is JSON but not what the reader asks for.
-/

namespace ByteScan.Json

/-- What is wrong with a text that should be a certain value in JSON. -/
inductive Error where
  /-- The text ends before the value does. -/
  | unfinished
  /-- The text does not go on as JSON does. -/
  | malformed
  /-- The value has another type, is out of range or has another name than asked for. -/
  | unsuitable
  deriving DecidableEq, Repr

/-- An error in words. -/
def Error.message : Error → String
  | .unfinished => "the text ends early"
  | .malformed => "the text is not JSON"
  | .unsuitable => "the value is not of the kind that is asked for"

/-- A reader takes its value from the front of a text and hands on the rest of the text. -/
abbrev Reader (α : Type) := List Char → Except Error (α × List Char)

end ByteScan.Json
