/-!
# The words of a command line

How a word of a command line is written tells what it is: `--` ends the options, `--name` and
`--name=value` are long options, a dash with letters behind it is a cluster of short options, and
everything else, a single dash included, is plain.
-/

namespace ByteScan.CommandLine

/-- A word, by the way it is written. -/
inductive Word where
  /-- The end of the options. -/
  | separator
  /-- A long option, perhaps with a value. -/
  | long (name : List Char) (value : Option (List Char))
  /-- Short options, the last of them perhaps with a value. -/
  | short (letters : List Char)
  /-- Anything else. -/
  | plain (text : List Char)
  deriving DecidableEq, Repr

/-- What a word is. -/
def Word.ofText : List Char → Word
  | ['-', '-'] => .separator
  | '-' :: '-' :: rest =>
    match rest.dropWhile (· ≠ '=') with
    | _ :: value => .long (rest.takeWhile (· ≠ '=')) (some value)
    | [] => .long rest none
  | ['-'] => .plain ['-']
  | '-' :: letters => .short letters
  | text => .plain text

end ByteScan.CommandLine
