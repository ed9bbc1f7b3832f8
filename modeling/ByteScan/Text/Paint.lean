/-!
# Painted text

Text in a colour or a face of a terminal: an escape sequence switches it on in front of the text,
and one behind the text switches it off again. Without colours the text stays as it is.
-/

namespace ByteScan.Text

/-- The colours and faces that are used. -/
inductive Paint where
  /-- A bold face. -/
  | bold
  /-- A pale face. -/
  | dimmed
  /-- Red. -/
  | red
  /-- Green. -/
  | green
  /-- Yellow. -/
  | yellow
  /-- Blue. -/
  | blue
  /-- Cyan. -/
  | cyan
  /-- Grey. -/
  | grey
  deriving DecidableEq, Repr

/-- The number of a colour or face in an escape sequence. -/
def Paint.code : Paint → Nat
  | bold => 1
  | dimmed => 2
  | red => 31
  | green => 32
  | yellow => 33
  | blue => 34
  | cyan => 36
  | grey => 90

/-- A text in a colour or face, if there are any. -/
def Paint.apply (p : Paint) (isColoured : Bool) (text : String) : String :=
  if isColoured then s!"\x1b[{p.code}m{text}\x1b[0m" else text

end ByteScan.Text
