import ByteScan.Text.Numeral

/-!
# JSON values and how they are written

A value is written in one of two layouts. The compact layout has no blanks. The indented one puts
every element and member into a line of its own, two spaces deeper than the bracket around it, and
a space behind every colon; brackets around nothing stay together in both. Members are written in
the order in which they are given. The text of a number is chosen by whoever builds the value.
-/

namespace ByteScan.Json

/-- A value that is to be written. -/
inductive Value where
  /-- The null value. -/
  | null
  /-- A truth value. -/
  | bool (b : Bool)
  /-- A number, by its text. -/
  | number (text : List Char)
  /-- A text. -/
  | string (text : String)
  /-- An array of values. -/
  | array (elements : List Value)
  /-- An object with the given names and values. -/
  | object (members : List (String × Value))

namespace Value

/-- A natural number. -/
def natural (n : Nat) : Value := number (Numeral.decimal n)

/-- An integer. -/
def integer (i : Int) : Value :=
  number (if i < 0 then '-' :: Numeral.decimal i.natAbs else Numeral.decimal i.natAbs)

/-- A value, or null in place of nothing. -/
def orNull : Option Value → Value := (·.getD null)

end Value

/-- A character as it is written between the quotes of a string. -/
def escapedChar (c : Char) : List Char :=
  if c = '"' then ['\\', '"']
  else if c = '\\' then ['\\', '\\']
  else if c = '\x08' then ['\\', 'b']
  else if c = '\t' then ['\\', 't']
  else if c = '\n' then ['\\', 'n']
  else if c = '\x0c' then ['\\', 'f']
  else if c = '\r' then ['\\', 'r']
  else if c.toNat < 0x20 then ['\\', 'u'] ++ Numeral.zeroFilled 4 (Numeral.hex c.toNat)
  else [c]

/-- A text as a string of JSON. -/
def quote (s : String) : List Char := '"' :: s.toList.flatMap escapedChar ++ ['"']

/-- A line break and the indentation of the given depth; nothing in the compact layout. -/
def lineBreak (indented : Bool) (depth : Nat) : List Char :=
  if indented then '\n' :: List.replicate (2 * depth) ' ' else []

mutual

/-- Writes a value that stands at the given depth. -/
def writeValue (indented : Bool) (depth : Nat) : Value → List Char
  | .null => ['n', 'u', 'l', 'l']
  | .bool b => if b then ['t', 'r', 'u', 'e'] else ['f', 'a', 'l', 's', 'e']
  | .number text => text
  | .string text => quote text
  | .array [] => ['[', ']']
  | .array (v :: vs) =>
    '[' :: lineBreak indented (depth + 1) ++ writeValue indented (depth + 1) v
      ++ writeElements indented (depth + 1) vs ++ lineBreak indented depth ++ [']']
  | .object [] => ['\x7b', '\x7d']
  | .object (m :: ms) =>
    '\x7b' :: lineBreak indented (depth + 1) ++ writeMember indented (depth + 1) m
      ++ writeMembers indented (depth + 1) ms ++ lineBreak indented depth ++ ['\x7d']

/-- Writes the further elements of an array, each behind a comma. -/
def writeElements (indented : Bool) (depth : Nat) : List Value → List Char
  | [] => []
  | v :: vs =>
    ',' :: lineBreak indented depth ++ writeValue indented depth v
      ++ writeElements indented depth vs

/-- Writes one member of an object. -/
def writeMember (indented : Bool) (depth : Nat) : String × Value → List Char
  | (name, v) =>
    quote name ++ (if indented then [':', ' '] else [':']) ++ writeValue indented depth v

/-- Writes the further members of an object, each behind a comma. -/
def writeMembers (indented : Bool) (depth : Nat) : List (String × Value) → List Char
  | [] => []
  | m :: ms =>
    ',' :: lineBreak indented depth ++ writeMember indented depth m
      ++ writeMembers indented depth ms

end

/-- A value in the compact layout. -/
def Value.compact (v : Value) : String := String.ofList (writeValue false 0 v)

/-- A value in the indented layout. -/
def Value.indented (v : Value) : String := String.ofList (writeValue true 0 v)

end ByteScan.Json
