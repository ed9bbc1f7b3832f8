import ByteScan.Text.Numeral
import ByteScan.Text.Printable

/-!
# Quoted text

How a text from outside is shown inside a message: between double quotes, in one line, and so that
every character of it can be seen. Controls with a short name, the quote and the backslash are
written behind a backslash, all else that leaves no mark of its own by its code point.
-/

namespace ByteScan.Text

/-- A character by its code point, in hexadecimal between braces. -/
def codePointEscape (c : Char) : List Char :=
  ['\\', 'u', '\x7b'] ++ Numeral.hex c.toNat ++ ['\x7d']

/-- A character as it is written between the quotes. -/
def quotedChar (c : Char) : List Char :=
  if c.toNat = 0 then ['\\', '0']
  else if c = '\t' then ['\\', 't']
  else if c = '\r' then ['\\', 'r']
  else if c = '\n' then ['\\', 'n']
  else if c = '\\' then ['\\', '\\']
  else if c = '"' then ['\\', '"']
  else if isExtender c then codePointEscape c
  else if isPrintable c then [c]
  else codePointEscape c

/-- A text between double quotes. -/
def quoted (s : String) : String :=
  String.ofList ('"' :: s.toList.flatMap quotedChar ++ ['"'])

end ByteScan.Text
