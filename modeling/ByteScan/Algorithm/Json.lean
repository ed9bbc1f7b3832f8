import ByteScan.Algorithm
import ByteScan.Json.Reader
import ByteScan.Json.Value

/-!
# Algorithms in JSON

An algorithm is written by its name. Read in JSON, a name has to be spelled exactly, and the short
names are not known.
-/

namespace ByteScan.Algorithm

/-- The algorithm with exactly this name. -/
def ofExactName (name : String) : Option Algorithm := all.find? fun a => a.name = name

/-- An algorithm as a value. -/
def toJson (a : Algorithm) : Json.Value := .string a.name

/-- Reads an algorithm. -/
def read : Json.Reader Algorithm := Json.readEnum ofExactName

/-- Reads a text that is an algorithm. -/
def ofJson (text : String) : Except Json.Error Algorithm := Json.readText read text

end ByteScan.Algorithm
