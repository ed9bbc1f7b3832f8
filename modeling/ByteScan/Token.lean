import ByteScan.Text.Numeral
import ByteScan.Text.Quoted

/-!
# Tokens

One position of a pattern: a byte that has to be there, or a wildcard that any byte satisfies. A
token is written as two hexadecimal digits or as `??`; there is no other spelling, so a single
digit, a sign or a half wildcard is refused.
-/

namespace ByteScan

/-- Why a text or a list of tokens is not a pattern. -/
inductive PatternError where
  /-- A pattern has at least one token. -/
  | empty
  /-- The token at the given index is not one. -/
  | invalidToken (token : String) (index : Nat)
  deriving DecidableEq, Repr

/-- The wording of a pattern error. -/
def PatternError.message : PatternError → String
  | .empty => "Pattern is empty"
  | .invalidToken token index =>
    s!"Invalid token {Text.quoted token} at index {index}: expected two hex digits or ??"

/-- One position of a pattern. -/
inductive Token where
  /-- Any byte will do. -/
  | wildcard
  /-- The byte at this position is the given one. -/
  | byte (value : UInt8)
  deriving DecidableEq, Repr

namespace Token

/-- Reads the token at the given index of a pattern. -/
def parse (text : List Char) (index : Nat) : Except PatternError Token :=
  match text with
  | ['?', '?'] => .ok .wildcard
  | [high, low] =>
    match Numeral.hexDigit? high, Numeral.hexDigit? low with
    | some h, some l => .ok (.byte (UInt8.ofNat (16 * h + l)))
    | _, _ => .error (.invalidToken (String.ofList text) index)
  | _ => .error (.invalidToken (String.ofList text) index)

/-- Whether a byte may stand at the position. -/
def accepts : Token → UInt8 → Bool
  | wildcard, _ => true
  | byte value, b => value == b

/-- The byte that has to stand at the position, if one has to. -/
def toByte? : Token → Option UInt8
  | wildcard => none
  | byte value => some value

/-- Whether any byte will do. -/
def isWildcard : Token → Bool
  | wildcard => true
  | byte _ => false

/-- The one spelling of a token in which digits are capital letters. -/
def spell : Token → List Char
  | wildcard => ['?', '?']
  | byte value => Numeral.zeroFilled 2 (Numeral.hexUpper value.toNat)

end Token

end ByteScan
