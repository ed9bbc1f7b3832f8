import ByteScan.Pattern

/-!
# The mask form of a pattern

The form that a search reads byte by byte: one mark per token, set where a byte is asked for, and
apart from the marks the bytes that are asked for, in their order.
-/

namespace ByteScan

/-- Marks of the positions that ask for a byte, and these bytes. -/
structure MaskForm where
  /-- The bytes that are asked for, in order. -/
  bytes : List UInt8
  /-- Whether a position asks for a byte, for each position. -/
  mask : List Bool
  deriving DecidableEq, Repr

namespace MaskForm

/-- The mask form of some tokens. -/
def ofTokens (tokens : List Token) : MaskForm where
  bytes := tokens.filterMap Token.toByte?
  mask := tokens.map fun t => !t.isWildcard

/-- How many positions the pattern has. -/
def length (form : MaskForm) : Nat := form.mask.length

end MaskForm

/-- The mask form of a pattern. -/
def Pattern.maskForm (p : Pattern) : MaskForm := MaskForm.ofTokens p.tokens

end ByteScan
