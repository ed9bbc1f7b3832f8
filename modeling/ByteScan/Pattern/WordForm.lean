import ByteScan.Bytes
import ByteScan.Pattern

/-!
# The word form of a pattern

The form that a search reads eight bytes at a time. Each group of up to eight tokens becomes a test
of one little-endian word: the bits under the mask have to equal the value. The mask covers the
positions that ask for a byte; wildcards, and positions behind the last token, are not covered.
-/

namespace ByteScan

/-- A test of the bits of a word that a mask covers. -/
structure WordTest where
  /-- The bits that are asked for; none outside of the mask. -/
  value : UInt64
  /-- The bits that count. -/
  mask : UInt64
  deriving DecidableEq, Repr

namespace WordTest

/-- Whether a word passes. -/
def passes (test : WordTest) (word : UInt64) : Bool := word &&& test.mask == test.value

/-- The byte that a token asks for, and 0 for a wildcard. -/
def valueByte (t : Token) : UInt8 := t.toByte?.getD 0

/-- All bits of a byte if a token asks for one, and no bit otherwise. -/
def maskByte (t : Token) : UInt8 := if t.isWildcard then 0 else 0xFF

/-- The test of one group of tokens, at most as many as a word has bytes. -/
def ofTokens (group : List Token) : WordTest where
  value := Word.ofBytes (group.map valueByte)
  mask := Word.ofBytes (group.map maskByte)

end WordTest

/-- One test for each group of tokens. -/
structure WordForm where
  /-- How many tokens the pattern has. -/
  length : Nat
  /-- The tests, in the order of the groups. -/
  tests : List WordTest
  deriving DecidableEq, Repr

namespace WordForm

/-- The word form of some tokens. -/
def ofTokens (tokens : List Token) : WordForm where
  length := tokens.length
  tests := (chunks Word.width tokens).map WordTest.ofTokens

/-- How many bytes are read when every test is made at one place. -/
def span (form : WordForm) : Nat := form.tests.length * Word.width

end WordForm

/-- The word form of a pattern. -/
def Pattern.wordForm (p : Pattern) : WordForm := WordForm.ofTokens p.tokens

end ByteScan
