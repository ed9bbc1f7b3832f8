import ByteScan.Token
import ByteScan.Text.Pieces

/-!
# Patterns

A pattern is a text such as `48 8B ?? 89`: one token or more, with exactly one space between two
tokens. It matches a run of bytes that is at least as long, and whose first bytes each satisfy the
token at their position.

A pattern keeps the text that it was read from. Patterns that are built from tokens or bytes get
their canonical text, with capital digits. Equality and matching go by the tokens alone; the *key*
of a pattern, its text in capital letters, is the same for equal patterns.
-/

namespace ByteScan

/-- One token or more, together with a text that spells them. -/
structure Pattern where
  /-- The text that the pattern was read from. -/
  source : String
  /-- What is asked of the bytes, position by position. -/
  tokens : List Token
  /-- A pattern has a token. -/
  tokens_ne_nil : tokens ≠ []

namespace Pattern

/-- Tokens in capital digits with one space between them. -/
def spellTokens (tokens : List Token) : String :=
  String.ofList ([' '].intercalate (tokens.map Token.spell))

/-- The pattern with the given tokens, spelled by the given text. -/
def ofSpelling (source : String) (tokens : List Token) : Except PatternError Pattern :=
  if h : tokens = [] then .error .empty else .ok ⟨source, tokens, h⟩

/-- Reads the tokens of a text, which stand from the given index on. The first text that is no
token decides the error. -/
def parseTokens : List (List Char) → Nat → Except PatternError (List Token)
  | [], _ => .ok []
  | piece :: pieces, index => do
    let token ← Token.parse piece index
    let tokens ← parseTokens pieces (index + 1)
    return token :: tokens

/-- Reads a pattern. -/
def parse (source : String) : Except PatternError Pattern := do
  if source.isEmpty then throw .empty
  let tokens ← parseTokens (Text.pieces ' ' source.toList) 0
  ofSpelling source tokens

/-- Reads every pattern of a list; the first one that is malformed decides the error. -/
def parseAll (sources : List String) : Except PatternError (List Pattern) :=
  sources.mapM parse

/-- The pattern with the given tokens. -/
def ofTokens (tokens : List Token) : Except PatternError Pattern :=
  ofSpelling (spellTokens tokens) tokens

/-- The pattern of the given bytes, without wildcards. -/
def ofBytes (bytes : List UInt8) : Except PatternError Pattern :=
  ofTokens (bytes.map .byte)

/-- The pattern of the given bytes, with a wildcard where the mask has a zero. -/
def ofBytesAndMask (bytes mask : List UInt8) : Except PatternError Pattern :=
  if bytes.length = mask.length then
    ofTokens ((bytes.zip mask).map fun (b, m) => if m = 0 then .wildcard else .byte b)
  else
    .error (.invalidToken s!"mask length {mask.length} != byte length {bytes.length}"
      (min bytes.length mask.length))

/-! ### Measures of a pattern -/

/-- How many tokens a pattern has. -/
def length (p : Pattern) : Nat := p.tokens.length

/-- How many positions ask for one certain byte. -/
def significantCount (p : Pattern) : Nat := p.tokens.countP fun t => !t.isWildcard

/-- How many wildcards come before the first byte. -/
def leadingWildcards (p : Pattern) : Nat := (p.tokens.takeWhile Token.isWildcard).length

/-- The canonical text of a pattern. -/
def spell (p : Pattern) : String := spellTokens p.tokens

/-- The text under which equal patterns meet. -/
def key (p : Pattern) : String := Text.asciiUpper p.source

/-- Whether two patterns have the same tokens. -/
instance : BEq Pattern := ⟨fun p q => p.tokens == q.tokens⟩

/-! ### Matching -/

/-- Whether each token accepts the byte at its position; there may be more bytes than tokens. -/
def acceptsStart : List Token → List UInt8 → Bool
  | [], _ => true
  | _ :: _, [] => false
  | t :: ts, b :: bs => t.accepts b && acceptsStart ts bs

/-- Whether the pattern matches at the start of the bytes. -/
def accepts (p : Pattern) (bytes : List UInt8) : Bool := acceptsStart p.tokens bytes

end Pattern

/-! ### Building patterns -/

namespace Pattern

/-- What can be put behind the tokens of a pattern that is being built. -/
inductive Part where
  /-- One byte. -/
  | byte (value : UInt8)
  /-- Several bytes. -/
  | bytes (values : List UInt8)
  /-- One wildcard. -/
  | wildcard
  /-- Several wildcards. -/
  | wildcards (count : Nat)

/-- The tokens of a part. -/
def Part.tokens : Part → List Token
  | byte value => [.byte value]
  | bytes values => values.map .byte
  | wildcard => [.wildcard]
  | wildcards count => List.replicate count .wildcard

/-- The pattern that consists of the given parts. -/
def ofParts (parts : List Part) : Except PatternError Pattern :=
  ofTokens (parts.flatMap Part.tokens)

end Pattern

end ByteScan
