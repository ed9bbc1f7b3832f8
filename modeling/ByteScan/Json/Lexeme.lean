import ByteScan.Json.Error
import ByteScan.Text.Numeral

/-!
# The lexemes of JSON

Blanks, the three literals, strings and numbers. Strings come in two readings. A string whose text
matters has to be text: its escapes of UTF-16 surrogates have to come in pairs. A string that is
skipped only has to be well formed, so a surrogate may stand alone in it. Numbers, too, are either
read or skipped; a number that is read has to lie in the range of doubles.
-/

namespace ByteScan.Json

/-- The four characters that may stand between two lexemes. -/
def isBlank (c : Char) : Bool := c = ' ' || c = '\t' || c = '\n' || c = '\r'

/-- Drops the blanks at the front. -/
def skipBlank (cs : List Char) : List Char := cs.dropWhile isBlank

theorem length_skipBlank_le (cs : List Char) : (skipBlank cs).length ≤ cs.length :=
  (List.dropWhile_sublist _).length_le

/-- Takes the given characters off the front. -/
def literal : List Char → List Char → Except Error (List Char)
  | [], cs => .ok cs
  | _ :: _, [] => .error .unfinished
  | x :: xs, c :: cs => if x = c then literal xs cs else .error .malformed

theorem length_literal_le {xs cs rest : List Char} (h : literal xs cs = .ok rest) :
    rest.length ≤ cs.length := by
  induction xs generalizing cs with
  | nil => simp_all [literal]
  | cons x xs ih =>
    cases cs with
    | nil => simp [literal] at h
    | cons c cs =>
      simp only [literal] at h
      split at h
      · have := ih h
        simp only [List.length_cons]
        omega
      · simp at h

/-! ### Strings -/

/-- The number that four hexadecimal digits spell. -/
def hexFour? (a b c d : Char) : Option Nat := Numeral.natural? 16 [a, b, c, d]

/-- Why a text does not begin with four hexadecimal digits. It stops short if it is too short in
UTF-8 to hold them. -/
def hexError (cs : List Char) : Error :=
  if (String.ofList cs).utf8ByteSize < 4 then .unfinished else .malformed

/-- Takes four hexadecimal digits off the front. -/
def hexEscape : Reader Nat
  | a :: b :: c :: d :: rest =>
    match hexFour? a b c d with
    | some n => .ok (n, rest)
    | none => .error (hexError (a :: b :: c :: d :: rest))
  | cs => .error (hexError cs)

theorem length_hexEscape_lt {cs rest : List Char} {n : Nat} (h : hexEscape cs = .ok (n, rest)) :
    rest.length < cs.length := by
  unfold hexEscape at h
  split at h
  · split at h
    · simp only [Except.ok.injEq, Prod.mk.injEq] at h
      simp only [← h.2, List.length_cons]
      omega
    · simp at h
  · simp at h

/-- The character that a letter behind a backslash stands for. -/
def shortEscape? (c : Char) : Option Char :=
  if c = '"' ∨ c = '\\' ∨ c = '/' then some c
  else if c = 'b' then some '\x08'
  else if c = 'f' then some '\x0c'
  else if c = 'n' then some '\n'
  else if c = 'r' then some '\r'
  else if c = 't' then some '\t'
  else none

/-- Whether a number is the first half of a pair of surrogates. -/
def isHighSurrogate (n : Nat) : Bool := 0xD800 ≤ n && n ≤ 0xDBFF

/-- Whether a number is the second half of a pair of surrogates. -/
def isLowSurrogate (n : Nat) : Bool := 0xDC00 ≤ n && n ≤ 0xDFFF

/-- Reads what follows a backslash and the letter u: the number of a character, or of the first
half of a pair, behind which the second half has to follow. -/
def unicodeEscape : Reader Char := fun cs =>
  match hexEscape cs with
  | .error e => .error e
  | .ok (n, rest) =>
    if isLowSurrogate n then .error .malformed
    else if isHighSurrogate n then
      match literal ['\\', 'u'] rest with
      | .error e => .error e
      | .ok rest =>
        match hexEscape rest with
        | .error e => .error e
        | .ok (m, rest) =>
          if isLowSurrogate m then
            .ok (Char.ofNat ((n - 0xD800) * 0x400 + (m - 0xDC00) + 0x10000), rest)
          else .error .malformed
    else .ok (Char.ofNat n, rest)

theorem length_unicodeEscape_lt {cs rest : List Char} {c : Char}
    (h : unicodeEscape cs = .ok (c, rest)) : rest.length < cs.length := by
  unfold unicodeEscape at h
  split at h
  · simp at h
  · next n r₁ h₁ =>
    have l₁ := length_hexEscape_lt h₁
    split at h
    · simp at h
    · split at h
      · split at h
        · simp at h
        · next r₂ h₂ =>
          have l₂ := length_literal_le h₂
          split at h
          · simp at h
          · next m r₃ h₃ =>
            have l₃ := length_hexEscape_lt h₃
            split at h
            · simp only [Except.ok.injEq, Prod.mk.injEq] at h
              rw [← h.2]
              omega
            · simp at h
      · simp only [Except.ok.injEq, Prod.mk.injEq] at h
        rw [← h.2]
        omega

/-- Reads the text of a string, from behind its opening quote to behind its closing one. -/
def readString (cs : List Char) : Except Error (List Char × List Char) :=
  match cs with
  | [] => .error .unfinished
  | c :: rest =>
    if c = '"' then .ok ([], rest)
    else if c = '\\' then
      match rest with
      | [] => .error .unfinished
      | e :: rest =>
        if e = 'u' then
          match _h : unicodeEscape rest with
          | .error e => .error e
          | .ok (c, rest) => (readString rest).map fun (text, rest) => (c :: text, rest)
        else match shortEscape? e with
          | some c => (readString rest).map fun (text, rest) => (c :: text, rest)
          | none => .error .malformed
    else if c.toNat < 0x20 then .error .malformed
    else (readString rest).map fun (text, rest) => (c :: text, rest)
termination_by cs.length
decreasing_by
  · have := length_unicodeEscape_lt _h
    simp only [List.length_cons]
    omega
  · simp only [List.length_cons]
    omega
  · simp

/-- Skips a string, from behind its opening quote to behind its closing one. -/
def skipString (cs : List Char) : Except Error (List Char) :=
  match cs with
  | [] => .error .unfinished
  | c :: rest =>
    if c = '"' then .ok rest
    else if c = '\\' then
      match rest with
      | [] => .error .unfinished
      | e :: rest =>
        if e = 'u' then
          match _h : hexEscape rest with
          | .error e => .error e
          | .ok (_, rest) => skipString rest
        else if (shortEscape? e).isSome then skipString rest
        else .error .malformed
    else if c.toNat < 0x20 then .error .malformed
    else skipString rest
termination_by cs.length
decreasing_by
  · have := length_hexEscape_lt _h
    simp only [List.length_cons]
    omega
  · simp only [List.length_cons]
    omega
  · simp

theorem length_skipString_lt {cs rest : List Char} (h : skipString cs = .ok rest) :
    rest.length < cs.length := by
  fun_induction skipString cs with
  | case1 => simp at h
  | case2 => simp_all
  | case3 => simp at h
  | case4 => simp at h
  | case5 =>
    have := length_hexEscape_lt ‹hexEscape _ = _›
    grind
  | case6 => grind
  | case7 => simp at h
  | case8 => simp at h
  | case9 => grind

/-! ### Numbers -/

/-- The digits of ten. -/
def isDigit (c : Char) : Bool := '0' ≤ c && c ≤ '9'

/-- A number as far as an integer field can tell. -/
inductive Number where
  /-- A number from 0 on, without fraction and exponent. -/
  | natural (value : Nat)
  /-- The negative of a number from 1 on, without fraction and exponent. -/
  | negative (value : Nat)
  /-- A number with a fraction or an exponent, or minus zero. -/
  | inexact
  deriving DecidableEq, Repr

/-- The value of a run of digits. -/
def digitsValue (ds : List Char) : Nat := (Numeral.continue? 10 0 ds).getD 0

/-- Takes one digit or more off the front. -/
def someDigits : Reader (List Char) := fun cs =>
  match cs with
  | [] => .error .unfinished
  | c :: _ =>
    if isDigit c then .ok (cs.takeWhile isDigit, cs.dropWhile isDigit) else .error .malformed

/-- Takes the digits of an integer off the front. A zero at the front stands alone. -/
def integerDigits : Reader (List Char) := fun cs =>
  match cs with
  | '0' :: c :: rest => if isDigit c then .error .malformed else .ok (['0'], c :: rest)
  | _ => someDigits cs

/-- Takes the digits behind a point off the front, if there is a point. -/
def fractionDigits : Reader (Option (List Char))
  | '.' :: rest => (someDigits rest).map fun (ds, rest) => (some ds, rest)
  | cs => .ok (none, cs)

/-- Takes an exponent off the front, if there is one. -/
def exponent : Reader (Option Int)
  | 'e' :: rest => signed rest
  | 'E' :: rest => signed rest
  | cs => .ok (none, cs)
where
  /-- Reads the exponent behind its letter. -/
  signed : Reader (Option Int)
    | '+' :: rest => (someDigits rest).map fun (ds, rest) => (some (digitsValue ds : Int), rest)
    | '-' :: rest => (someDigits rest).map fun (ds, rest) => (some (-(digitsValue ds : Int)), rest)
    | rest => (someDigits rest).map fun (ds, rest) => (some (digitsValue ds : Int), rest)

/-- Whether the number with the given digits, times ten to the given power, rounds to a double. The
largest double is below 10 to the 309; a number rounds to it from below the middle between it and
the next power of two. -/
def inDoubleRange (digits : List Char) (power : Int) : Bool :=
  let significant := digits.dropWhile (· = '0')
  let magnitude := (significant.length : Int) + power
  if significant.isEmpty then true
  else if magnitude < 309 then true
  else if 309 < magnitude then false
  else digitsValue significant * Nat.pow 10 power.toNat
    < (1 <<< 1024 - 1 <<< 970) * Nat.pow 10 (-power).toNat

/-- Reads a number behind its sign. -/
def readUnsigned (isNegative : Bool) : Reader Number := fun cs => do
  let (whole, rest) ← integerDigits cs
  let (fraction, rest) ← fractionDigits rest
  let (power, rest) ← exponent rest
  let digits := whole ++ fraction.getD []
  if !inDoubleRange digits (power.getD 0 - (fraction.getD []).length) then throw .malformed
  if fraction.isSome || power.isSome then return (.inexact, rest)
  else if !isNegative then return (.natural (digitsValue digits), rest)
  else if digitsValue digits = 0 then return (.inexact, rest)
  else return (.negative (digitsValue digits), rest)

/-- Reads a number. -/
def readNumber : Reader Number
  | '-' :: rest => readUnsigned true rest
  | cs => readUnsigned false cs

/-- Skips the digits at the front. -/
def skipDigits (cs : List Char) : List Char := cs.dropWhile isDigit

theorem length_skipDigits_le (cs : List Char) : (skipDigits cs).length ≤ cs.length :=
  (List.dropWhile_sublist _).length_le

/-- Skips one digit or more. -/
def skipSomeDigits : List Char → Except Error (List Char)
  | [] => .error .malformed
  | c :: rest => if isDigit c then .ok (skipDigits rest) else .error .malformed

/-- Skips the digits of an integer. A zero at the front stands alone. -/
def skipIntegerDigits : List Char → Except Error (List Char)
  | '0' :: c :: rest => if isDigit c then .error .malformed else .ok (c :: rest)
  | cs => skipSomeDigits cs

/-- Skips a fraction, if there is one. -/
def skipFraction : List Char → Except Error (List Char)
  | '.' :: rest => skipSomeDigits rest
  | cs => .ok cs

/-- Skips an exponent, if there is one. -/
def skipExponent : List Char → Except Error (List Char)
  | c :: rest =>
    if c = 'e' ∨ c = 'E' then
      match rest with
      | s :: digits => if s = '+' ∨ s = '-' then skipSomeDigits digits else skipSomeDigits rest
      | [] => .error .malformed
    else .ok (c :: rest)
  | [] => .ok []

/-- Skips a number. Where the text ends inside of it, it is not a number. -/
def skipNumber (cs : List Char) : Except Error (List Char) :=
  let digits := match cs with
    | '-' :: rest => rest
    | _ => cs
  (skipIntegerDigits digits).bind fun rest => (skipFraction rest).bind skipExponent

theorem length_skipSomeDigits_lt {cs rest : List Char} (h : skipSomeDigits cs = .ok rest) :
    rest.length < cs.length := by
  unfold skipSomeDigits at h
  split at h
  · simp at h
  · next c cs =>
    split at h
    · simp only [Except.ok.injEq] at h
      have := length_skipDigits_le cs
      simp only [← h, List.length_cons]
      omega
    · simp at h

theorem length_skipIntegerDigits_lt {cs rest : List Char} (h : skipIntegerDigits cs = .ok rest) :
    rest.length < cs.length := by
  unfold skipIntegerDigits at h
  split at h
  · split at h
    · simp at h
    · simp only [Except.ok.injEq] at h
      simp [← h]
  · exact length_skipSomeDigits_lt h

theorem length_skipFraction_le {cs rest : List Char} (h : skipFraction cs = .ok rest) :
    rest.length ≤ cs.length := by
  unfold skipFraction at h
  split at h
  · have := length_skipSomeDigits_lt h
    simp only [List.length_cons]
    omega
  · simp_all

theorem length_skipExponent_le {cs rest : List Char} (h : skipExponent cs = .ok rest) :
    rest.length ≤ cs.length := by
  unfold skipExponent at h
  split at h
  · split at h
    · split at h
      · split at h
        all_goals
          have := length_skipSomeDigits_lt h
          simp only [List.length_cons] at *
          omega
      · simp at h
    · simp_all
  · simp_all

theorem length_skipNumber_lt {cs rest : List Char} (h : skipNumber cs = .ok rest) :
    rest.length < cs.length := by
  unfold skipNumber at h
  simp only [Except.bind] at h
  split at h
  · simp at h
  · next r₁ h₁ =>
    have l₁ := length_skipIntegerDigits_lt h₁
    split at h
    · simp at h
    · next r₂ h₂ =>
      have l₂ := length_skipFraction_le h₂
      have l₃ := length_skipExponent_le h
      have : (match cs with
        | '-' :: rest => rest
        | _ => cs).length ≤ cs.length := by
        split <;> simp
      omega

end ByteScan.Json
