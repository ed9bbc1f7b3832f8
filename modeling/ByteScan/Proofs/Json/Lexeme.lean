import ByteScan.Json.Lexeme
import ByteScan.Json.Value
import ByteScan.Proofs.Fault
import ByteScan.Proofs.Json.Grammar
import ByteScan.Proofs.Text.Numeral
import Mathlib.Data.List.Basic
import Mathlib.Tactic.SplitIfs

/-!
# Lexemes read as they were written

Blanks in front of a lexeme are skipped, a literal takes itself off the front, a quoted text reads
as the text whatever characters it has, and a decimal numeral reads as its number. A number does not
say itself where it ends, so what stands behind it matters: it is over where a blank, a comma, a
closing bracket or the end of the text follows, and nothing else may follow a value.
-/

namespace ByteScan.Json

variable {c : Char} {blanks cs digits rest text : List Char} {n : Nat}

/-! ### Blanks -/

theorem skipBlank_append (h : Blanks blanks) (cs : List Char) :
    skipBlank (blanks ++ cs) = skipBlank cs := by
  induction blanks with
  | nil => rfl
  | cons c blanks ih =>
    obtain ⟨first, others⟩ := List.forall_mem_cons.1 h
    rw [List.cons_append, skipBlank, List.dropWhile_cons_of_pos first]
    exact ih others

theorem skipBlank_of_not_blank (h : isBlank c = false) (cs : List Char) :
    skipBlank (c :: cs) = c :: cs :=
  List.dropWhile_cons_of_neg (by simp [h])

theorem skipBlank_append_cons (h : Blanks blanks) (other : isBlank c = false)
    (cs : List Char) : skipBlank (blanks ++ c :: cs) = c :: cs := by
  rw [skipBlank_append h, skipBlank_of_not_blank other]

theorem isBlank_of_mem_lineBreak {indented : Bool} {depth : Nat}
    (h : c ∈ lineBreak indented depth) : isBlank c := by
  rw [lineBreak] at h
  split at h
  · rcases List.mem_cons.1 h with rfl | space
    · rfl
    · obtain rfl := List.eq_of_mem_replicate space
      rfl
  · cases h

/-- What may stand behind a value. -/
def Follows (rest : List Char) : Prop :=
  ∀ c ∈ rest.head?, isBlank c ∨ c = ',' ∨ c = ']' ∨ c = '\x7d'

theorem follows_nil : Follows [] := nofun

theorem Follows.not_number (h : Follows rest) :
    ∀ c ∈ rest.head?, isDigit c = false ∧ c ≠ '.' ∧ c ≠ 'e' ∧ c ≠ 'E' := by
  intro c first
  have cases : c = ' ' ∨ c = '\t' ∨ c = '\n' ∨ c = '\r' ∨ c = ',' ∨ c = ']' ∨ c = '\x7d' := by
    have := h c first
    simpa only [isBlank, Bool.or_eq_true, decide_eq_true_eq, or_assoc] using this
  rcases cases with rfl | rfl | rfl | rfl | rfl | rfl | rfl <;> decide

/-! ### Literals and strings -/

theorem literal_append (xs rest : List Char) : literal xs (xs ++ rest) = .ok rest := by
  induction xs with
  | nil => rfl
  | cons x xs ih => rw [List.cons_append, literal, if_pos rfl, ih]

theorem hexEscape_append (h : IsUnit digits n) (rest : List Char) :
    hexEscape (digits ++ rest) = .ok (n, rest) := by
  have number : Numeral.continue? 16 0 digits = some n := by
    rw [← Numeral.continue?_map_toLower, h.2, Numeral.zeroFilled, Numeral.continue?_zeros,
      Numeral.hex, Numeral.continue?_toDigits (by decide) (by decide)]
  obtain ⟨a, b, c, d, rfl⟩ := List.length_eq_four.mp h.1
  have four : hexFour? a b c d = some n := number
  simp only [List.cons_append, List.nil_append, hexEscape, four]

/-- No character has the number of a surrogate. -/
theorem toNat_lt_or_lt (c : Char) : c.toNat < 0xD800 ∨ 0xDFFF < c.toNat ∧ c.toNat < 0x110000 :=
  c.valid

/-- The number of a character is read as the character, if four digits are enough for it. -/
theorem unicodeEscape_unit (h : IsUnit digits c.toNat) (rest : List Char) :
    unicodeEscape (digits ++ rest) = .ok (c, rest) := by
  have valid := toNat_lt_or_lt c
  have notLow : isLowSurrogate c.toNat = false := by
    simp only [isLowSurrogate, Bool.and_eq_false_iff, decide_eq_false_iff_not]
    omega
  have notHigh : isHighSurrogate c.toNat = false := by
    simp only [isHighSurrogate, Bool.and_eq_false_iff, decide_eq_false_iff_not]
    omega
  rw [unicodeEscape, hexEscape_append h]
  simp only [notLow, notHigh, Char.ofNat_toNat, Bool.false_eq_true, if_false]

/-- A pair of surrogates is read as the character that it stands for. -/
theorem unicodeEscape_pair {high low : List Char} (large : 0x10000 ≤ c.toNat)
    (first : IsUnit high (0xD800 + (c.toNat - 0x10000) / 0x400))
    (second : IsUnit low (0xDC00 + (c.toNat - 0x10000) % 0x400)) (rest : List Char) :
    unicodeEscape (high ++ '\\' :: 'u' :: (low ++ rest)) = .ok (c, rest) := by
  have valid := toNat_lt_or_lt c
  have notLow : isLowSurrogate (0xD800 + (c.toNat - 0x10000) / 0x400) = false := by
    simp only [isLowSurrogate, Bool.and_eq_false_iff, decide_eq_false_iff_not]
    omega
  have isHigh : isHighSurrogate (0xD800 + (c.toNat - 0x10000) / 0x400) = true := by
    simp only [isHighSurrogate, Bool.and_eq_true, decide_eq_true_eq]
    omega
  have isLow : isLowSurrogate (0xDC00 + (c.toNat - 0x10000) % 0x400) = true := by
    simp only [isLowSurrogate, Bool.and_eq_true, decide_eq_true_eq]
    omega
  have joined : (0xD800 + (c.toNat - 0x10000) / 0x400 - 0xD800) * 0x400 +
      (0xDC00 + (c.toNat - 0x10000) % 0x400 - 0xDC00) + 0x10000 = c.toNat := by
    omega
  have between : literal ['\\', 'u'] ('\\' :: 'u' :: (low ++ rest)) = .ok (low ++ rest) :=
    literal_append ['\\', 'u'] (low ++ rest)
  rw [unicodeEscape, hexEscape_append first]
  simp only [notLow, isHigh, between, hexEscape_append second, isLow, joined, Char.ofNat_toNat,
    Bool.false_eq_true, if_false, if_true]

/-! How a string goes on, by what stands in front. -/

theorem readString_quote (rest : List Char) : readString ('"' :: rest) = .ok ([], rest) := by
  rw [readString.eq_def]
  rfl

theorem readString_shortEscape {e : Char} (h : shortEscape? e = some c) (cs : List Char) :
    readString ('\\' :: e :: cs) = (readString cs).map fun (text, rest) => (c :: text, rest) := by
  have notUnicode : e ≠ 'u' := by
    rintro rfl
    cases h
  rw [readString.eq_def]
  simp [notUnicode, h]

theorem readString_unicodeEscape (h : unicodeEscape cs = .ok (c, rest)) :
    readString ('\\' :: 'u' :: cs) =
      (readString rest).map fun (text, rest) => (c :: text, rest) := by
  rw [readString.eq_def]
  simp only [Char.reduceEq, if_false, if_true]
  split
  · rename_i failed
    rw [h] at failed
    cases failed
  · rename_i found
    rw [h] at found
    cases found
    rfl

theorem readString_plain (quote : c ≠ '"') (backslash : c ≠ '\\') (control : ¬ c.toNat < 0x20)
    (cs : List Char) :
    readString (c :: cs) = (readString cs).map fun (text, rest) => (c :: text, rest) := by
  rw [readString.eq_def]
  simp only [quote, backslash, control, if_false]

theorem shortEscape?_of_mem : ∀ p ∈ shortEscapes, shortEscape? p.1 = some p.2 := by
  decide

/-- What stands between quotes is read as the text that it spells. -/
theorem readString_append {body : List Char} (h : Spells body text) (rest : List Char) :
    readString (body ++ '"' :: rest) = .ok (text, rest) := by
  induction h with
  | nil => exact readString_quote rest
  | plain quote backslash control _ ih =>
    rw [List.cons_append, readString_plain quote backslash (Nat.not_lt.2 control), ih]
    rfl
  | letter escape _ ih =>
    rw [List.cons_append, List.cons_append,
      readString_shortEscape (shortEscape?_of_mem _ escape), ih]
    rfl
  | unit digits _ ih =>
    rw [List.cons_append, List.cons_append, List.append_assoc,
      readString_unicodeEscape (unicodeEscape_unit digits _), ih]
    rfl
  | pair large high low _ ih =>
    simp only [List.cons_append, List.append_assoc]
    rw [readString_unicodeEscape (unicodeEscape_pair large high low _), ih]
    rfl

theorem isUnit_of_lt : ∀ n < 0x20, IsUnit (Numeral.zeroFilled 4 (Numeral.hex n)) n := by
  unfold IsUnit
  decide

/-- A text is spelled as it is written. -/
theorem spells_escaped (text : List Char) : Spells (text.flatMap escapedChar) text := by
  induction text with
  | nil => exact .nil
  | cons c text ih =>
    rw [List.flatMap_cons, escapedChar]
    split_ifs with quote backslash _ _ _ _ _ control
    -- The escapes by a letter go alike; the control characters and the plain ones are left.
    iterate 7 exact .letter (by simp [*, shortEscapes]) ih
    · exact .unit (isUnit_of_lt _ control) ih
    · exact .plain quote backslash (Nat.le_of_not_lt control) ih

/-! ### Numbers -/

theorem skipDigits_append (h : ∀ c ∈ digits, isDigit c)
    (ends : ∀ c ∈ rest.head?, isDigit c = false) : skipDigits (digits ++ rest) = rest := by
  rw [skipDigits, List.dropWhile_append_of_pos h]
  cases rest with
  | nil => rfl
  | cons c rest => exact List.dropWhile_cons_of_neg (by simp [ends c rfl])

theorem someDigits_append (h : IsDigits digits) (ends : ∀ c ∈ rest.head?, isDigit c = false) :
    someDigits (digits ++ rest) = .ok (digits, rest) := by
  obtain ⟨some, all⟩ := h
  have dropped : (digits ++ rest).dropWhile isDigit = rest := skipDigits_append all ends
  -- What is taken and what is left make up the whole, and what is left is known.
  have taken : (digits ++ rest).takeWhile isDigit = digits := by
    have whole := @List.takeWhile_append_dropWhile _ isDigit (digits ++ rest)
    rw [dropped] at whole
    exact List.append_cancel_right whole
  cases digits with
  | nil => exact absurd rfl some
  | cons c digits =>
    rw [List.cons_append] at taken dropped ⊢
    rw [someDigits.eq_def]
    simp only [all c List.mem_cons_self, if_true, taken, dropped]

theorem isDigit_of_mem_decimal (h : c ∈ Numeral.decimal n) : isDigit c := by
  have := Numeral.isDigit_of_mem_decimal h
  simpa [isDigit, Char.isDigit, Char.le_def] using this

theorem isBlank_of_isDigit (h : isDigit c) : isBlank c = false := by
  cases blank : isBlank c with
  | false => rfl
  | true =>
    simp only [isBlank, Bool.or_eq_true, decide_eq_true_eq] at blank
    rcases blank with ((rfl | rfl) | rfl) | rfl <;> cases h

theorem exists_decimal_eq_cons (n : Nat) :
    ∃ c digits, Numeral.decimal n = c :: digits ∧ isDigit c := by
  cases numeral : Numeral.decimal n with
  | nil => exact absurd numeral (Numeral.decimal_ne_nil n)
  | cons c digits =>
    exact ⟨c, digits, rfl, isDigit_of_mem_decimal (n := n) (numeral ▸ List.mem_cons_self)⟩

theorem integerDigits_decimal (ends : ∀ c ∈ rest.head?, isDigit c = false) :
    integerDigits (Numeral.decimal n ++ rest) = .ok (Numeral.decimal n, rest) := by
  have taken := someDigits_append ⟨Numeral.decimal_ne_nil n, fun c => isDigit_of_mem_decimal⟩ ends
  rw [integerDigits.eq_def]
  split
  · rename_i c behind zero
    -- The numeral begins with a zero, so it is the zero alone.
    obtain ⟨d, digits, front, -⟩ := exists_decimal_eq_cons n
    rw [front, List.cons_append] at zero
    obtain ⟨rfl, behindZero⟩ := List.cons.inj zero
    obtain rfl := Numeral.eq_zero_of_decimal_eq_cons front
    cases front
    obtain rfl : rest = c :: behind := behindZero
    rw [ends c rfl]
    rfl
  · exact taken

/-- Without a point and an exponent behind it an integer is over. -/
theorem fractionDigits_of_follows (h : Follows rest) : fractionDigits rest = .ok (none, rest) := by
  cases rest with
  | nil => rfl
  | cons c rest =>
    have other := (h.not_number c rfl).2.1
    rw [fractionDigits.eq_def]
    split
    · rename_i point
      exact absurd (List.cons.inj point).1 other
    · rfl

theorem exponent_of_follows (h : Follows rest) : exponent rest = .ok (none, rest) := by
  cases rest with
  | nil => rfl
  | cons c rest =>
    obtain ⟨-, -, small, capital⟩ := h.not_number c rfl
    rw [exponent.eq_def]
    split
    · rename_i letter
      exact absurd (List.cons.inj letter).1 small
    · rename_i letter
      exact absurd (List.cons.inj letter).1 capital
    · rfl

theorem inDoubleRange_of_length_lt (h : digits.length < 309) : inDoubleRange digits 0 := by
  have shorter : (digits.dropWhile (· = '0')).length ≤ digits.length :=
    (List.dropWhile_sublist _).length_le
  rw [inDoubleRange]
  split_ifs with zero below
  · rfl
  · rfl
  · omega
  · omega

theorem digitsValue_decimal (n : Nat) : digitsValue (Numeral.decimal n) = n := by
  rw [digitsValue, Numeral.continue?_decimal, Option.getD_some]

/-- A decimal numeral that is not too long reads as its number. -/
theorem readNumber_decimal (h : (Numeral.decimal n).length < 309) (follows : Follows rest) :
    readNumber (Numeral.decimal n ++ rest) = .ok (.natural n, rest) := by
  have ends : ∀ c ∈ rest.head?, isDigit c = false := fun c first => (follows.not_number c first).1
  have unsigned : readUnsigned false (Numeral.decimal n ++ rest) = .ok (.natural n, rest) := by
    simp [readUnsigned, integerDigits_decimal ends, fractionDigits_of_follows follows,
      exponent_of_follows follows, inDoubleRange_of_length_lt h, digitsValue_decimal]
  rw [readNumber.eq_def]
  split
  · rename_i behind sign
    obtain ⟨c, digits, front, isDigit_c⟩ := exists_decimal_eq_cons n
    rw [front, List.cons_append] at sign
    obtain ⟨rfl, -⟩ := List.cons.inj sign
    cases isDigit_c
  · exact unsigned

end ByteScan.Json
