import ByteScan.Text.Numeral

/-!
# Numerals read as they were written

A numeral reads as the number that it was written for, in every base up to 16. Zeros in front of it
do not count, and neither does the case of its letters. A decimal numeral consists of digits only,
has at least one of them, and begins with a zero only if the number is zero.
-/

namespace ByteScan.Numeral

variable {base n m d : Nat} {c : Char} {digits others : List Char} {w : UInt64}

/-! ### Digits -/

theorem continue?_append (base n : Nat) (digits others : List Char) :
    continue? base n (digits ++ others) =
      (continue? base n digits).bind fun m => continue? base m others := by
  induction digits generalizing n with
  | nil => rfl
  | cons c digits ih =>
    rw [List.cons_append, continue?, continue?]
    cases digit? base c with
    | none => rfl
    | some d => exact ih _

theorem hexDigit?_digitChar : ∀ d < 16, hexDigit? d.digitChar = some d := by
  decide

theorem digit?_digitChar (hd : d < base) (hbase : base ≤ 16) :
    digit? base d.digitChar = some d := by
  rw [digit?, hexDigit?_digitChar d (by omega), Option.filter_some, if_pos (decide_eq_true hd)]

theorem continue?_toDigits (several : 1 < base) (few : base ≤ 16) (n : Nat) :
    continue? base 0 (Nat.toDigits base n) = some n := by
  induction n using Nat.strongRecOn with
  | ind n ih =>
    by_cases long : base ≤ n
    · have last := digit?_digitChar (Nat.mod_lt n (by omega)) few
      have shorter : n / base < n := Nat.div_lt_self (by omega) several
      rw [Nat.toDigits_of_base_le several long, continue?_append, ih _ shorter, Option.bind_some,
        continue?, last, Option.bind_some, continue?, Nat.div_add_mod']
    · have single := Nat.lt_of_not_le long
      rw [Nat.toDigits_of_lt_base single, continue?, digit?_digitChar single few, Option.bind_some,
        continue?, Nat.zero_mul, Nat.zero_add]

/-- What is read as a number consists of digits. -/
theorem digit?_ne_none_of_mem (read : continue? base n digits = some m) (h : c ∈ digits) :
    digit? base c ≠ none := by
  induction digits generalizing n with
  | nil => cases h
  | cons first digits ih =>
    rw [continue?] at read
    obtain ⟨d, here, read⟩ := Option.bind_eq_some_iff.1 read
    rcases List.mem_cons.1 h with rfl | behind
    · rw [here]
      exact Option.some_ne_none d
    · exact ih read behind

/-! ### Decimal numerals -/

theorem decimal_ne_nil (n : Nat) : decimal n ≠ [] := Nat.toDigits_ne_nil

theorem isDigit_of_mem_decimal (h : c ∈ decimal n) : c.isDigit :=
  Nat.isDigit_of_mem_toDigits (by decide) (by decide) h

/-- The last digit of a number with several digits stands behind the numeral of the others. -/
theorem decimal_of_le (h : 10 ≤ n) : decimal n = decimal (n / 10) ++ [(n % 10).digitChar] :=
  Nat.toDigits_of_base_le (by decide) h

theorem decimal_of_lt (h : n < 10) : decimal n = [n.digitChar] := Nat.toDigits_of_lt_base h

theorem continue?_decimal (n : Nat) : continue? 10 0 (decimal n) = some n :=
  continue?_toDigits (by decide) (by decide) n

theorem digitChar_eq_zero : ∀ d < 10, d.digitChar = '0' → d = 0 := by
  decide

/-- Only the numeral of zero begins with a zero. -/
theorem eq_zero_of_decimal_eq_cons (h : decimal n = '0' :: digits) : n = 0 := by
  induction n using Nat.strongRecOn generalizing digits with
  | ind n ih =>
    by_cases several : 10 ≤ n
    · rw [decimal_of_le several] at h
      cases front : decimal (n / 10) with
      | nil => exact absurd front (decimal_ne_nil _)
      | cons c others =>
        rw [front, List.cons_append] at h
        obtain ⟨rfl, -⟩ := List.cons.inj h
        have := ih (n / 10) (by omega) front
        omega
    · rw [decimal_of_lt (Nat.lt_of_not_le several)] at h
      exact digitChar_eq_zero n (by omega) (List.cons.inj h).1

/-! ### Hexadecimal numerals -/

/-- A text is a numeral of a word: its hexadecimal digits, with letters of either case, behind any
number of zeros. -/
def IsHex (digits : List Char) (w : UInt64) : Prop :=
  ∃ zeros, digits.map Char.toLower = List.replicate zeros '0' ++ hex w.toNat

theorem continue?_zeros (zeros : Nat) (digits : List Char) :
    continue? 16 0 (List.replicate zeros '0' ++ digits) = continue? 16 0 digits := by
  induction zeros with
  | zero => rfl
  | succ zeros ih => exact ih

theorem toLower_eq_or_le (c : Char) : c.toLower = c ∨ c.toNat ≤ 90 := by
  by_cases capital : c.val ≥ 'A'.val ∧ c.val ≤ 'Z'.val
  · exact .inr (UInt32.le_iff_toNat_le.1 capital.2)
  · exact .inl (dif_neg capital)

theorem hexDigit?_toLower_of_low :
    ∀ n < 91, hexDigit? (Char.ofNat n).toLower = hexDigit? (Char.ofNat n) := by
  decide

theorem hexDigit?_toLower (c : Char) : hexDigit? c.toLower = hexDigit? c := by
  rcases toLower_eq_or_le c with same | low
  · rw [same]
  · have read := hexDigit?_toLower_of_low c.toNat (by omega)
    rwa [Char.ofNat_toNat] at read

theorem continue?_map_toLower (base n : Nat) (digits : List Char) :
    continue? base n (digits.map Char.toLower) = continue? base n digits := by
  induction digits generalizing n with
  | nil => rfl
  | cons c digits ih =>
    rw [List.map_cons, continue?, continue?, digit?, digit?, hexDigit?_toLower]
    exact congrArg _ (funext fun d => ih _)

theorem IsHex.continue? (h : IsHex digits w) : continue? 16 0 digits = some w.toNat := by
  obtain ⟨zeros, small⟩ := h
  rw [← continue?_map_toLower, small, continue?_zeros, hex,
    continue?_toDigits (by decide) (by decide)]

theorem IsHex.notMem (h : IsHex digits w) (other : digit? 16 c = none) : c ∉ digits :=
  fun mem => digit?_ne_none_of_mem h.continue? mem other

theorem IsHex.word? (h : IsHex digits w) : word? 16 digits = some w := by
  cases digits with
  | nil =>
    obtain ⟨zeros, small⟩ := h
    have none := (List.append_eq_nil_iff.1 small.symm).2
    exact absurd none Nat.toDigits_ne_nil
  | cons c digits =>
    have noSign : c ≠ '+' := by
      rintro rfl
      exact h.notMem (by decide) List.mem_cons_self
    have number : natural? 16 (c :: digits) = some w.toNat := h.continue?
    rw [Numeral.word?.eq_def]
    split
    · rename_i sign
      exact absurd (List.cons.inj sign).1 noSign
    · simp only [number, Option.bind_some, if_pos w.toNat_lt_size, UInt64.ofNat_toNat]

end ByteScan.Numeral
