import ByteScan.Pattern
import ByteScan.Proofs.Fault
import ByteScan.Proofs.Text.Pieces

/-!
# How patterns are spelled

The case of its digits is the only freedom in the spelling of a token, so a text that reads as some
tokens becomes their canonical spelling when its letters are made capital, and the canonical
spelling reads as the same tokens again. The key of a pattern that was read from a text is therefore
its canonical spelling, and two such patterns have one key exactly if they have the same tokens.
-/

namespace ByteScan

/-! ### Tokens -/

namespace Token

variable {text : List Char} {c : Char} {d : Nat}

/-- The capital digit of a value below 16. -/
def capital (d : Nat) : Char := (Nat.digitChar d).toUpper

theorem spell_byte : ∀ h < 16, ∀ l < 16,
    spell (.byte (UInt8.ofNat (16 * h + l))) = [capital h, capital l] := by
  decide

theorem hexDigit?_capital : ∀ d < 16, Numeral.hexDigit? (capital d) = some d := by
  decide

theorem toUpper_of_low : ∀ n < 103, ∀ d ∈ Numeral.hexDigit? (Char.ofNat n),
    d < 16 ∧ (Char.ofNat n).toUpper = capital d := by
  decide

theorem toNat_lt_of_hexDigit? (h : Numeral.hexDigit? c = some d) : c.toNat < 103 := by
  rw [Numeral.hexDigit?] at h
  simp only [Char.le_def, UInt32.le_iff_toNat_le] at h
  change c.val.toNat < 103
  split at h
  · rename_i digit
    have : c.val.toNat ≤ 57 := digit.2
    omega
  · split at h
    · rename_i small
      have : c.val.toNat ≤ 102 := small.2
      omega
    · split at h
      · rename_i large
        have : c.val.toNat ≤ 70 := large.2
        omega
      · cases h

/-- A digit made capital is the capital digit of its value. -/
theorem toUpper_of_hexDigit? (h : Numeral.hexDigit? c = some d) :
    d < 16 ∧ c.toUpper = capital d := by
  have low := toNat_lt_of_hexDigit? h
  rw [← Char.ofNat_toNat c] at h ⊢
  exact toUpper_of_low c.toNat low d h

/-- A token that was read becomes its spelling when its letters are made capital. -/
theorem map_toUpper_of_parse {t : Token} {index : Nat} (h : parse text index = .ok t) :
    text.map Char.toUpper = t.spell := by
  rw [parse.eq_def] at h
  split at h
  · cases h
    rfl
  · rename_i high low _
    cases hh : Numeral.hexDigit? high with
    | none => rw [hh] at h; cases h
    | some a =>
      cases hl : Numeral.hexDigit? low with
      | none => rw [hh, hl] at h; cases h
      | some b =>
        rw [hh, hl] at h
        cases h
        obtain ⟨ha, upper⟩ := toUpper_of_hexDigit? hh
        obtain ⟨hb, upper'⟩ := toUpper_of_hexDigit? hl
        rw [spell_byte a ha b hb, ← upper, ← upper']
        rfl
  · cases h

theorem capital_ne_mark : ∀ d < 16, capital d ≠ '?' := by
  decide

theorem capital_ne_space : ∀ d < 16, capital d ≠ ' ' := by
  decide

theorem spell_byte_eq (value : UInt8) :
    spell (.byte value) = [capital (value.toNat / 16), capital (value.toNat % 16)] := by
  have bound := UInt8.toNat_lt value
  have digits := spell_byte (value.toNat / 16) (by omega) (value.toNat % 16) (by omega)
  rwa [Nat.div_add_mod, UInt8.ofNat_toNat] at digits

theorem parse_spell (t : Token) (index : Nat) : parse t.spell index = .ok t := by
  cases t with
  | wildcard => rfl
  | byte value =>
    have bound := UInt8.toNat_lt value
    have high : value.toNat / 16 < 16 := by omega
    have low : value.toNat % 16 < 16 := by omega
    rw [spell_byte_eq, parse.eq_def]
    split
    · rename_i marks
      exact absurd (List.cons.inj marks).1 (capital_ne_mark _ high)
    · rename_i digits
      cases digits
      rw [hexDigit?_capital _ high, hexDigit?_capital _ low]
      simp only [Nat.div_add_mod, UInt8.ofNat_toNat]
    · rename_i other
      exact absurd rfl (other _ _)

theorem space_not_mem_spell (t : Token) : ' ' ∉ t.spell := by
  cases t with
  | wildcard => decide
  | byte value =>
    have bound := UInt8.toNat_lt value
    have high := capital_ne_space (value.toNat / 16) (by omega)
    have low := capital_ne_space (value.toNat % 16) (by omega)
    rw [spell_byte_eq, List.mem_cons, List.mem_singleton, not_or]
    exact ⟨high.symm, low.symm⟩

end Token

/-! ### Patterns -/

namespace Pattern

variable {p q : Pattern} {text : String} {ts : List Token} {pieces : List (List Char)} {index : Nat}

/-- The pieces of a text that was read become the spellings of its tokens. -/
theorem map_toUpper_of_parseTokens (h : parseTokens pieces index = .ok ts) :
    pieces.map (·.map Char.toUpper) = ts.map Token.spell := by
  induction pieces generalizing index ts with
  | nil =>
    cases h
    rfl
  | cons piece pieces ih =>
    rw [parseTokens] at h
    cases first : Token.parse piece index with
    | error e =>
      rw [first] at h
      cases h
    | ok t =>
      cases rest : parseTokens pieces (index + 1) with
      | error e =>
        rw [first, ok_bind, rest] at h
        cases h
      | ok others =>
        rw [first, ok_bind, rest] at h
        cases h
        rw [List.map_cons, List.map_cons, Token.map_toUpper_of_parse first, ih rest]

theorem parseTokens_spell (ts : List Token) (index : Nat) :
    parseTokens (ts.map Token.spell) index = .ok ts := by
  induction ts generalizing index with
  | nil => rfl
  | cons t ts ih =>
    rw [List.map_cons, parseTokens, Token.parse_spell, ok_bind, ih]
    rfl

/-- A pattern that was read keeps its text, and has the tokens that are spelled by its pieces. -/
theorem parseTokens_of_parse (h : parse text = .ok p) :
    p.source = text ∧ parseTokens (Text.pieces ' ' text.toList) 0 = .ok p.tokens := by
  rw [parse] at h
  cases empty : text.isEmpty with
  | true =>
    rw [empty] at h
    cases h
  | false =>
    rw [empty] at h
    cases tokens : parseTokens (Text.pieces ' ' text.toList) 0 with
    | error e =>
      rw [tokens] at h
      cases h
    | ok ts =>
      rw [tokens] at h
      change ofSpelling text ts = .ok p at h
      rw [ofSpelling] at h
      split at h
      · cases h
      · cases h
        exact ⟨rfl, rfl⟩

/-- The key of a pattern that was read is its canonical spelling. -/
theorem key_eq_spell (h : parse text = .ok p) : p.key = p.spell := by
  obtain ⟨source, tokens⟩ := parseTokens_of_parse h
  rw [key, source, Text.asciiUpper_eq_intercalate, map_toUpper_of_parseTokens tokens, spell,
    spellTokens]

theorem pieces_spellTokens (h : ts ≠ []) :
    Text.pieces ' ' (spellTokens ts).toList = ts.map Token.spell := by
  rw [spellTokens, String.toList_ofList]
  refine Text.pieces_intercalate (fun none => h (List.map_eq_nil_iff.1 none)) ?_
  intro piece mem
  obtain ⟨t, -, rfl⟩ := List.mem_map.1 mem
  exact t.space_not_mem_spell

/-- The canonical spelling of a pattern tells its tokens. -/
theorem tokens_eq_of_spell_eq (h : p.spell = q.spell) : p.tokens = q.tokens := by
  have cut (r : Pattern) : Text.pieces ' ' r.spell.toList = r.tokens.map Token.spell :=
    pieces_spellTokens r.tokens_ne_nil
  have read : Except.ok p.tokens = (Except.ok q.tokens : Except PatternError _) := by
    rw [← parseTokens_spell p.tokens 0, ← cut, h, cut, parseTokens_spell]
  exact Except.ok.inj read

/-- Patterns that were read from texts have one key exactly if they have the same tokens. -/
theorem key_eq_iff {text' : String} (hp : parse text = .ok p) (hq : parse text' = .ok q) :
    p.key = q.key ↔ p.tokens = q.tokens := by
  rw [key_eq_spell hp, key_eq_spell hq]
  exact ⟨tokens_eq_of_spell_eq, fun same => by rw [spell, spell, same]⟩

end Pattern

end ByteScan
