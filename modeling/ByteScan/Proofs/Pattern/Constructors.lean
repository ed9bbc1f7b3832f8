import ByteScan.Proofs.Pattern.Language

/-!
# Where patterns come from

A pattern is read from a text or made of tokens, bytes, bytes under a mask, or parts. Whatever it
comes from, its text reads as the pattern itself: a text that was read is kept, and all others get
their canonical spelling. So what holds of patterns that were read holds of all patterns.
-/

namespace ByteScan.Pattern

variable {p : Pattern} {ts : List Token}

/-- The patterns that can be made, by the ways of making them. -/
inductive IsBuilt : Pattern → Prop where
  /-- Read from a text. -/
  | parse {text : String} {p : Pattern} : Pattern.parse text = .ok p → IsBuilt p
  /-- Made of tokens. -/
  | ofTokens {ts : List Token} {p : Pattern} : Pattern.ofTokens ts = .ok p → IsBuilt p
  /-- Made of bytes. -/
  | ofBytes {bytes : List UInt8} {p : Pattern} : Pattern.ofBytes bytes = .ok p → IsBuilt p
  /-- Made of bytes, with a wildcard for each zero of a mask. -/
  | ofBytesAndMask {bytes mask : List UInt8} {p : Pattern} :
      Pattern.ofBytesAndMask bytes mask = .ok p → IsBuilt p
  /-- Put together from parts. -/
  | ofParts {parts : List Part} {p : Pattern} : Pattern.ofParts parts = .ok p → IsBuilt p

theorem eq_of_ofTokens (h : ofTokens ts = .ok p) : p.source = spellTokens ts ∧ p.tokens = ts := by
  rw [ofTokens, ofSpelling] at h
  split at h
  · cases h
  · cases h
    exact ⟨rfl, rfl⟩

/-- The canonical text of a pattern that is made of tokens reads as the pattern. -/
theorem parse_source_of_ofTokens (h : ofTokens ts = .ok p) : Pattern.parse p.source = .ok p := by
  obtain ⟨source, tokens⟩ := eq_of_ofTokens h
  have ne : ts ≠ [] := tokens ▸ p.tokens_ne_nil
  have spelled : List.Forall₂ Token.IsSpelling (Text.pieces ' ' p.source.toList) p.tokens := by
    rw [source, pieces_spellTokens ne, tokens]
    exact parseTokens_eq_ok_iff.1 (parseTokens_spell ts 0)
  obtain ⟨⟨text, tokens, ne⟩, read, rfl, rfl⟩ := parse_of_forall₂ spelled
  exact read

theorem IsBuilt.parse_source (h : p.IsBuilt) : Pattern.parse p.source = .ok p := by
  cases h with
  | parse read =>
    obtain ⟨source, -⟩ := parseTokens_of_parse read
    rwa [source]
  | ofTokens made => exact parse_source_of_ofTokens made
  | ofBytes made => exact parse_source_of_ofTokens made
  | ofBytesAndMask made =>
    rw [Pattern.ofBytesAndMask] at made
    split at made
    · exact parse_source_of_ofTokens made
    · cases made
  | ofParts made => exact parse_source_of_ofTokens made

end ByteScan.Pattern
