import ByteScan.Pattern.LaneForm
import ByteScan.Pattern.MaskForm
import ByteScan.Proofs.FirstMatch
import ByteScan.Proofs.Pattern.Constructors

/-!
# Patterns from their forms

A pattern has many forms: the text that it keeps, its canonical text, its tokens, bytes with zeros
for the wildcards beside marks of the others, and marks beside the bytes that are asked for alone.
Each of them tells the tokens, so a pattern can be had back from any one. The marks beside bytes
have to be walked: a mark that is set takes the next byte, and none is left in the end
(`walk_ofTokens`). Bytes under a mask are in turn a pattern that asks for the bytes where the mask
is not zero, and for nothing else.
-/

namespace ByteScan

/-! ### Walking a mask form -/

namespace MaskForm

/-- Walks along some marks: a wildcard for a mark that is not set, and the next byte for one that
is. Gives the tokens, and the bytes that are left. -/
def walk : List Bool → List UInt8 → Option (List Token × List UInt8)
  | [], bytes => some ([], bytes)
  | false :: marks, bytes => (walk marks bytes).map fun (ts, rest) => (.wildcard :: ts, rest)
  | true :: _, [] => none
  | true :: marks, b :: bytes => (walk marks bytes).map fun (ts, rest) => (.byte b :: ts, rest)

/-- The marks and bytes of some tokens are walked back to the tokens, and to what stands behind the
bytes. -/
theorem walk_append (tokens : List Token) (rest : List UInt8) :
    walk (ofTokens tokens).mask ((ofTokens tokens).bytes ++ rest) = some (tokens, rest) := by
  induction tokens with
  | nil => rfl
  | cons t tokens ih =>
    cases t with
    | wildcard =>
      change (walk (ofTokens tokens).mask ((ofTokens tokens).bytes ++ rest)).map _ = _
      rw [ih, Option.map_some]
    | byte value =>
      change (walk (ofTokens tokens).mask ((ofTokens tokens).bytes ++ rest)).map _ = _
      rw [ih, Option.map_some]

theorem walk_ofTokens (tokens : List Token) :
    walk (ofTokens tokens).mask (ofTokens tokens).bytes = some (tokens, []) := by
  have walked := walk_append tokens []
  rwa [List.append_nil] at walked

end MaskForm

namespace Pattern

variable {p q : Pattern} {ts : List Token} {bytes mask memory : List UInt8}

/-! ### Made again -/

theorem beq_iff_tokens_eq : (p == q) = true ↔ p.tokens = q.tokens :=
  beq_iff_eq (a := p.tokens) (b := q.tokens)

theorem ofTokens_eq_error_iff : ofTokens ts = .error .empty ↔ ts = [] := by
  rw [ofTokens, ofSpelling]
  split <;> simp [*]

theorem exists_ofTokens (h : ts ≠ []) : ∃ p, ofTokens ts = .ok p ∧ p.tokens = ts :=
  ⟨⟨spellTokens ts, ts, h⟩, dif_neg h, rfl⟩

theorem parse_spell (p : Pattern) :
    ∃ q, parse p.spell = .ok q ∧ q.source = p.spell ∧ q.tokens = p.tokens := by
  obtain ⟨q, made, tokens⟩ := exists_ofTokens p.tokens_ne_nil
  obtain ⟨source, -⟩ := eq_of_ofTokens made
  have read := parse_source_of_ofTokens made
  rw [source] at read
  exact ⟨q, read, source, tokens⟩

/-! ### Bytes under a mask -/

/-- The tokens of bytes under a mask: wildcards where the mask is zero. -/
def maskedTokens (bytes mask : List UInt8) : List Token :=
  (bytes.zip mask).map fun (b, m) => if m = 0 then .wildcard else .byte b

theorem ofBytesAndMask_eq (h : bytes.length = mask.length) :
    ofBytesAndMask bytes mask = ofTokens (maskedTokens bytes mask) :=
  if_pos h

theorem length_maskedTokens (h : bytes.length = mask.length) :
    (maskedTokens bytes mask).length = bytes.length := by
  rw [maskedTokens, List.length_map, List.length_zip, ← h, Nat.min_self]

/-- A token asks for a byte where the mask is not zero. -/
theorem getElem?_maskedTokens_eq_byte {i : Nat} {value : UInt8} :
    (maskedTokens bytes mask)[i]? = some (.byte value) ↔
      bytes[i]? = some value ∧ ∃ m, mask[i]? = some m ∧ m ≠ 0 := by
  rw [maskedTokens, List.getElem?_map, Option.map_eq_some_iff]
  constructor
  · rintro ⟨⟨b, m⟩, here, made⟩
    obtain ⟨hb, hm⟩ := List.getElem?_zip_eq_some.1 here
    by_cases zero : m = 0
    · simp [zero] at made
    · simp only [if_neg zero, Token.byte.injEq] at made
      subst made
      exact ⟨hb, m, hm, zero⟩
  · rintro ⟨hb, m, hm, notZero⟩
    exact ⟨(value, m), List.getElem?_zip_eq_some.2 ⟨hb, hm⟩, if_neg notZero⟩

/-- Bytes under a mask accept what is long enough and has the bytes wherever the mask is not zero.
-/
theorem acceptsStart_maskedTokens (h : bytes.length = mask.length) :
    acceptsStart (maskedTokens bytes mask) memory ↔ bytes.length ≤ memory.length ∧
      ∀ (i : Nat) (m : UInt8), mask[i]? = some m → m ≠ 0 → memory[i]? = bytes[i]? := by
  have length := length_maskedTokens h
  constructor
  · intro accepted
    have long := length_le_of_acceptsStart accepted
    refine ⟨length ▸ long, ?_⟩
    intro i m hm notZero
    have inside : i < bytes.length := h ▸ (List.getElem?_eq_some_iff.1 hm).1
    have here := List.getElem?_eq_getElem inside
    rw [here]
    exact (acceptsStart_iff_getElem? long).1 accepted i _
      (getElem?_maskedTokens_eq_byte.2 ⟨here, m, hm, notZero⟩)
  · rintro ⟨long, all⟩
    rw [acceptsStart_iff_getElem? (length.symm ▸ long)]
    intro i value asked
    obtain ⟨hb, m, hm, notZero⟩ := getElem?_maskedTokens_eq_byte.1 asked
    rw [all i m hm notZero, hb]

theorem maskedTokens_laneForm (ts : List Token) :
    maskedTokens (LaneForm.ofTokens ts).bytes ((LaneForm.ofTokens ts).mask.map Bool.toUInt8) =
      ts := by
  induction ts with
  | nil => rfl
  | cons t ts ih =>
    cases t with
    | wildcard => exact congrArg (Token.wildcard :: ·) ih
    | byte value => exact congrArg (Token.byte value :: ·) ih

/-- The bytes and marks of a pattern make what its tokens make. -/
theorem ofBytesAndMask_laneForm (p : Pattern) :
    ofBytesAndMask p.laneForm.bytes (p.laneForm.mask.map Bool.toUInt8) = ofTokens p.tokens := by
  have length : p.laneForm.bytes.length = (p.laneForm.mask.map Bool.toUInt8).length := by
    simp [laneForm, LaneForm.ofTokens]
  rw [ofBytesAndMask_eq length, laneForm, maskedTokens_laneForm]

/-- Every pattern can be had back from each of its forms: from the text that it keeps, from its
canonical text, which is its own canonical text, from its tokens, from its bytes and marks in a lane
form, and by walking its mask form, which leaves no byte. A pattern has a token, and where there is
none there is no pattern. Bytes and a mask of one length make a pattern that matches what is long
enough and has the bytes wherever the mask is not zero. -/
theorem rebuilt_from_every_form :
    (∀ p : Pattern, p.IsBuilt →
      p.tokens ≠ [] ∧
      (∃ q, parse p.source = .ok q ∧ q == p) ∧
      (∃ q, parse p.spell = .ok q ∧ q == p ∧ q.source = p.spell ∧ q.spell = p.spell) ∧
      (∃ q, ofTokens p.tokens = .ok q ∧ q == p) ∧
      (∃ q, ofBytesAndMask p.laneForm.bytes (p.laneForm.mask.map Bool.toUInt8) = .ok q ∧ q == p) ∧
      MaskForm.walk p.maskForm.mask p.maskForm.bytes = some (p.tokens, [])) ∧
    (∀ ts, ofTokens ts = .error .empty ↔ ts = []) ∧
    ∀ bytes mask : List UInt8, bytes.length = mask.length → bytes ≠ [] →
      ∃ q, ofBytesAndMask bytes mask = .ok q ∧ ∀ memory : List UInt8,
        q.accepts memory ↔ bytes.length ≤ memory.length ∧
          ∀ (i : Nat) (m : UInt8), mask[i]? = some m → m ≠ 0 → memory[i]? = bytes[i]? := by
  refine ⟨?_, fun ts => ofTokens_eq_error_iff, ?_⟩
  · intro p built
    obtain ⟨canonical, read, source, tokens⟩ := p.parse_spell
    obtain ⟨made, ofTokens_eq, same⟩ := exists_ofTokens p.tokens_ne_nil
    refine ⟨p.tokens_ne_nil, ⟨p, built.parse_source, beq_iff_tokens_eq.2 rfl⟩,
      ⟨canonical, read, beq_iff_tokens_eq.2 tokens, source, ?_⟩,
      ⟨made, ofTokens_eq, beq_iff_tokens_eq.2 same⟩,
      ⟨made, p.ofBytesAndMask_laneForm.trans ofTokens_eq, beq_iff_tokens_eq.2 same⟩,
      MaskForm.walk_ofTokens p.tokens⟩
    rw [spell, spell, tokens]
  · intro bytes mask length some
    have any : maskedTokens bytes mask ≠ [] := by
      rwa [← List.length_pos_iff, length_maskedTokens length, List.length_pos_iff]
    obtain ⟨q, made, tokens⟩ := exists_ofTokens any
    refine ⟨q, by rw [ofBytesAndMask_eq length, made], fun memory => ?_⟩
    rw [accepts, tokens]
    exact acceptsStart_maskedTokens length

/-- A text with a small letter is not its canonical text, but reads as an equal pattern. Of a mask
it only matters what is zero, and a byte 0 that is asked for is not a wildcard. -/
theorem rebuilt_from_every_form_of_small_letters :
    ∃ p q r : Pattern, parse "?? 4a 00" = .ok p ∧ p.IsBuilt ∧
      parse "?? 4A 00" = .ok q ∧ (q == p) = true ∧ q.source ≠ p.source ∧
      MaskForm.walk [false, true, true] [0x4A, 0x00] = some (p.tokens, []) ∧
      ofBytesAndMask [0x4A, 0x07, 0x00] [0x80, 0x00, 0x01] = .ok r ∧
      r.accepts [0x4A, 0xFF, 0x00] = true ∧ ¬ r.accepts [0x4A, 0x07, 0x01] = true := by
  obtain ⟨forms, -, masks⟩ := rebuilt_from_every_form
  let p : Pattern := ⟨"?? 4a 00", [.wildcard, .byte 0x4A, .byte 0x00], by decide⟩
  have read : parse "?? 4a 00" = .ok p := rfl
  obtain ⟨-, -, ⟨q, again, equal, source, -⟩, -, -, walked⟩ := forms p (.parse read)
  obtain ⟨r, made, accepts⟩ :=
    masks [0x4A, 0x07, 0x00] [0x80, 0x00, 0x01] rfl (List.cons_ne_nil _ _)
  refine ⟨p, q, r, read, .parse read, again, equal, ?_, walked, made,
    (accepts _).2 ⟨by decide, ?_⟩, ?_⟩
  · rw [source]
    decide
  · intro i m hm notZero
    match i, hm with
    | 0, _ | 2, _ => rfl
    | 1, rfl => exact absurd rfl notZero
  · intro accepted
    exact absurd (((accepts _).1 accepted).2 2 0x01 rfl (by decide)) (by decide)

end Pattern

end ByteScan
