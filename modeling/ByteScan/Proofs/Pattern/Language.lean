import ByteScan.Proofs.Pattern.Spelling
import Mathlib.Data.List.Forall2

/-!
# The language of patterns

Which texts are patterns, said without a reader. A hexadecimal digit is found in one of two rows of
sixteen characters, and its place there is its value; a token is two question marks or two such
digits; a pattern is a text whose pieces between single spaces are all tokens. Reading accepts these
texts and no others: `parse_eq_ok_iff` for one token, `parseTokens_eq_ok_iff` for a list of pieces.
Where it refuses, there is a first piece that is no token, and that piece is what the error tells.
It makes no difference whether a token is read by its characters or by its bytes in UTF-8.
-/

namespace ByteScan

/-! ### Cutting -/

namespace Text

variable {sep : Char} {cs : List Char} {ps : List (List Char)}

/-- The pieces of a text between the separators: joined with separators they are the text, and they
hold none themselves. -/
structure IsCut (sep : Char) (cs : List Char) (ps : List (List Char)) : Prop where
  /-- An empty text has one piece, which is empty. -/
  ne_nil : ps ≠ []
  /-- No separator is left in a piece. -/
  notMem : ∀ p ∈ ps, sep ∉ p
  /-- Nothing but the separators is lost. -/
  joined : [sep].intercalate ps = cs

theorem notMem_of_mem_pieces {p : List Char} (h : p ∈ pieces sep cs) : sep ∉ p := by
  induction cs generalizing p with
  | nil =>
    obtain rfl := List.mem_singleton.1 h
    exact List.not_mem_nil
  | cons c cs ih =>
    rw [pieces] at h
    split at h
    · rcases List.mem_cons.1 h with rfl | later
      · exact List.not_mem_nil
      · exact ih later
    · rename_i other
      split at h
      · rename_i none
        exact absurd none (pieces_ne_nil sep cs)
      · rename_i q qs split
        rcases List.mem_cons.1 h with rfl | later
        · have inner : sep ∉ q := ih (split ▸ List.mem_cons_self)
          simp [Ne.symm other, inner]
        · exact ih (split ▸ List.mem_cons_of_mem q later)

theorem isCut_iff : IsCut sep cs ps ↔ ps = pieces sep cs := by
  constructor
  · rintro ⟨ne, clean, rfl⟩
    exact (pieces_intercalate ne clean).symm
  · rintro rfl
    exact ⟨pieces_ne_nil sep cs, fun p => notMem_of_mem_pieces, intercalate_pieces sep cs⟩

/-! ### Bytes of a text -/

/-- The bytes of a text in UTF-8, each as the character of its number. -/
def bytewise (cs : List Char) : List Char :=
  (cs.flatMap String.utf8EncodeChar).map fun b => Char.ofNat b.toNat

theorem bytewise_cons (c : Char) (cs : List Char) :
    bytewise (c :: cs) = bytewise [c] ++ bytewise cs := by
  simp [bytewise]

theorem bytewise_singleton {c : Char} (h : c.toNat < 128) : bytewise [c] = [c] := by
  have one : c.utf8Size = 1 :=
    Char.utf8Size_eq_one_iff.2 (UInt32.le_iff_toNat_le.2 (Nat.le_of_lt_succ h))
  have byte : c.val.toUInt8.toNat = c.toNat := Nat.mod_eq_of_lt (Nat.lt_trans h (by decide))
  rw [bytewise, List.flatMap_singleton, String.utf8EncodeChar_eq_singleton one, List.map_singleton,
    byte, Char.ofNat_toNat]

theorem le_toNat_of_last_byte :
    ∀ n < 64, 128 ≤ (Char.ofNat (UInt8.ofNat (n + 128)).toNat).toNat := by
  decide

/-- The last byte of a character outside of ASCII is outside of ASCII too. -/
theorem exists_mem_bytewise {c : Char} (h : 128 ≤ c.toNat) : ∃ d ∈ bytewise [c], 128 ≤ d.toNat := by
  have last : UInt8.ofNat (c.val.toNat % 64 + 128) ∈ String.utf8EncodeChar c := by
    have long : ¬ c.val.toNat ≤ 127 := Nat.not_le.2 h
    rw [String.utf8EncodeChar.eq_def]
    dsimp only
    rw [if_neg long]
    split
    · simp
    · split <;> simp
  refine ⟨_, List.mem_map.2 ⟨_, List.mem_flatMap.2 ⟨c, List.mem_singleton_self c, last⟩, rfl⟩, ?_⟩
  exact le_toNat_of_last_byte _ (Nat.mod_lt _ (by decide))

theorem bytewise_of_ascii (h : ∀ c ∈ cs, c.toNat < 128) : bytewise cs = cs := by
  induction cs with
  | nil => rfl
  | cons c cs ih =>
    obtain ⟨first, others⟩ := List.forall_mem_cons.1 h
    rw [bytewise_cons, bytewise_singleton first, ih others, List.singleton_append]

theorem ascii_of_ascii_bytewise (h : ∀ c ∈ bytewise cs, c.toNat < 128) :
    ∀ c ∈ cs, c.toNat < 128 := by
  induction cs with
  | nil => exact nofun
  | cons c cs ih =>
    rw [bytewise_cons, List.forall_mem_append] at h
    refine List.forall_mem_cons.2 ⟨?_, ih h.2⟩
    by_contra high
    obtain ⟨d, mem, large⟩ := exists_mem_bytewise (Nat.not_lt.1 high)
    exact absurd (h.1 d mem) (Nat.not_lt.2 large)

end Text

/-! ### Tokens -/

namespace Token

variable {c : Char} {d : Nat} {text : List Char} {index : Nat} {t : Token}

/-- A character is the hexadecimal digit of a value, as a small or as a capital letter. -/
def IsDigit (c : Char) (d : Nat) : Prop :=
  "0123456789abcdef".toList[d]? = some c ∨ "0123456789ABCDEF".toList[d]? = some c

instance (c : Char) (d : Nat) : Decidable (IsDigit c d) := inferInstanceAs (Decidable (_ ∨ _))

/-- A text spells a token: two question marks, or two digits that give the value of a byte. -/
inductive IsSpelling : List Char → Token → Prop where
  /-- Two question marks are the wildcard. -/
  | wildcard : IsSpelling ['?', '?'] .wildcard
  /-- Two digits are a byte, the first one for the higher half. -/
  | byte {high low : Char} {h l : Nat} : IsDigit high h → IsDigit low l →
      IsSpelling [high, low] (.byte (UInt8.ofNat (16 * h + l)))

/-- A text that spells some token. -/
def IsToken (text : List Char) : Prop := ∃ t, IsSpelling text t

theorem isDigit_of_low :
    ∀ n < 103, ∀ d ∈ Numeral.hexDigit? (Char.ofNat n), IsDigit (Char.ofNat n) d := by
  decide

theorem hexDigit?_of_row : ∀ d < 16, "0123456789abcdef".toList[d]?.bind Numeral.hexDigit? = some d ∧
    "0123456789ABCDEF".toList[d]?.bind Numeral.hexDigit? = some d := by
  decide

/-- A digit is read as its value, and nothing else is read as a digit. -/
theorem hexDigit?_eq_some_iff : Numeral.hexDigit? c = some d ↔ IsDigit c d := by
  constructor
  · intro h
    have low := toNat_lt_of_hexDigit? h
    rw [← Char.ofNat_toNat c] at h ⊢
    exact isDigit_of_low c.toNat low d h
  · rintro (row | row)
    · have bound : d < 16 := (List.getElem?_eq_some_iff.1 row).1
      have read := (hexDigit?_of_row d bound).1
      rwa [row] at read
    · have bound : d < 16 := (List.getElem?_eq_some_iff.1 row).1
      have read := (hexDigit?_of_row d bound).2
      rwa [row] at read

/-- A question mark is no digit, so no text spells both a wildcard and a byte. -/
theorem not_isDigit_mark (d : Nat) : ¬ IsDigit '?' d := by
  rw [← hexDigit?_eq_some_iff]
  exact nofun

theorem parse_eq_ok_iff : parse text index = .ok t ↔ IsSpelling text t := by
  constructor
  · intro h
    rw [parse.eq_def] at h
    split at h
    · cases h
      exact .wildcard
    · rename_i high low _
      split at h
      · rename_i h' l' isHigh isLow
        cases h
        exact .byte (hexDigit?_eq_some_iff.1 isHigh) (hexDigit?_eq_some_iff.1 isLow)
      · cases h
    · cases h
  · rintro (_ | ⟨isHigh, isLow⟩)
    · rfl
    · rename_i high low h l
      have notMark : ¬ (high = '?' ∧ low = '?') :=
        fun marks => not_isDigit_mark h (marks.1 ▸ isHigh)
      rw [parse.eq_def]
      split
      · rename_i marks
        cases marks
        exact absurd ⟨rfl, rfl⟩ notMark
      · rename_i digits
        cases digits
        rw [hexDigit?_eq_some_iff.2 isHigh, hexDigit?_eq_some_iff.2 isLow]
      · rename_i other
        exact absurd rfl (other _ _)

theorem parse_eq_error_iff {e : PatternError} :
    parse text index = .error e ↔
      ¬ IsToken text ∧ e = .invalidToken (String.ofList text) index := by
  have refused {e' : PatternError} (h : parse text index = .error e') :
      e' = .invalidToken (String.ofList text) index := by
    rw [parse.eq_def] at h
    split at h
    · cases h
    · split at h <;> cases h
      rfl
    · cases h
      rfl
  cases outcome : parse text index with
  | ok t =>
    have spelled : IsToken text := ⟨t, parse_eq_ok_iff.1 outcome⟩
    simp [spelled]
  | error e' =>
    have notToken : ¬ IsToken text := by
      rintro ⟨t, spelled⟩
      rw [parse_eq_ok_iff.2 spelled] at outcome
      cases outcome
    rw [refused outcome]
    simp [notToken, eq_comm]

theorem toNat_lt_of_mem_spelling (h : IsSpelling text t) : ∀ c ∈ text, c.toNat < 128 := by
  have digit {c : Char} {d : Nat} (isDigit : IsDigit c d) : c.toNat < 128 :=
    Nat.lt_trans (toNat_lt_of_hexDigit? (hexDigit?_eq_some_iff.2 isDigit)) (by decide)
  cases h with
  | wildcard => simp
  | byte isHigh isLow => simp [digit isHigh, digit isLow]

/-- A token can be told from the bytes of its text alone: read one by one, each as the character of
its number, they spell what the text spells. A character of two bytes is no pair of digits. -/
theorem isSpelling_bytewise : IsSpelling (Text.bytewise text) t ↔ IsSpelling text t := by
  constructor
  · intro h
    have ascii := Text.ascii_of_ascii_bytewise (toNat_lt_of_mem_spelling h)
    rwa [Text.bytewise_of_ascii ascii] at h
  · intro h
    rwa [Text.bytewise_of_ascii (toNat_lt_of_mem_spelling h)]

end Token

/-! ### Patterns -/

namespace Pattern

open Token (IsSpelling IsToken)

variable {ps : List (List Char)} {index : Nat} {ts : List Token} {text : String}

/-- Pieces are read as the tokens that they spell, one token for each piece. -/
theorem parseTokens_eq_ok_iff : parseTokens ps index = .ok ts ↔ List.Forall₂ IsSpelling ps ts := by
  induction ps generalizing index ts with
  | nil => simp [parseTokens, eq_comm]
  | cons piece ps ih =>
    rw [parseTokens]
    constructor
    · intro h
      obtain ⟨t, first, h⟩ := exists_of_bind_eq_ok h
      obtain ⟨others, rest, h⟩ := exists_of_bind_eq_ok h
      cases h
      exact .cons (Token.parse_eq_ok_iff.1 first) (ih.1 rest)
    · rintro (_ | ⟨first, rest⟩)
      rw [Token.parse_eq_ok_iff.2 first, ok_bind, ih.2 rest]
      rfl

/-- The first piece that is no token decides the error: all before it are tokens, and its text and
its position are told. -/
theorem parseTokens_eq_error_iff {e : PatternError} : parseTokens ps index = .error e ↔
    ∃ front bad back, ps = front ++ bad :: back ∧ (∀ p ∈ front, IsToken p) ∧ ¬ IsToken bad ∧
      e = .invalidToken (String.ofList bad) (index + front.length) := by
  induction ps generalizing index with
  | nil => simp [parseTokens]
  | cons piece ps ih =>
    rw [parseTokens]
    cases first : Token.parse piece index with
    | error e' =>
      obtain ⟨notToken, rfl⟩ := Token.parse_eq_error_iff.1 first
      constructor
      · intro h
        cases h
        exact ⟨[], piece, ps, rfl, List.forall_mem_nil _, notToken, rfl⟩
      · rintro ⟨front, bad, back, split, good, -, rfl⟩
        cases front with
        | nil =>
          cases split
          rfl
        | cons p front =>
          cases split
          exact absurd (good piece List.mem_cons_self) notToken
    | ok t =>
      have isToken : IsToken piece := ⟨t, Token.parse_eq_ok_iff.1 first⟩
      have later : (parseTokens ps (index + 1) >>= fun tokens => pure (t :: tokens)) = .error e ↔
          parseTokens ps (index + 1) = .error e := by
        cases parseTokens ps (index + 1) <;> simp
      rw [ok_bind, later, ih]
      constructor
      · rintro ⟨front, bad, back, rfl, good, notToken, rfl⟩
        refine ⟨piece :: front, bad, back, rfl, ?_, notToken, ?_⟩
        · simpa using ⟨isToken, good⟩
        · rw [List.length_cons]
          congr 1
          omega
      · rintro ⟨front, bad, back, split, good, notToken, rfl⟩
        cases front with
        | nil =>
          cases split
          exact absurd isToken notToken
        | cons p front =>
          cases split
          refine ⟨front, bad, back, rfl, fun p mem => good p (List.mem_cons_of_mem _ mem),
            notToken, ?_⟩
          rw [List.length_cons]
          congr 1
          omega

/-- Apart from the empty text, the pieces of a text decide what is read. -/
theorem parse_eq_of_ne (h : text ≠ "") :
    parse text = (parseTokens (Text.pieces ' ' text.toList) 0).bind (ofSpelling text) := by
  have nonempty : text.isEmpty = false := by simpa using h
  rw [parse, nonempty]
  rfl

theorem not_forall₂_pieces_empty (ts : List Token) :
    ¬ List.Forall₂ IsSpelling (Text.pieces ' ' "".toList) ts := by
  rintro (_ | ⟨⟨⟩, _⟩)

/-- Where the pieces spell some tokens, the text is read as the pattern that keeps it and has these
tokens. -/
theorem parse_of_forall₂ (h : List.Forall₂ IsSpelling (Text.pieces ' ' text.toList) ts) :
    ∃ p, parse text = .ok p ∧ p.source = text ∧ p.tokens = ts := by
  have ne : text ≠ "" := by
    rintro rfl
    exact not_forall₂_pieces_empty ts h
  have some : ts ≠ [] := by
    rintro rfl
    exact Text.pieces_ne_nil _ _ (List.forall₂_nil_right_iff.1 h)
  refine ⟨⟨text, ts, some⟩, ?_, rfl, rfl⟩
  rw [parse_eq_of_ne ne, parseTokens_eq_ok_iff.2 h]
  exact dif_neg some

theorem parse_eq_error_iff {e : PatternError} (h : text ≠ "") :
    parse text = .error e ↔ parseTokens (Text.pieces ' ' text.toList) 0 = .error e := by
  rw [parse_eq_of_ne h]
  cases outcome : parseTokens (Text.pieces ' ' text.toList) 0 with
  | error e' => simp [Except.bind]
  | ok ts =>
    obtain ⟨p, read, -, -⟩ := parse_of_forall₂ (parseTokens_eq_ok_iff.1 outcome)
    rw [parse_eq_of_ne h, outcome] at read
    simp [read]

/-- Reading accepts exactly the language of patterns. A text is cut at its spaces in one way, and a
piece spells the same token by its characters and by its bytes. The empty text is refused as such.
Every other text is accepted if each of its pieces spells a token, and has these tokens; or else its
first piece that spells none is told, with its position. -/
theorem parse_accepts_language (text : String) :
    (∀ ps, Text.IsCut ' ' text.toList ps ↔ ps = Text.pieces ' ' text.toList) ∧
    (∀ piece token, IsSpelling (Text.bytewise piece) token ↔ IsSpelling piece token) ∧
    (parse text = .error .empty ↔ text = "") ∧
    (∀ p, parse text = .ok p ↔
      p.source = text ∧ List.Forall₂ IsSpelling (Text.pieces ' ' text.toList) p.tokens) ∧
    ∀ token index, parse text = .error (.invalidToken token index) ↔
      text ≠ "" ∧ ∃ front bad back, Text.pieces ' ' text.toList = front ++ bad :: back ∧
        (∀ piece ∈ front, IsToken piece) ∧ ¬ IsToken bad ∧
        token = String.ofList bad ∧ index = front.length := by
  refine ⟨fun ps => Text.isCut_iff, fun piece token => Token.isSpelling_bytewise, ⟨?_, ?_⟩,
    fun p => ⟨?_, ?_⟩, fun token index => ?_⟩
  · intro h
    by_contra ne
    obtain ⟨_, _, _, _, _, _, isInvalid⟩ := parseTokens_eq_error_iff.1 ((parse_eq_error_iff ne).1 h)
    cases isInvalid
  · rintro rfl
    rfl
  · intro h
    obtain ⟨source, tokens⟩ := parseTokens_of_parse h
    exact ⟨source, parseTokens_eq_ok_iff.1 tokens⟩
  · rintro ⟨rfl, spelled⟩
    obtain ⟨⟨source, tokens, ne⟩, read, rfl, rfl⟩ := parse_of_forall₂ spelled
    exact read
  · by_cases empty : text = ""
    · subst empty
      exact iff_of_false nofun fun h => h.1 rfl
    · simp [parse_eq_error_iff empty, parseTokens_eq_error_iff, empty]

/-- The first piece that is no token is told and nothing behind it, be it an empty piece or a letter
of two bytes. Without it the text is accepted, with digits of either case. -/
theorem parse_accepts_language_up_to_half_wildcard :
    ¬ IsToken ['?', '1'] ∧ parse "4a ?? ?1  é" = .error (.invalidToken "?1" 2) ∧
      parse "4a ??" = .ok ⟨"4a ??", [.byte 0x4A, .wildcard], by decide⟩ := by
  have half : ¬ IsToken ['?', '1'] := by
    rintro ⟨t, spelled⟩
    cases spelled with
    | byte high low => exact Token.not_isDigit_mark _ high
  have digits : IsSpelling ['4', 'a'] (.byte 0x4A) :=
    .byte (h := 4) (l := 10) (by decide) (by decide)
  obtain ⟨-, -, -, -, refused⟩ := parse_accepts_language "4a ?? ?1  é"
  obtain ⟨-, -, -, accepted, -⟩ := parse_accepts_language "4a ??"
  refine ⟨half, (refused "?1" 2).2 ⟨by decide, [['4', 'a'], ['?', '?']], ['?', '1'], [[], ['é']],
    rfl, ?_, half, rfl, rfl⟩, (accepted _).2 ⟨rfl, .cons digits (.cons .wildcard .nil)⟩⟩
  intro piece mem
  simp only [List.mem_cons, List.not_mem_nil, or_false] at mem
  rcases mem with rfl | rfl
  · exact ⟨_, digits⟩
  · exact ⟨_, .wildcard⟩

end Pattern

end ByteScan
