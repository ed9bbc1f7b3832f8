import ByteScan.Proofs.Fault
import ByteScan.Proofs.Pattern.WordForm

/-!
# What a word form says of its tokens

The bytes of a test lie in memory order: byte `j` of its mask is full and byte `j` of its value is
what token `j` asks for, and both are zero for a wildcard and behind the last token. So a word form
tells its tokens, and its tests pass together exactly where the tokens accept.

A test can be packed without looking at places at all. The bytes are shifted in one after the other,
which leaves the first one on top; the bytes of the word are then turned around, and the zeros that
came to stand below the first byte are shifted out. `packed_eq` says that this gives the same test.
-/

namespace ByteScan

/-! ### The bytes of a word -/

namespace Word

variable {bytes : List UInt8} {j k : Nat}

/-- Byte `j` of a word, counted from the least significant one. -/
def byte (w : UInt64) (j : Nat) : UInt8 := (w >>> UInt64.ofNat (8 * j)).toUInt8

/-- The bytes of a word, the least significant first. -/
def toBytes (w : UInt64) : List UInt8 := (List.range width).map (byte w)

/-- The word with the same bytes in the opposite order. -/
def swapBytes (w : UInt64) : UInt64 := ofBytes (toBytes w).reverse

theorem toNat_byte (w : UInt64) (hj : j < width) :
    (byte w j).toNat = w.toNat / 2 ^ (8 * j) % 2 ^ 8 := by
  have small : 8 * j < 64 := by
    rw [width] at hj
    omega
  simp [byte, Nat.mod_eq_of_lt small, Nat.shiftRight_eq_div_pow]

/-- The bytes of a word are the ones that it was made of, and zeros above them. -/
theorem byte_ofBytes (h : bytes.length ≤ width) (hj : j < width) :
    byte (ofBytes bytes) j = bytes.getD j 0 := by
  rw [← UInt8.toNat_inj, toNat_byte _ hj]
  induction bytes generalizing j with
  | nil => simp [ofBytes]
  | cons b bytes ih =>
    have hb := UInt8.toNat_lt b
    rw [toNat_ofBytes_cons h]
    cases j with
    | zero =>
      rw [List.getD_cons_zero]
      omega
    | succ j =>
      have next := ih (Nat.le_of_succ_le h) (Nat.lt_of_succ_lt hj)
      have above : (2 ^ 8 * (ofBytes bytes).toNat + b.toNat) / 2 ^ 8 = (ofBytes bytes).toNat := by
        omega
      rw [List.getD_cons_succ, ← next, Nat.mul_succ, Nat.pow_add, Nat.mul_comm (2 ^ (8 * j)),
        ← Nat.div_div_eq_div_mul, above]

theorem toBytes_ofBytes (h : bytes.length ≤ width) :
    toBytes (ofBytes bytes) = bytes ++ List.replicate (width - bytes.length) 0 := by
  apply List.ext_getElem
  · simp [toBytes]
    omega
  · intro j inside _
    have hj : j < width := by simpa [toBytes] using inside
    simp only [toBytes, List.getElem_map, List.getElem_range, byte_ofBytes h hj,
      List.getElem_append]
    split
    · rename_i given
      simp [List.getD_eq_getElem?_getD, given]
    · rename_i filled
      simp [List.getD_eq_getElem?_getD, List.getElem?_eq_none (Nat.le_of_not_lt filled)]

theorem toNat_ofBytes_zeros (h : k + bytes.length ≤ width) :
    (ofBytes (List.replicate k 0 ++ bytes)).toNat = 2 ^ (8 * k) * (ofBytes bytes).toNat := by
  induction k with
  | zero => simp
  | succ k ih =>
    have shorter : (List.replicate k (0 : UInt8) ++ bytes).length < width := by
      rw [List.length_append, List.length_replicate]
      omega
    rw [List.replicate_succ, List.cons_append, toNat_ofBytes_cons shorter, ih (by omega),
      ← Nat.mul_assoc, ← Nat.pow_add, Nat.mul_succ, Nat.add_comm 8]
    rfl

/-- Turned around, the bytes of a word stand on top. Shifting out the zeros below them gives the
word of the same bytes in the opposite order. -/
theorem swapBytes_shiftRight (h : bytes.length ≤ width) (some : bytes ≠ []) :
    swapBytes (ofBytes bytes) >>> UInt64.ofNat (8 * (width - bytes.length)) =
      ofBytes bytes.reverse := by
  have pos := List.length_pos_iff.2 some
  have shift : (UInt64.ofNat (8 * (width - bytes.length))).toNat % 64 =
      8 * (width - bytes.length) := by
    rw [UInt64.toNat_ofNat', width]
    omega
  have room : width - bytes.length + bytes.reverse.length ≤ width := by
    rw [List.length_reverse]
    omega
  rw [← UInt64.toNat_inj, UInt64.toNat_shiftRight, shift, swapBytes, toBytes_ofBytes h,
    List.reverse_append, List.reverse_replicate, toNat_ofBytes_zeros room,
    Nat.shiftRight_eq_div_pow, Nat.mul_div_cancel_left _ (Nat.two_pow_pos _)]

/-- Shifts a byte into a word, below the bytes that are there. -/
def shiftIn (w : UInt64) (b : UInt8) : UInt64 := w <<< 8 ||| b.toUInt64

theorem foldl_shiftIn (bytes : List UInt8) : bytes.foldl shiftIn 0 = ofBytes bytes.reverse := by
  rw [List.foldl_eq_foldr_reverse]
  induction bytes.reverse with
  | nil => rfl
  | cons b bytes ih => rw [List.foldr_cons, ih, ofBytes, shiftIn]

/-- Bytes that were shifted in come into memory order by turning the word around and dropping the
zeros below them. -/
theorem swapBytes_foldl_shiftIn (h : bytes.length ≤ width) (some : bytes ≠ []) :
    swapBytes (bytes.foldl shiftIn 0) >>> UInt64.ofNat (8 * (width - bytes.length)) =
      ofBytes bytes := by
  have h' : bytes.reverse.length ≤ width := by rwa [List.length_reverse]
  have turned := swapBytes_shiftRight h' (List.reverse_ne_nil_iff.2 some)
  rwa [List.reverse_reverse, List.length_reverse, ← foldl_shiftIn] at turned

end Word

/-! ### Tests -/

namespace WordTest

variable {group : List Token}

/-- Shifts a token into a test, below the tokens that are there. -/
def shiftIn (test : WordTest) : Token → WordTest
  | .wildcard => ⟨test.value <<< 8, test.mask <<< 8⟩
  | .byte value => ⟨test.value <<< 8 ||| value.toUInt64, test.mask <<< 8 ||| 0xFF⟩

/-- The test of a group of tokens that are shifted in one after the other and then turned into
memory order. -/
def packed (group : List Token) : WordTest :=
  let test := group.foldl shiftIn ⟨0, 0⟩
  let padding := UInt64.ofNat (8 * (Word.width - group.length))
  ⟨Word.swapBytes test.value >>> padding, Word.swapBytes test.mask >>> padding⟩

theorem shiftIn_eq (test : WordTest) (t : Token) :
    test.shiftIn t =
      ⟨Word.shiftIn test.value (valueByte t), Word.shiftIn test.mask (maskByte t)⟩ := by
  cases t with
  | wildcard => simp [shiftIn, Word.shiftIn, valueByte, maskByte, Token.toByte?, Token.isWildcard]
  | byte value => rfl

theorem foldl_shiftIn_eq (group : List Token) (test : WordTest) :
    group.foldl shiftIn test =
      ⟨(group.map valueByte).foldl Word.shiftIn test.value,
        (group.map maskByte).foldl Word.shiftIn test.mask⟩ := by
  induction group generalizing test with
  | nil => rfl
  | cons t group ih => rw [List.foldl_cons, ih, shiftIn_eq, List.map_cons, List.map_cons,
      List.foldl_cons, List.foldl_cons]

/-- Packing token by token gives the test that lists the bytes in memory order. -/
theorem packed_eq (h : group.length ≤ Word.width) (some : group ≠ []) :
    packed group = ofTokens group := by
  have inOrder (f : Token → UInt8) :
      Word.swapBytes ((group.map f).foldl Word.shiftIn 0) >>>
        UInt64.ofNat (8 * (Word.width - group.length)) = Word.ofBytes (group.map f) := by
    have h' : (group.map f).length ≤ Word.width := by rwa [List.length_map]
    have inOrder := Word.swapBytes_foldl_shiftIn h' (mt List.map_eq_nil_iff.1 some)
    rwa [List.length_map] at inOrder
  rw [packed, foldl_shiftIn_eq, ofTokens, ← inOrder valueByte, ← inOrder maskByte]

/-- What a test has at byte `j`: all bits and the byte that token `j` asks for, or nothing. -/
theorem byte_ofTokens (h : group.length ≤ Word.width) {j : Nat} (hj : j < Word.width) :
    (Word.byte (ofTokens group).mask j, Word.byte (ofTokens group).value j) =
      match group[j]? with
      | some (.byte value) => (0xFF, value)
      | _ => (0, 0) := by
  rw [ofTokens, Word.byte_ofBytes (by rwa [List.length_map]) hj,
    Word.byte_ofBytes (by rwa [List.length_map]) hj]
  simp only [List.getD_eq_getElem?_getD, List.getElem?_map]
  rcases group[j]? with _ | _ | value <;> rfl

end WordTest

/-! ### Forms -/

namespace WordForm

open Pattern (acceptsStart)

variable {tokens : List Token} {i : Nat} {test : WordTest}

theorem getElem?_tests (tokens : List Token) (i : Nat) :
    (ofTokens tokens).tests[i]? = if 8 * i < tokens.length then
      some (WordTest.ofTokens ((tokens.drop (8 * i)).take 8)) else none := by
  rw [ofTokens, List.getElem?_map, getElem?_chunks (by decide), Word.width]
  split <;> rfl

theorem eq_of_getElem?_tests (h : (ofTokens tokens).tests[i]? = some test) :
    test = WordTest.ofTokens ((tokens.drop (8 * i)).take 8) := by
  rw [getElem?_tests] at h
  split at h
  · exact (Option.some.inj h).symm
  · cases h

theorem length_tests (tokens : List Token) :
    (ofTokens tokens).tests.length = (tokens.length + 7) / 8 := by
  rw [ofTokens, List.length_map, length_chunks (by decide)]
  rfl

theorem room_of_getElem?_tests (h : (ofTokens tokens).tests[i]? = some test) :
    8 * i + 8 ≤ (ofTokens tokens).span := by
  have inside := (List.getElem?_eq_some_iff.1 h).1
  rw [span, Word.width]
  omega

theorem length_le_span (tokens : List Token) : tokens.length ≤ (ofTokens tokens).span := by
  rw [span, length_tests, Word.width]
  omega

theorem passes_iff {bytes : List UInt8} (h : (ofTokens tokens).tests[i]? = some test)
    (room : (ofTokens tokens).span ≤ bytes.length) :
    test.passes (Word.ofBytes ((bytes.drop (8 * i)).take 8)) ↔
      ∀ j < 8, ∀ value : UInt8, tokens[8 * i + j]? = some (.byte value) →
        bytes[8 * i + j]? = some value := by
  have inside := room_of_getElem?_tests h
  have word : ((bytes.drop (8 * i)).take 8).length = 8 := by
    rw [List.length_take, List.length_drop]
    omega
  have group : ((tokens.drop (8 * i)).take 8).length ≤ ((bytes.drop (8 * i)).take 8).length := by
    rw [word]
    exact List.length_take_le _ _
  rw [eq_of_getElem?_tests h, WordTest.passes_ofBytes group (Nat.le_of_eq word),
    Pattern.acceptsStart_iff_getElem? group]
  constructor
  · intro all j hj value asked
    have := all j value (by rwa [List.getElem?_take_of_lt hj, List.getElem?_drop])
    rwa [List.getElem?_take_of_lt hj, List.getElem?_drop] at this
  · intro all j value asked
    rw [List.getElem?_take] at asked
    split at asked
    · rename_i hj
      rw [List.getElem?_take_of_lt hj, List.getElem?_drop]
      exact all j hj value (by rwa [← List.getElem?_drop])
    · cases asked

theorem forall_passes_iff {bytes : List UInt8} (room : (ofTokens tokens).span ≤ bytes.length) :
    (∀ (i : Nat) (test : WordTest), (ofTokens tokens).tests[i]? = some test →
        test.passes (Word.ofBytes ((bytes.drop (8 * i)).take 8))) ↔
      ∀ (k : Nat) (value : UInt8), tokens[k]? = some (.byte value) → bytes[k]? = some value := by
  constructor
  · intro all k value asked
    have hk : k < tokens.length := (List.getElem?_eq_some_iff.1 asked).1
    have hi : k / 8 < (ofTokens tokens).tests.length := by
      rw [length_tests]
      omega
    have passes := all (k / 8) _ (List.getElem?_eq_getElem hi)
    have := (passes_iff (List.getElem?_eq_getElem hi) room).1 passes (k % 8) (by omega) value
    rw [Nat.div_add_mod] at this
    exact this asked
  · intro all i test isTest
    exact (passes_iff isTest room).2 fun j _ value asked => all _ value asked

/-- What test `i` has at byte `j`: all bits and the byte that token `8 * i + j` asks for, or
nothing. -/
theorem byte_of_getElem?_tests (h : (ofTokens tokens).tests[i]? = some test) {j : Nat}
    (hj : j < 8) : (Word.byte test.mask j, Word.byte test.value j) =
      match tokens[8 * i + j]? with
      | some (.byte value) => (0xFF, value)
      | _ => (0, 0) := by
  rw [eq_of_getElem?_tests h, WordTest.byte_ofTokens (List.length_take_le 8 _) hj,
    List.getElem?_take_of_lt hj, List.getElem?_drop]

theorem ofTokens_injective : Function.Injective ofTokens := by
  intro tokens others same
  have length : tokens.length = others.length := congrArg WordForm.length same
  apply List.ext_getElem length
  intro k hk hk'
  have hi : k / 8 < (ofTokens tokens).tests.length := by
    rw [length_tests]
    omega
  obtain ⟨test, isTest⟩ : ∃ test, (ofTokens tokens).tests[k / 8]? = some test :=
    ⟨_, List.getElem?_eq_getElem hi⟩
  have isTest' : (ofTokens others).tests[k / 8]? = some test := by rwa [← same]
  have bytes := byte_of_getElem?_tests isTest (Nat.mod_lt k (by decide))
  rw [byte_of_getElem?_tests isTest' (Nat.mod_lt k (by decide)), Nat.div_add_mod,
    List.getElem?_eq_getElem hk, List.getElem?_eq_getElem hk'] at bytes
  -- A wildcard has no bits and a byte has all of them, so the two tokens are of one kind.
  cases first : tokens[k] <;> cases second : others[k] <;> simp_all

/-- The word encoding is exact. It has a test for each group of eight tokens, the last one maybe
shorter, and each test is the one that is packed token by token. On memory with room for all tests,
they all pass on the words that stand there exactly if each token that asks for a byte finds it at
its position, which is what matching means; what stands behind the last token does not matter. Each
byte of a test has the bits of its token and no others, so the form tells the tokens. -/
theorem encoding_exact (tokens : List Token) :
    (ofTokens tokens).tests.length = (tokens.length + 7) / 8 ∧
    (∀ group ∈ chunks 8 tokens, group ≠ [] ∧ group.length ≤ 8) ∧
    (ofTokens tokens).tests = (chunks 8 tokens).map WordTest.packed ∧
    (∀ memory : Slice, (ofTokens tokens).span ≤ memory.size →
      (∀ i < (ofTokens tokens).tests.length,
        Word.load memory (8 * i) = .ok (Word.ofBytes ((memory.toList.drop (8 * i)).take 8))) ∧
      ((∀ (i : Nat) (test : WordTest), (ofTokens tokens).tests[i]? = some test →
          test.passes (Word.ofBytes ((memory.toList.drop (8 * i)).take 8))) ↔
        ∀ (k : Nat) (value : UInt8), tokens[k]? = some (.byte value) →
          memory.toList[k]? = some value) ∧
      (acceptsStart tokens memory.toList ↔
        ∀ (k : Nat) (value : UInt8), tokens[k]? = some (.byte value) →
          memory.toList[k]? = some value)) ∧
    (∀ (i : Nat) (test : WordTest), (ofTokens tokens).tests[i]? = some test → ∀ j < 8,
      (Word.byte test.mask j, Word.byte test.value j) =
        match tokens[8 * i + j]? with
        | some (.byte value) => (0xFF, value)
        | _ => (0, 0)) ∧
    ∀ others, ofTokens others = ofTokens tokens → others = tokens := by
  have groups : ∀ group ∈ chunks 8 tokens, group ≠ [] ∧ group.length ≤ 8 := fun group isGroup =>
    ⟨ne_nil_of_mem_chunks isGroup, length_le_of_mem_chunks isGroup⟩
  refine ⟨length_tests tokens, groups, ?_, fun memory room => ⟨fun i hi => ?_, ?_, ?_⟩,
    fun i test isTest j hj => byte_of_getElem?_tests isTest hj,
    fun others same => ofTokens_injective same⟩
  · apply List.map_congr_left
    intro group isGroup
    exact (WordTest.packed_eq (groups group isGroup).2 (groups group isGroup).1).symm
  · have inside := room_of_getElem?_tests (List.getElem?_eq_getElem hi)
    rw [Word.load, Word.width, Slice.load_eq_ok (Nat.le_trans inside room), map_ok]
  · exact forall_passes_iff (by rwa [Slice.length_toList])
  · apply Pattern.acceptsStart_iff_getElem?
    rw [Slice.length_toList]
    exact Nat.le_trans (length_le_span tokens) room

/-- Nine tokens make two tests. They pass on sixteen bytes whose last seven are nobody's business,
and the second test has one byte. -/
theorem encoding_exact_across_words :
    ∃ (tokens : List Token) (memory : Slice) (test : WordTest),
      tokens = [.byte 0x04, .byte 0x25, .wildcard, .byte 0x00, .wildcard, .byte 0xFF, .byte 0x06,
        .byte 0x07, .byte 0x2B] ∧
      (ofTokens tokens).span ≤ memory.size ∧ memory.size = 16 ∧
      (∀ (i : Nat) (test : WordTest), (ofTokens tokens).tests[i]? = some test →
        test.passes (Word.ofBytes ((memory.toList.drop (8 * i)).take 8))) ∧
      (ofTokens tokens).tests[1]? = some test ∧
      (Word.byte test.mask 0, Word.byte test.value 0) = (0xFF, 0x2B) ∧
      (Word.byte test.mask 1, Word.byte test.value 1) = (0, 0) := by
  let tokens : List Token := [.byte 0x04, .byte 0x25, .wildcard, .byte 0x00, .wildcard, .byte 0xFF,
    .byte 0x06, .byte 0x07, .byte 0x2B]
  let memory := Slice.ofBytes #[0x04, 0x25, 0x77, 0x00, 0x00, 0xFF, 0x06, 0x07, 0x2B, 0xEE, 0xEE,
    0xEE, 0xEE, 0xEE, 0xEE, 0xEE]
  have room : (ofTokens tokens).span ≤ memory.size := by
    rw [span, length_tests]
    decide
  obtain ⟨-, -, -, passes, bytes, -⟩ := encoding_exact tokens
  obtain ⟨-, pass, accepts⟩ := passes memory room
  have second : (ofTokens tokens).tests[1]? = some (WordTest.ofTokens [.byte 0x2B]) :=
    getElem?_tests tokens 1
  exact ⟨tokens, memory, WordTest.ofTokens [.byte 0x2B], rfl, room, rfl,
    pass.2 (accepts.1 (by decide)), second, bytes 1 _ second 0 (by decide),
    bytes 1 _ second 1 (by decide)⟩

end WordForm

end ByteScan
