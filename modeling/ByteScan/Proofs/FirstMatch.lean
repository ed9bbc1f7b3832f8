import ByteScan.Bytes
import ByteScan.Pattern
import Mathlib.Order.Bounds.Basic

/-!
# The first match of a pattern

What a search is for, said without a search: `firstMatch?` is the lowest place at which tokens
accept the bytes from there on. A place behind which no bytes are left is never a match, since a
pattern has a token; so the first match is told by two facts alone, that it is a match and that no
lower place is one. Where some first places are known not to match, it is the first match of what
is left, counted from the beginning.
-/

namespace ByteScan.Pattern

variable {tokens : List Token} {bytes : List UInt8} {place n : Nat}

/-! ### Accepting bytes -/

theorem acceptsStart_append (front back : List Token) (bytes : List UInt8) :
    acceptsStart (front ++ back) bytes =
      (acceptsStart front bytes && acceptsStart back (bytes.drop front.length)) := by
  induction front generalizing bytes with
  | nil => rfl
  | cons t front ih =>
    cases bytes with
    | nil => rfl
    | cons b bytes =>
      simp only [List.cons_append, acceptsStart, List.length_cons, List.drop_succ_cons, ih,
        Bool.and_assoc]

theorem length_le_of_acceptsStart (h : acceptsStart tokens bytes) :
    tokens.length ≤ bytes.length := by
  fun_induction acceptsStart tokens bytes with
  | case1 => exact Nat.zero_le _
  | case2 => cases h
  | case3 t ts b bs ih => exact Nat.succ_le_succ (ih (Bool.and_eq_true_iff.1 h).2)

/-- Where there is a byte for each token, tokens accept if each one that asks for a byte has it at
its position. -/
theorem acceptsStart_iff_getElem? (h : tokens.length ≤ bytes.length) :
    acceptsStart tokens bytes ↔
      ∀ (k : Nat) (value : UInt8), tokens[k]? = some (.byte value) → bytes[k]? = some value := by
  induction tokens generalizing bytes with
  | nil => simp [acceptsStart]
  | cons t tokens ih =>
    cases bytes with
    | nil => cases h
    | cons b bytes =>
      have first : t.accepts b ↔ ∀ value, t = .byte value → b = value := by
        cases t with
        | wildcard => simp [Token.accepts]
        | byte value =>
          rw [Token.accepts, beq_iff_eq]
          exact ⟨fun same other asked => same ▸ (Token.byte.inj asked),
            fun all => (all value rfl).symm⟩
      rw [acceptsStart, Bool.and_eq_true, ih (Nat.le_of_succ_le_succ h), first]
      constructor
      · rintro ⟨atFirst, behind⟩ k value asked
        cases k with
        | zero => exact congrArg some (atFirst value (Option.some.inj asked))
        | succ k => exact behind k value asked
      · intro all
        refine ⟨fun value asked => ?_, fun k value asked => all (k + 1) value asked⟩
        exact Option.some.inj (all 0 value (congrArg some asked))

theorem acceptsStart_iff_forall_accepts : acceptsStart tokens bytes ↔
    ∀ (k : Nat) (t : Token), tokens[k]? = some t → ∃ b, bytes[k]? = some b ∧ t.accepts b := by
  induction tokens generalizing bytes with
  | nil => simp [acceptsStart]
  | cons t tokens ih =>
    cases bytes with
    | nil => exact iff_of_false nofun fun all => by simpa using all 0 t rfl
    | cons b bytes =>
      rw [acceptsStart, Bool.and_eq_true, ih]
      constructor
      · rintro ⟨atFirst, behind⟩ k t' asked
        cases k with
        | zero =>
          cases asked
          exact ⟨b, rfl, atFirst⟩
        | succ k => exact behind k t' asked
      · intro all
        obtain ⟨b', here, accepted⟩ := all 0 t rfl
        cases here
        exact ⟨accepted, fun k t' asked => all (k + 1) t' asked⟩

theorem acceptsStart_take (h : tokens.length ≤ n) :
    acceptsStart tokens (bytes.take n) = acceptsStart tokens bytes := by
  induction tokens generalizing bytes n with
  | nil => rfl
  | cons t tokens ih =>
    obtain ⟨n, rfl⟩ : ∃ m, n = m + 1 := ⟨n - 1, by rw [List.length_cons] at h; omega⟩
    cases bytes with
    | nil => rfl
    | cons b bytes =>
      rw [List.take_succ_cons, acceptsStart, acceptsStart, ih (Nat.le_of_succ_le_succ h)]

/-- The first `n` tokens and the tokens behind them are asked for one after the other. -/
theorem acceptsStart_eq_take_drop (n : Nat) (tokens : List Token) (bytes : List UInt8) :
    acceptsStart tokens bytes =
      (acceptsStart (tokens.take n) bytes && acceptsStart (tokens.drop n) (bytes.drop n)) := by
  conv => lhs; rw [← List.take_append_drop n tokens, acceptsStart_append]
  by_cases h : n ≤ tokens.length
  · rw [List.length_take_of_le h]
  · rw [List.drop_eq_nil_of_le (Nat.le_of_not_le h), acceptsStart, acceptsStart]

theorem acceptsStart_nil_right (h : tokens ≠ []) : acceptsStart tokens [] = false := by
  cases tokens with
  | nil => exact absurd rfl h
  | cons t tokens => rfl

theorem acceptsStart_drop_of_lt (ht : tokens ≠ []) (h : bytes.length < place + tokens.length) :
    acceptsStart tokens (bytes.drop place) = false := by
  rw [Bool.eq_false_iff]
  intro accepted
  have fits := length_le_of_acceptsStart accepted
  have := List.length_pos_iff.2 ht
  rw [List.length_drop] at fits
  omega

/-- Places that are not matches, and more of them right behind. -/
theorem not_acceptsStart_before_add
    (before : ∀ k < place, acceptsStart tokens (bytes.drop k) = false)
    (next : ∀ k < n, acceptsStart tokens (bytes.drop (place + k)) = false) :
    ∀ k < place + n, acceptsStart tokens (bytes.drop k) = false := by
  intro k hk
  by_cases early : k < place
  · exact before k early
  · have fails := next (k - place) (by omega)
    rwa [Nat.add_sub_cancel' (Nat.le_of_not_lt early)] at fails

/-! ### The first match -/

/-- A search among more places for what holds of some of the first ones only. -/
theorem find?_range_eq_of_iff {m n : Nat} {p q : Nat → Bool} (hn : n ≤ m)
    (h : ∀ k, p k ↔ k < n ∧ q k) : (List.range m).find? p = (List.range n).find? q := by
  cases found : (List.range n).find? q with
  | none =>
    refine List.find?_eq_none.2 fun k _ holds => ?_
    obtain ⟨low, holds⟩ := (h k).1 holds
    exact List.find?_eq_none.1 found k (List.mem_range.2 low) holds
  | some k =>
    rw [List.find?_range_eq_some] at found ⊢
    obtain ⟨holds, low, before⟩ := found
    rw [List.mem_range] at low ⊢
    refine ⟨(h k).2 ⟨low, holds⟩, Nat.lt_of_lt_of_le low hn, fun j hj => ?_⟩
    have fails := before j hj
    rw [Bool.not_eq_true'] at fails ⊢
    rw [Bool.eq_false_iff] at fails ⊢
    exact fun holds => fails ((h j).1 holds).2

/-- The lowest place at which the tokens accept the bytes from there on. -/
def firstMatch? (tokens : List Token) (bytes : List UInt8) : Option Nat :=
  (List.range bytes.length).find? fun place => acceptsStart tokens (bytes.drop place)

theorem firstMatch?_eq_some_iff (ht : tokens ≠ []) :
    firstMatch? tokens bytes = some place ↔
      acceptsStart tokens (bytes.drop place) ∧
        ∀ k < place, acceptsStart tokens (bytes.drop k) = false := by
  rw [firstMatch?, List.find?_range_eq_some]
  constructor
  · rintro ⟨accepted, -, before⟩
    exact ⟨accepted, fun k hk => Bool.not_eq_true' _ ▸ before k hk⟩
  · rintro ⟨accepted, before⟩
    refine ⟨accepted, ?_, fun k hk => by rw [before k hk]; rfl⟩
    refine List.mem_range.2 (Nat.lt_of_not_le fun h => ?_)
    rw [List.drop_eq_nil_of_le h, acceptsStart_nil_right ht] at accepted
    cases accepted

theorem firstMatch?_eq_none_iff (ht : tokens ≠ []) :
    firstMatch? tokens bytes = none ↔ ∀ k, acceptsStart tokens (bytes.drop k) = false := by
  rw [firstMatch?, List.find?_eq_none]
  constructor
  · intro none k
    by_cases hk : k < bytes.length
    · exact Bool.eq_false_iff.2 (none k (List.mem_range.2 hk))
    · rw [List.drop_eq_nil_of_le (Nat.le_of_not_lt hk), acceptsStart_nil_right ht]
  · exact fun none k _ => Bool.eq_false_iff.1 (none k)

/-- Where the first `n` places do not match, the first match is that of the bytes behind them. -/
theorem firstMatch?_eq_map_drop (ht : tokens ≠ [])
    (before : ∀ k < n, acceptsStart tokens (bytes.drop k) = false) :
    firstMatch? tokens bytes = (firstMatch? tokens (bytes.drop n)).map (· + n) := by
  cases found : firstMatch? tokens (bytes.drop n) with
  | none =>
    rw [firstMatch?_eq_none_iff ht] at found
    rw [Option.map_none, firstMatch?_eq_none_iff ht]
    intro k
    by_cases hk : k < n
    · exact before k hk
    · have := found (k - n)
      rwa [List.drop_drop, Nat.add_sub_cancel' (Nat.le_of_not_lt hk)] at this
  | some place =>
    rw [firstMatch?_eq_some_iff ht] at found
    obtain ⟨accepted, lower⟩ := found
    rw [List.drop_drop, Nat.add_comm] at accepted
    rw [Option.map_some, firstMatch?_eq_some_iff ht]
    refine ⟨accepted, fun k hk => ?_⟩
    by_cases hn : k < n
    · exact before k hn
    · have := lower (k - n) (by omega)
      rwa [List.drop_drop, Nat.add_sub_cancel' (Nat.le_of_not_lt hn)] at this

/-! ### Matches in the data -/

variable {p : Pattern} {data : Bytes} {start : Nat}

/-- The pattern matches at a place: it has room there, and accepts the bytes from there on. -/
def MatchesAt (p : Pattern) (data : Bytes) (place : Nat) : Prop :=
  place + p.length ≤ data.size ∧ p.accepts (data.toList.drop place)

instance (p : Pattern) (data : Bytes) (place : Nat) : Decidable (p.MatchesAt data place) :=
  inferInstanceAs (Decidable (_ ∧ _))

theorem matchesAt_iff :
    p.MatchesAt data place ↔ acceptsStart p.tokens (data.toList.drop place) := by
  refine ⟨And.right, fun accepted => ⟨Nat.le_of_not_lt fun short => ?_, accepted⟩⟩
  rw [acceptsStart_drop_of_lt p.tokens_ne_nil short] at accepted
  cases accepted

theorem MatchesAt.lt_size (h : p.MatchesAt data place) : place < data.size := by
  have := List.length_pos_iff.2 p.tokens_ne_nil
  have room := h.1
  rw [length] at room
  omega

/-- The first match from a place on, counted from the beginning of the data. -/
def firstMatchFrom? (p : Pattern) (data : Bytes) (start : Nat) : Option Nat :=
  (firstMatch? p.tokens (data.toList.drop start)).map (· + start)

/-- It is the least of the places from there on at which the pattern matches. -/
theorem firstMatchFrom?_eq_some_iff :
    p.firstMatchFrom? data start = some place ↔
      IsLeast {m | start ≤ m ∧ p.MatchesAt data m} place := by
  rw [firstMatchFrom?, Option.map_eq_some_iff]
  constructor
  · rintro ⟨k, first, rfl⟩
    obtain ⟨accepted, before⟩ := (firstMatch?_eq_some_iff p.tokens_ne_nil).1 first
    rw [List.drop_drop, Nat.add_comm] at accepted
    refine ⟨⟨Nat.le_add_left start k, matchesAt_iff.2 accepted⟩, fun m ⟨after, found⟩ => ?_⟩
    refine Nat.le_of_not_lt fun lower => ?_
    have fails := before (m - start) (by omega)
    rw [List.drop_drop, Nat.add_sub_cancel' after, matchesAt_iff.1 found] at fails
    cases fails
  · rintro ⟨⟨after, found⟩, least⟩
    refine ⟨place - start, ?_, Nat.sub_add_cancel after⟩
    rw [firstMatch?_eq_some_iff p.tokens_ne_nil, List.drop_drop, Nat.add_sub_cancel' after]
    refine ⟨matchesAt_iff.1 found, fun k hk => Bool.eq_false_iff.2 fun accepted => ?_⟩
    rw [List.drop_drop] at accepted
    have := least ⟨Nat.le_add_right start k, matchesAt_iff.2 accepted⟩
    omega

theorem firstMatchFrom?_eq_none_iff :
    p.firstMatchFrom? data start = none ↔ ∀ m, start ≤ m → ¬ p.MatchesAt data m := by
  rw [firstMatchFrom?, Option.map_eq_none_iff, firstMatch?_eq_none_iff p.tokens_ne_nil]
  constructor
  · intro none m after found
    have fails := none (m - start)
    rw [List.drop_drop, Nat.add_sub_cancel' after, matchesAt_iff.1 found] at fails
    cases fails
  · intro none k
    rw [List.drop_drop, Bool.eq_false_iff]
    exact fun accepted => none (start + k) (Nat.le_add_right start k) (matchesAt_iff.2 accepted)

end ByteScan.Pattern
