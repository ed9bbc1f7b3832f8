import ByteScan.Proofs.Scanner.Search

/-!
# All matches of a pattern

The search for all matches begins anew right behind each match, so every step of it finds the least
match that is left and leaves exactly the higher ones. It comes to an end because each match lies
behind the one before it and inside of the region. What it gives are the places at which the pattern
matches, each once and in ascending order.
-/

namespace ByteScan.Scanner

variable {s : Scanner} {p : Pattern} {data : Bytes} {start place : Nat}

/-- The places from `start` on at which a pattern matches, in ascending order. -/
def matchesFrom (p : Pattern) (data : Bytes) (start : Nat) : List Nat :=
  (List.range' start (data.size - start)).filter fun m => p.MatchesAt data m

theorem mem_matchesFrom_iff (m : Nat) :
    m ∈ matchesFrom p data start ↔ start ≤ m ∧ p.MatchesAt data m := by
  rw [matchesFrom, List.mem_filter, List.mem_range'_1, decide_eq_true_iff]
  constructor
  · exact fun h => ⟨h.1.1, h.2⟩
  · rintro ⟨after, found⟩
    have := found.lt_size
    exact ⟨⟨after, by omega⟩, found⟩

theorem pairwise_matchesFrom (p : Pattern) (data : Bytes) (start : Nat) :
    (matchesFrom p data start).Pairwise (· < ·) :=
  (List.pairwise_lt_range' 1 Nat.one_pos).filter _

theorem matchesFrom_eq_nil (h : p.firstMatchFrom? data start = none) :
    matchesFrom p data start = [] := by
  rw [Pattern.firstMatchFrom?_eq_none_iff] at h
  refine List.eq_nil_iff_forall_not_mem.2 fun m hm => ?_
  obtain ⟨after, found⟩ := (mem_matchesFrom_iff m).1 hm
  exact h m after found

/-- Behind the first match come the matches that begin behind it. -/
theorem matchesFrom_eq_cons (h : p.firstMatchFrom? data start = some place) :
    matchesFrom p data start = place :: matchesFrom p data (place + 1) := by
  obtain ⟨⟨after, found⟩, least⟩ := Pattern.firstMatchFrom?_eq_some_iff.1 h
  have inside := found.lt_size
  have count : data.size - start = (place - start) + (data.size - (place + 1) + 1) := by omega
  have none : (List.range' start (place - start)).filter (fun m => p.MatchesAt data m) = [] := by
    refine List.filter_eq_nil_iff.2 fun m hm matched => ?_
    rw [decide_eq_true_iff] at matched
    obtain ⟨after, before⟩ := List.mem_range'_1.1 hm
    have := least ⟨after, matched⟩
    omega
  rw [matchesFrom, count, ← List.range'_append_1, List.filter_append, none, List.nil_append,
    Nat.add_sub_cancel' after, List.range'_succ,
    List.filter_cons_of_pos (by exact decide_eq_true found), matchesFrom]

section Machine

variable [Machine]

theorem placesFrom_eq (reportable : s.region.Reportable) (p : Pattern) (start : Nat) :
    s.placesFrom p start = .ok (matchesFrom p s.region.bytes start) := by
  induction hn : s.region.bytes.size - start using Nat.strongRecOn generalizing start with
  | ind n ih =>
    rw [placesFrom, findFrom_eq_answer reportable, ok_bind, answer]
    cases found : p.firstMatchFrom? s.region.bytes start with
    | none =>
      rw [matchesFrom_eq_nil found]
      rfl
    | some place =>
      obtain ⟨⟨after, matched⟩, -⟩ := Pattern.firstMatchFrom?_eq_some_iff.1 found
      have inside := matched.lt_size
      have rest := ih (s.region.bytes.size - (place + 1)) (by omega) (place + 1) rfl
      have word := ScanResult.offsetWord_ofNat (reportable.place_le_maxOffset found)
      rw [matchesFrom_eq_cons found]
      simp only [ScanResult.position, if_true, word, if_pos (And.intro after inside), rest, ok_bind,
        pure_eq_ok]

/-- **All matches are found.** The search for all matches of a well-formed pattern gives the places
at which the pattern has room and accepts the bytes, each once and in ascending order, also where
they overlap. -/
theorem findAll_eq_matches (s : Scanner) (reportable : s.region.Reportable) (text : String)
    (p : Pattern) (hp : Pattern.parse text = .ok p) :
    ∃ places, s.findAll text = pure places ∧ places.Pairwise (· < ·) ∧
      ∀ x, x ∈ places ↔ x + p.length ≤ s.region.bytes.size ∧
        p.accepts (s.region.bytes.toList.drop x) := by
  refine ⟨matchesFrom p s.region.bytes 0, ?_, pairwise_matchesFrom p _ 0, fun x => ?_⟩
  · rw [findAll, hp, Attempt.ofExcept_ok_bind, Attempt.liftM_eq_pure (placesFrom_eq reportable p 0)]
  · rw [mem_matchesFrom_iff, and_iff_right (Nat.zero_le x)]
    exact Iff.rfl

end Machine

section Uniprocessor

attribute [local instance] Machine.uniprocessor

/-- Three matches that overlap, the last of them at the end of the region. -/
theorem findAll_eq_matches_overlapping :
    ∃ (s : Scanner) (p : Pattern) (places : List Nat),
      s = ⟨⟨.owned, #[0xAA, 0xAA, 0xAA, 0x00, 0xAA, 0xAA, 0xAA]⟩, .avx2, .shared⟩ ∧
      s.region.Reportable ∧ Pattern.parse "AA ?? AA" = .ok p ∧ s.findAll "AA ?? AA" = pure places ∧
      0 ∈ places ∧ 1 ∉ places ∧ 2 ∈ places ∧ 3 ∉ places ∧ 4 ∈ places ∧ ∀ x ∈ places, x < 5 := by
  let s : Scanner := ⟨⟨.owned, #[0xAA, 0xAA, 0xAA, 0x00, 0xAA, 0xAA, 0xAA]⟩, .avx2, .shared⟩
  let p : Pattern := ⟨"AA ?? AA", [.byte 0xAA, .wildcard, .byte 0xAA], by decide⟩
  have reportable : s.region.Reportable := by decide
  have parsed : Pattern.parse "AA ?? AA" = .ok p := rfl
  obtain ⟨places, found, -, complete⟩ := findAll_eq_matches s reportable _ p parsed
  refine ⟨s, p, places, rfl, reportable, parsed, found, (complete 0).2 (by decide), ?_,
    (complete 2).2 (by decide), ?_, (complete 4).2 (by decide), fun x hx => ?_⟩
  · rw [complete]
    decide
  · rw [complete]
    decide
  · have room : x + 3 ≤ 7 := ((complete x).1 hx).1
    omega

end Uniprocessor

end ByteScan.Scanner
