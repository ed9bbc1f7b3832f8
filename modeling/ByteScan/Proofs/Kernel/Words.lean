import ByteScan.Kernel.Words
import ByteScan.Proofs.Kernel.Walk
import ByteScan.Proofs.Pattern.WordForm

/-!
# Searching word by word finds the first match

At a place with room for all words the tests pass exactly if the tokens accept, so a scan of places
keeps one invariant: the pattern matches at no place before the one where the scan stands. A scan
that stops at a match has found the first one, and a scan that runs out of places leaves a slice
whose first places do not match to the search byte by byte.
-/

namespace ByteScan.Words

open Pattern (acceptsStart firstMatch?)

variable {s : Slice} {tokens : List Token} {place limit count : Nat}

/-! ### Tests in memory -/

/-- The tests of groups of tokens, a word for each group. -/
def testsOf (tokens : List Token) : List WordTest :=
  (chunks Word.width tokens).map WordTest.ofTokens

theorem wordForm_tests (tokens : List Token) : (WordForm.ofTokens tokens).tests = testsOf tokens :=
  rfl

theorem testsOf_of_ne_nil (ht : tokens ≠ []) :
    testsOf tokens =
      WordTest.ofTokens (tokens.take Word.width) :: testsOf (tokens.drop Word.width) := by
  rw [testsOf, chunks_of_ne_nil (by decide) ht, List.map_cons, testsOf]

theorem passes_load (tokens : List Token) (h : place + Word.width ≤ s.size) :
    ∃ word, Word.load s place = .ok word ∧
      (WordTest.ofTokens (tokens.take Word.width)).passes word =
        acceptsStart (tokens.take Word.width) (s.toList.drop place) := by
  have group : (tokens.take Word.width).length ≤ Word.width := List.length_take_le _ _
  have full := Slice.length_take_drop h
  refine ⟨_, by rw [Word.load, Slice.load_eq_ok h, map_ok], ?_⟩
  rw [WordTest.passes_ofBytes (by rwa [full]) (Nat.le_of_eq full), Pattern.acceptsStart_take group]

theorem passesAll_eq (h : place + (testsOf tokens).length * Word.width ≤ s.size) :
    passesAll s (testsOf tokens) place = .ok (acceptsStart tokens (s.toList.drop place)) := by
  induction hn : tokens.length using Nat.strongRecOn generalizing tokens place with
  | ind n ih =>
    by_cases ht : tokens = []
    · subst ht
      rw [testsOf, chunks_nil]
      rfl
    · have pos := List.length_pos_iff.2 ht
      rw [testsOf_of_ne_nil ht, List.length_cons, Nat.succ_mul] at h
      have room : place + Word.width ≤ s.size := by omega
      have room' : place + Word.width + (testsOf (tokens.drop Word.width)).length * Word.width ≤
          s.size := by omega
      have shorter : (tokens.drop Word.width).length < n := by
        rw [List.length_drop, Word.width]
        omega
      obtain ⟨word, loaded, passes⟩ := passes_load tokens room
      have rest := ih _ shorter room' rfl
      rw [testsOf_of_ne_nil ht, passesAll, loaded, ok_bind, passes,
        Pattern.acceptsStart_eq_take_drop Word.width tokens, List.drop_drop, rest]
      cases acceptsStart (tokens.take Word.width) (s.toList.drop place) <;> rfl

/-- The first of `count` places at which the first group of the tokens accepts. -/
theorem firstHit_eq (h : place + count + Word.width ≤ s.size + 1) :
    firstHit s (WordTest.ofTokens (tokens.take Word.width)) place count =
      .ok ((List.range count).find? fun k =>
        acceptsStart (tokens.take Word.width) (s.toList.drop (place + k))) := by
  induction count generalizing place with
  | zero => rfl
  | succ count ih =>
    have room : place + Word.width ≤ s.size := by omega
    obtain ⟨word, loaded, passes⟩ := passes_load tokens room
    rw [firstHit, loaded, ok_bind, passes, List.range_succ_eq_map]
    cases accepted : acceptsStart (tokens.take Word.width) (s.toList.drop place) with
    | false =>
      rw [List.find?_cons_of_neg (by simp [accepted]), List.find?_map, ih (by omega)]
      simp only [Bool.false_eq_true, if_false, ok_bind, pure_eq_ok, Function.comp_def,
        Nat.add_right_comm place 1, Nat.add_assoc]
    | true =>
      rw [List.find?_cons_of_pos (by exact accepted)]
      rfl

/-! ### Scans -/

/-- A scan may stop at the first match, or at a place up to the limit before which nothing
matches. -/
def Stop.Sound (tokens : List Token) (bytes : List UInt8) (limit : Nat) : Stop → Prop
  | .matched place => firstMatch? tokens bytes = some place
  | .ended place => place ≤ limit ∧ ∀ k < place, acceptsStart tokens (bytes.drop k) = false

section Scan

variable (ht : tokens ≠ []) (room : limit + (testsOf tokens).length * Word.width ≤ s.size + 1)
include ht room

theorem scanBlocks_sound (h : place ≤ limit)
    (before : ∀ k < place, acceptsStart tokens (s.toList.drop k) = false) :
    ∃ stop, scanBlocks s (WordTest.ofTokens (tokens.take Word.width))
        (testsOf (tokens.drop Word.width)) limit place = .ok stop ∧
      stop.Sound tokens s.toList limit := by
  induction hn : limit - place using Nat.strongRecOn generalizing place with
  | ind n ih =>
    rw [scanBlocks]
    by_cases block : place + blockLength ≤ limit
    · have span := room
      rw [testsOf_of_ne_nil ht, List.length_cons, Nat.succ_mul] at span
      rw [if_pos block]
      rw [blockLength] at block ⊢
      rw [firstHit_eq (by omega), ok_bind]
      cases found : (List.range 8).find? fun k =>
          acceptsStart (tokens.take Word.width) (s.toList.drop (place + k)) with
      | none =>
        -- the first group fails in the whole block
        refine ih (limit - (place + 8)) (by omega) (by omega)
          (Pattern.not_acceptsStart_before_add before fun k hk => ?_) rfl
        have fails := List.find?_eq_none.1 found k (List.mem_range.2 hk)
        rw [Pattern.acceptsStart_eq_take_drop Word.width, Bool.eq_false_iff.2 fails, Bool.false_and]
      | some j =>
        rw [List.find?_range_eq_some] at found
        obtain ⟨hit, inBlock, earlier⟩ := found
        rw [List.mem_range] at inBlock
        have skipped : ∀ k < place + j, acceptsStart tokens (s.toList.drop k) = false := by
          refine Pattern.not_acceptsStart_before_add before fun k hk => ?_
          have fails := earlier k hk
          rw [Bool.not_eq_true'] at fails
          rw [Pattern.acceptsStart_eq_take_drop Word.width, fails, Bool.false_and]
        have rest : passesAll s (testsOf (tokens.drop Word.width)) (place + j + Word.width) =
            .ok (acceptsStart tokens (s.toList.drop (place + j))) := by
          rw [passesAll_eq (by omega), Pattern.acceptsStart_eq_take_drop Word.width tokens, hit,
            Bool.true_and, List.drop_drop]
        simp only [rest, ok_bind]
        cases accepted : acceptsStart tokens (s.toList.drop (place + j)) with
        | true => exact ⟨_, rfl, (Pattern.firstMatch?_eq_some_iff ht).2 ⟨accepted, skipped⟩⟩
        | false =>
          exact ih (limit - (place + j + 1)) (by omega) (by omega)
            (Nat.forall_lt_succ_right.2 ⟨skipped, accepted⟩) rfl
    · rw [if_neg block]
      exact ⟨_, rfl, h, before⟩

theorem scanSingles_sound (h : place ≤ limit)
    (before : ∀ k < place, acceptsStart tokens (s.toList.drop k) = false) :
    ∃ stop, scanSingles s (WordTest.ofTokens (tokens.take Word.width))
        (testsOf (tokens.drop Word.width)) limit place = .ok stop ∧
      stop.Sound tokens s.toList limit := by
  induction hn : limit - place using Nat.strongRecOn generalizing place with
  | ind n ih =>
    rw [scanSingles]
    by_cases inside : place < limit
    · rw [if_pos inside, ← testsOf_of_ne_nil ht, passesAll_eq (by omega), ok_bind]
      cases accepted : acceptsStart tokens (s.toList.drop place) with
      | true => exact ⟨_, rfl, (Pattern.firstMatch?_eq_some_iff ht).2 ⟨accepted, before⟩⟩
      | false =>
        exact ih (limit - (place + 1)) (by omega) inside
          (Nat.forall_lt_succ_right.2 ⟨before, accepted⟩) rfl
    · rw [if_neg inside]
      exact ⟨_, rfl, h, before⟩

end Scan

/-- The search word by word gives the first match, or hands on the end of the slice. -/
theorem find_handedOn (ht : tokens ≠ []) :
    Walk.HandedOn s tokens (find s (WordForm.ofTokens tokens) (MaskForm.ofTokens tokens)) := by
  have span : (WordForm.ofTokens tokens).span = (testsOf tokens).length * Word.width := rfl
  rw [find, span]
  by_cases short : s.size < (testsOf tokens).length * Word.width
  · rw [if_pos short]
    exact .inl (Walk.find_eq ht)
  · rw [if_neg short]
    generalize hl : s.size - (testsOf tokens).length * Word.width + 1 = limit
    have room : limit + (testsOf tokens).length * Word.width ≤ s.size + 1 := by omega
    have limit_le : limit ≤ s.size := by
      rw [testsOf_of_ne_nil ht, List.length_cons, Nat.succ_mul, Word.width] at short hl
      omega
    obtain ⟨stop, scanned, sound⟩ :=
      scanBlocks_sound ht room (Nat.zero_le _) fun k hk => absurd hk (Nat.not_lt_zero k)
    rw [wordForm_tests, testsOf_of_ne_nil ht]
    simp only [scanned, ok_bind]
    cases stop with
    | matched place => exact .inl (congrArg ScanResult.ofPlace sound.symm)
    | ended place =>
      obtain ⟨stop, rescanned, resound⟩ := scanSingles_sound ht room sound.1 sound.2
      simp only [rescanned, ok_bind]
      cases stop with
      | matched place => exact .inl (congrArg ScanResult.ofPlace resound.symm)
      | ended place => exact .inr ⟨place, Nat.le_trans resound.1 limit_le, resound.2, rfl⟩

end ByteScan.Words
