import ByteScan.Proofs.Kernel.FirstMatch

/-!
# No search reads outside of its slice

A word or a lane is loaded only where all that is read behind it fits too: the word scans keep below
a limit behind which the whole span of the tests is left, and the lane scan keeps one lane and the
whole tail between its cursor and the end, so the last candidate of the last lane still has room for
the tail. Both therefore come to an end without a fault, and the place from which they hand the
slice on lies inside of it. All that is left to fault in a search is the size of its result.

A load that leaves the slice is the fault `outOfBounds`, and a fault ends the search: a search that
does not end with this fault has made no such load.
-/

namespace ByteScan

variable {s : Slice} {tokens : List Token}

/-- The computation does not come to a load or an index that leaves its bytes. -/
def StaysInside {α : Type} (x : Except Fault α) : Prop := x ≠ .error .outOfBounds

theorem Word.load_eq_error_iff {place : Nat} {fault : Fault} :
    Word.load s place = .error fault ↔ s.load Word.width place = .error fault := by
  rw [Word.load]
  cases s.load Word.width place with
  | error other => rw [Except.map, Except.error.injEq, Except.error.injEq]
  | ok bytes =>
    constructor
    · intro left
      cases left
    · intro left
      cases left

namespace ScanResult

theorem staysInside_foundAt (place : Nat) : StaysInside (foundAt place) := by
  intro left
  rw [foundAt] at left
  split at left <;> cases left

theorem staysInside_ofPlace (place? : Option Nat) : StaysInside (ofPlace place?) := by
  cases place? with
  | none =>
    intro left
    cases left
  | some place => exact staysInside_foundAt place

theorem staysInside_addOffset {search : Except Fault ScanResult} (h : StaysInside search)
    (start : Nat) : StaysInside (search >>= (·.addOffset start)) := by
  cases search with
  | error fault =>
    intro left
    exact h left
  | ok r =>
    intro left
    rw [ok_bind, addOffset] at left
    split at left
    · split at left
      · exact staysInside_foundAt _ left
      · cases left
    · cases left

end ScanResult

/-- Handed on or not, a search stays inside of its slice. -/
theorem Walk.HandedOn.staysInside {search : Except Fault ScanResult}
    (h : Walk.HandedOn s tokens search) (ht : tokens ≠ []) : StaysInside search := by
  rcases h with first | ⟨place, inside, -, handed⟩
  · rw [first]
    exact ScanResult.staysInside_ofPlace _
  · obtain ⟨rest, skipped, -⟩ := Slice.skip_eq_ok inside
    rw [handed, Walk.findRest, skipped, ok_bind, Walk.find_eq ht]
    exact ScanResult.staysInside_addOffset (ScanResult.staysInside_ofPlace _) place

theorem WordForm.tests_ne_nil (ht : tokens ≠ []) : (WordForm.ofTokens tokens).tests ≠ [] := by
  rw [Words.wordForm_tests, Words.testsOf_of_ne_nil ht]
  exact List.cons_ne_nil _ _

namespace Algorithm

section Machine

variable [Machine]

theorem staysInside_findIn (a : Algorithm) (s : Slice) (p : Pattern) :
    StaysInside (a.findIn s p) :=
  (findIn_handedOn a s p).staysInside p.tokens_ne_nil

theorem staysInside_findFrom (a : Algorithm) (data : Bytes) (p : Pattern) (start : Nat) :
    StaysInside (a.findFrom data p start) := by
  rw [findFrom]
  by_cases behind : data.size < start
  · intro left
    rw [if_pos behind] at left
    cases left
  · rw [if_neg behind]
    have inside : start ≤ (Slice.ofBytes data).size := Nat.le_of_not_lt behind
    obtain ⟨rest, skipped, -⟩ := Slice.skip_eq_ok inside
    rw [skipped, ok_bind]
    exact ScanResult.staysInside_addOffset (staysInside_findIn a rest p) start

/-- **No search reads outside of its slice.** The load of a word or a lane, an index and a tail of a
slice fault exactly if they leave the slice, and no search of any slice for any pattern ends with
that fault: neither byte by byte, nor word by word, nor lane by lane, nor in the data from a place
on. The word form of a pattern has a first test; each lane of the tail is a full lane and has its
mask, for lanes of either width. -/
theorem search_stays_inside (s : Slice) (p : Pattern) :
    (∀ place, Word.load s place = .error .outOfBounds ↔ s.size < place + 8) ∧
    (∀ width place, s.load width place = .error .outOfBounds ↔ s.size < place + width) ∧
    (∀ place, s.byteAt place = .error .outOfBounds ↔ s.size ≤ place) ∧
    (∀ place, s.skip place = .error .outOfBounds ↔ s.size < place) ∧
    Walk.find s p.maskForm ≠ .error .outOfBounds ∧
    p.wordForm.tests ≠ [] ∧ Words.find s p.wordForm p.maskForm ≠ .error .outOfBounds ∧
    (∀ width ∈ [16, 32],
      (∃ masks, p.laneForm.tailMasks width = .ok masks ∧
        masks.length = (p.laneForm.tailLanes width).length ∧
        ∀ lane ∈ p.laneForm.tailLanes width, lane.length = width) ∧
      Lanes.find s width p.laneForm p.maskForm ≠ .error .outOfBounds) ∧
    ∀ (a : Algorithm) (data : Bytes) (start : Nat),
      a.findFrom data p start ≠ .error .outOfBounds := by
  have ht := p.tokens_ne_nil
  refine ⟨fun place => ?_, fun width place => ?_, fun place => ?_, fun place => ?_, ?_,
    WordForm.tests_ne_nil ht, (Words.find_handedOn ht).staysInside ht, fun width hwidth => ?_,
    fun a data start => staysInside_findFrom a data p start⟩
  · rw [Word.load_eq_error_iff, Slice.load_eq_error_iff, Word.width]
    exact and_iff_right rfl
  · exact Slice.load_eq_error_iff.trans (and_iff_right rfl)
  · exact Slice.byteAt_eq_error_iff.trans (and_iff_right rfl)
  · exact Slice.skip_eq_error_iff.trans (and_iff_right rfl)
  · rw [show Walk.find s p.maskForm = _ from Walk.find_eq ht]
    exact ScanResult.staysInside_ofPlace _
  · have bounds : ∀ width ∈ [16, 32], 0 < width ∧ width ≤ 32 := by decide
    obtain ⟨pos, le⟩ := bounds width hwidth
    exact ⟨LaneForm.length_tailLanes p.tokens le, (Lanes.find_handedOn pos le ht).staysInside ht⟩

end Machine

section Uniprocessor

attribute [local instance] Machine.uniprocessor

/-- The anchor stands at the last place of the only lane: the tail is loaded from the next place on,
and one place farther it would no longer fit. -/
theorem search_stays_inside_at_last_candidate :
    16 ∈ [16, 32] ∧
    Lanes.find (Slice.ofBytes (Array.replicate 15 0 ++ #[0xE8] ++ Array.replicate 16 0)) 16
      (Pattern.laneForm ⟨"E8 05", [.byte 0xE8, .byte 0x05], by decide⟩)
      (Pattern.maskForm ⟨"E8 05", [.byte 0xE8, .byte 0x05], by decide⟩) ≠ .error .outOfBounds ∧
    (Slice.ofBytes (Array.replicate 15 0 ++ #[0xE8] ++ Array.replicate 16 0)).load 16 17 =
      .error .outOfBounds := by
  obtain ⟨-, loads, -, -, -, -, -, lanes, -⟩ :=
    search_stays_inside (Slice.ofBytes (Array.replicate 15 0 ++ #[0xE8] ++ Array.replicate 16 0))
      ⟨"E8 05", [.byte 0xE8, .byte 0x05], by decide⟩
  have width : 16 ∈ [16, 32] := by decide
  exact ⟨width, (lanes 16 width).2, (loads 16 17).2 (by decide)⟩

end Uniprocessor

end Algorithm

end ByteScan
