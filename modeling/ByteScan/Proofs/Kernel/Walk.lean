import ByteScan.Kernel.Walk
import ByteScan.Proofs.Bytes
import ByteScan.Proofs.FirstMatch
import ByteScan.Proofs.ScanResult

/-!
# Searching byte by byte finds the first match

The walk along the marks of a pattern stays in step with the bytes that the pattern asks for, so it
never runs out of them, and it accepts what the tokens accept. Tried at every place that leaves room
for the pattern it gives the first match of the slice; at the end of a slice whose first places do
not match it gives the first match of the whole slice. So a faster search is right if it is
`HandedOn`: it gives the first match itself, or it hands on such an end of the slice.
-/

namespace ByteScan

namespace MaskForm

theorem ofTokens_wildcard_cons (tokens : List Token) :
    ofTokens (.wildcard :: tokens) = ⟨(ofTokens tokens).bytes, false :: (ofTokens tokens).mask⟩ :=
  rfl

theorem ofTokens_byte_cons (value : UInt8) (tokens : List Token) :
    ofTokens (.byte value :: tokens) =
      ⟨value :: (ofTokens tokens).bytes, true :: (ofTokens tokens).mask⟩ :=
  rfl

end MaskForm

namespace Walk

open Pattern (acceptsStart firstMatch?)

variable {s : Slice} {tokens : List Token} {place count : Nat}

theorem fits_eq (h : place + tokens.length ≤ s.size) :
    fits s (MaskForm.ofTokens tokens).mask (MaskForm.ofTokens tokens).bytes place =
      .ok (acceptsStart tokens (s.toList.drop place)) := by
  induction tokens generalizing place with
  | nil => rfl
  | cons t tokens ih =>
    rw [List.length_cons] at h
    have inside : place < s.toList.length := by rw [Slice.length_toList]; omega
    have split := List.drop_eq_getElem_cons inside
    have room : place + 1 + tokens.length ≤ s.size := by omega
    have next := ih room
    rw [split, acceptsStart]
    cases t with
    | wildcard => rw [MaskForm.ofTokens_wildcard_cons, fits, next]; rfl
    | byte value =>
      rw [MaskForm.ofTokens_byte_cons, fits, Slice.byteAt_eq_ok split, ok_bind, Token.accepts]
      by_cases same : s.toList[place] = value
      · rw [if_pos same, next, same, beq_self_eq_true, Bool.true_and]
      · rw [if_neg same, beq_false_of_ne (Ne.symm same), Bool.false_and]
        rfl

theorem firstFit_eq (h : place + count + tokens.length ≤ s.size + 1) :
    firstFit s (MaskForm.ofTokens tokens) place count =
      .ok ((List.range' place count).find? fun x => acceptsStart tokens (s.toList.drop x)) := by
  induction count generalizing place with
  | zero => rfl
  | succ count ih =>
    rw [firstFit, fits_eq (by omega), ok_bind, List.range'_succ]
    cases accepted : acceptsStart tokens (s.toList.drop place) with
    | false =>
      rw [List.find?_cons_of_neg (by simp [accepted]), ← ih (by omega)]
      rfl
    | true =>
      rw [List.find?_cons_of_pos (by exact accepted)]
      rfl

/-- The first match among the places that leave room for the pattern is the first match. -/
theorem find?_range_eq (ht : tokens ≠ []) (h : tokens.length ≤ s.size) :
    ((List.range (s.size - tokens.length + 1)).find? fun x =>
      acceptsStart tokens (s.toList.drop x)) = firstMatch? tokens s.toList := by
  have pos := List.length_pos_iff.2 ht
  have fewer : s.size - tokens.length + 1 ≤ s.toList.length := by
    rw [Slice.length_toList]
    omega
  refine (Pattern.find?_range_eq_of_iff fewer fun k => iff_and_self.2 fun accepted => ?_).symm
  refine Nat.lt_of_not_le fun far => ?_
  rw [Pattern.acceptsStart_drop_of_lt ht (by rw [Slice.length_toList]; omega)] at accepted
  cases accepted

theorem find_eq (ht : tokens ≠ []) :
    find s (MaskForm.ofTokens tokens) = ScanResult.ofPlace (firstMatch? tokens s.toList) := by
  have length : (MaskForm.ofTokens tokens).length = tokens.length := List.length_map _
  rw [find, length]
  by_cases short : s.size < tokens.length
  · have none : firstMatch? tokens s.toList = none := by
      rw [Pattern.firstMatch?_eq_none_iff ht]
      intro k
      exact Pattern.acceptsStart_drop_of_lt ht (by rw [Slice.length_toList]; omega)
    rw [if_pos short, none]
    rfl
  · rw [if_neg short, firstFit_eq (by omega), ok_bind, ← List.range_eq_range',
      find?_range_eq ht (Nat.le_of_not_lt short)]

/-- Handed the end of a slice whose first places do not match, it gives the first match of the
slice. -/
theorem findRest_eq (ht : tokens ≠ []) (hs : s.size ≤ Bytes.maxSize) (h : place ≤ s.size)
    (before : ∀ k < place, acceptsStart tokens (s.toList.drop k) = false) :
    findRest s (MaskForm.ofTokens tokens) place =
      ScanResult.ofPlace (firstMatch? tokens s.toList) := by
  obtain ⟨rest, skipped, rest_toList⟩ := Slice.skip_eq_ok h
  rw [findRest, skipped, ok_bind, find_eq ht, rest_toList,
    ScanResult.ofPlace_addOffset _ (Nat.le_trans h hs), ← Pattern.firstMatch?_eq_map_drop ht before]

/-- A search gives the first match, or hands an end of the slice to the search byte by byte, from a
place on before which nothing matches. -/
def HandedOn (s : Slice) (tokens : List Token) (search : Except Fault ScanResult) : Prop :=
  search = ScanResult.ofPlace (firstMatch? tokens s.toList) ∨
    ∃ place ≤ s.size, (∀ k < place, acceptsStart tokens (s.toList.drop k) = false) ∧
      search = findRest s (MaskForm.ofTokens tokens) place

theorem HandedOn.eq {search : Except Fault ScanResult} (h : HandedOn s tokens search)
    (ht : tokens ≠ []) (hs : s.size ≤ Bytes.maxSize) :
    search = ScanResult.ofPlace (firstMatch? tokens s.toList) := by
  rcases h with first | ⟨place, inside, before, handed⟩
  · exact first
  · rw [handed, findRest_eq ht hs inside before]

end Walk

end ByteScan
