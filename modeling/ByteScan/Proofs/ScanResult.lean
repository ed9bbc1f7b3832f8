import ByteScan.Bytes
import ByteScan.Proofs.Fault
import ByteScan.ScanResult

/-!
# Results and places

A result of a match holds its place exactly, as a signed number and as a word, as long as the place
fits; where it does not there is no result. Moving a result from a part of the data to the whole is
therefore the same as moving the place, whatever the place.

Results that come from outside may hold any offset, also a negative one. It is the word sum that
decides on them: the word of a negative offset lies so far behind all places that no sum with it is
one, be it that the sum is too large for a result or for a word. So moving adds exactly, or faults.
-/

namespace ByteScan.ScanResult

variable {place start : Nat} {r moved : ScanResult}

theorem toInt_ofNat (h : place ≤ maxOffset) : (Int32.ofNat place).toInt = place := by
  apply Int32.toInt_ofNat_of_lt
  rw [maxOffset] at h
  omega

/-- The word of an offset, in exact integers: that of a negative offset counts down from the number
of words. -/
theorem toNat_offsetWord (r : ScanResult) :
    (r.offsetWord.toNat : Int) =
      if 0 ≤ r.offset.toInt then r.offset.toInt else UInt64.size + r.offset.toInt := by
  have signed : r.offset.toInt = r.offsetWord.toBitVec.toInt := (Int32.toInt_toInt64 _).symm
  have bound : r.offsetWord.toNat < UInt64.size := UInt64.toNat_lt _
  rw [signed, BitVec.toInt_eq_toNat_cond, UInt64.toNat_toBitVec]
  rw [UInt64.size] at *
  split <;> split <;> omega

theorem toNat_offsetWord_of_nonneg (h : 0 ≤ r.offset.toInt) :
    (r.offsetWord.toNat : Int) = r.offset.toInt := by
  rw [toNat_offsetWord, if_pos h]

theorem offsetWord_ofNat (h : place ≤ maxOffset) :
    (offsetWord ⟨true, Int32.ofNat place⟩).toNat = place := by
  have held : (Int32.ofNat place).toInt = place := toInt_ofNat h
  have word := toNat_offsetWord_of_nonneg (r := ⟨true, Int32.ofNat place⟩)
    (held ▸ Int.natCast_nonneg place)
  rw [held] at word
  exact Int.natCast_inj.1 word

theorem foundAt_of_le (h : place ≤ maxOffset) : foundAt place = .ok ⟨true, Int32.ofNat place⟩ :=
  if_pos h

theorem foundAt_of_lt (h : maxOffset < place) : foundAt place = .error .offsetTooLarge :=
  if_neg (Nat.not_le.2 h)

/-! ### What the result for a place tells -/

theorem ofPlace_eq_found_iff {place? : Option Nat} (h : place ≤ maxOffset) :
    ofPlace place? = .ok ⟨true, Int32.ofNat place⟩ ↔ place? = some place := by
  constructor
  · intro found
    cases place? with
    | none => cases found
    | some other =>
      by_cases fits : other ≤ maxOffset
      · rw [ofPlace, foundAt_of_le fits, Except.ok.injEq, mk.injEq] at found
        have same := congrArg Int32.toInt found.2
        rw [toInt_ofNat fits, toInt_ofNat h, Int.natCast_inj] at same
        rw [same]
      · rw [ofPlace, foundAt_of_lt (Nat.lt_of_not_le fits)] at found
        cases found
  · rintro rfl
    exact foundAt_of_le h

theorem ofPlace_eq_notFound_iff {place? : Option Nat} :
    ofPlace place? = .ok .notFound ↔ place? = none := by
  constructor
  · intro absent
    cases place? with
    | none => rfl
    | some place =>
      rw [ofPlace, foundAt] at absent
      split at absent <;> cases absent
  · rintro rfl
    rfl

theorem ofPlace_eq_error_iff {place? : Option Nat} {fault : Fault} :
    ofPlace place? = .error fault ↔
      fault = .offsetTooLarge ∧ ∃ place, place? = some place ∧ maxOffset < place := by
  constructor
  · intro failed
    cases place? with
    | none => cases failed
    | some place =>
      by_cases fits : place ≤ maxOffset
      · rw [ofPlace, foundAt_of_le fits] at failed
        cases failed
      · rw [ofPlace, foundAt_of_lt (Nat.lt_of_not_le fits)] at failed
        exact ⟨(Except.error.inj failed).symm, place, rfl, Nat.lt_of_not_le fits⟩
  · rintro ⟨rfl, place, rfl, large⟩
    exact foundAt_of_lt large

/-! ### Moving results -/

/-- A match in the part of the data from `start` on is a match `start` bytes later in the whole. -/
theorem foundAt_addOffset (hs : start ≤ Bytes.maxSize) :
    (foundAt place >>= (·.addOffset start)) = foundAt (place + start) := by
  by_cases h : place ≤ maxOffset
  · have word : place + start < UInt64.size := by
      rw [maxOffset] at h
      rw [Bytes.maxSize] at hs
      rw [UInt64.size]
      omega
    rw [foundAt_of_le h, ok_bind, addOffset, if_pos rfl, offsetWord_ofNat h, if_pos word]
  · rw [foundAt_of_lt (Nat.lt_of_not_le h), foundAt_of_lt (by omega)]
    rfl

/-- Moving the result of a search in a part of the data is moving its place. -/
theorem ofPlace_addOffset (place? : Option Nat) (hs : start ≤ Bytes.maxSize) :
    (ofPlace place? >>= (·.addOffset start)) = ofPlace (place?.map (· + start)) := by
  cases place? with
  | none => rfl
  | some place => exact foundAt_addOffset hs

/-! ### Moving any result

The sums are those of the words. A result that is at no place is moved as a word like any other, and
the fault comes with the sum. -/

/-- A sum with the word of an offset is a place exactly if the offset is a place and the sum with
the offset is one. -/
theorem offsetWord_add_le_iff :
    r.offsetWord.toNat + start ≤ maxOffset ↔
      0 ≤ r.offset.toInt ∧ r.offset.toInt + start ≤ maxOffset := by
  have word := r.toNat_offsetWord
  have low := Int32.le_toInt r.offset
  rw [UInt64.size] at word
  rw [maxOffset]
  split at word <;> omega

theorem addOffset_of_notFound (h : r.found = false) (start : Nat) : r.addOffset start = .ok r := by
  rw [addOffset, h]
  rfl

theorem addOffset_of_le (found : r.found = true) (h : r.offsetWord.toNat + start ≤ maxOffset) :
    r.addOffset start = .ok ⟨true, Int32.ofNat (r.offsetWord.toNat + start)⟩ := by
  have word : r.offsetWord.toNat + start < UInt64.size := Nat.lt_of_le_of_lt h (by decide)
  rw [addOffset, if_pos found, if_pos word, foundAt_of_le h]

theorem addOffset_of_lt (found : r.found = true) (h : maxOffset < r.offsetWord.toNat + start) :
    ∃ fault, r.addOffset start = .error fault := by
  rw [addOffset, if_pos found]
  split
  · exact ⟨_, foundAt_of_lt h⟩
  · exact ⟨_, rfl⟩

theorem toOption_addOffset_of_lt (found : r.found = true)
    (h : maxOffset < r.offsetWord.toNat + start) : (r.addOffset start).toOption = none := by
  obtain ⟨fault, failed⟩ := addOffset_of_lt found h
  rw [failed]
  rfl

/-- A match is moved to a result exactly if this is a match at the exact sum, which has to fit. -/
theorem addOffset_eq_ok_iff (found : r.found = true) :
    r.addOffset start = .ok moved ↔
      (0 ≤ r.offset.toInt ∧ r.offset.toInt + start ≤ maxOffset) ∧
        moved.found = true ∧ moved.offset.toInt = r.offset.toInt + start := by
  rw [← offsetWord_add_le_iff]
  constructor
  · intro h
    by_cases fits : r.offsetWord.toNat + start ≤ maxOffset
    · have word := toNat_offsetWord_of_nonneg (offsetWord_add_le_iff.1 fits).1
      rw [addOffset_of_le found fits] at h
      cases h
      rw [toInt_ofNat fits, Int.natCast_add, word]
      exact ⟨fits, rfl, rfl⟩
    · obtain ⟨fault, failed⟩ := addOffset_of_lt found (Nat.lt_of_not_le fits)
      rw [failed] at h
      cases h
  · rintro ⟨fits, found', held⟩
    have word := toNat_offsetWord_of_nonneg (offsetWord_add_le_iff.1 fits).1
    rw [← word, ← Int.natCast_add, ← toInt_ofNat fits, Int32.toInt_inj] at held
    rw [addOffset_of_le found fits, ← held, ← found']

theorem exists_addOffset_eq_error_iff :
    (∃ fault, r.addOffset start = .error fault) ↔
      r.found = true ∧ ¬ (0 ≤ r.offset.toInt ∧ r.offset.toInt + start ≤ maxOffset) := by
  rw [← offsetWord_add_le_iff, Nat.not_le]
  constructor
  · rintro ⟨fault, failed⟩
    cases found : r.found with
    | false =>
      rw [addOffset_of_notFound found] at failed
      cases failed
    | true =>
      refine ⟨rfl, Nat.lt_of_not_le fun fits => ?_⟩
      rw [addOffset_of_le found fits] at failed
      cases failed
  · rintro ⟨found, large⟩
    exact addOffset_of_lt found large

/-- Moving twice is moving by the sum: it faults in the same cases, and gives the same otherwise. -/
theorem toOption_addOffset_addOffset (r : ScanResult) (first second : Nat) :
    (r.addOffset first >>= (·.addOffset second)).toOption =
      (r.addOffset (first + second)).toOption := by
  cases found : r.found with
  | false =>
    rw [addOffset_of_notFound found, ok_bind, addOffset_of_notFound found,
      addOffset_of_notFound found]
  | true =>
    by_cases near : r.offsetWord.toNat + first ≤ maxOffset
    · -- The result in between is at a place, and the second move starts from there.
      let between : ScanResult := ⟨true, Int32.ofNat (r.offsetWord.toNat + first)⟩
      have sum : between.offsetWord.toNat + second = r.offsetWord.toNat + (first + second) := by
        rw [offsetWord_ofNat near, Nat.add_assoc]
      rw [addOffset_of_le found near, ok_bind]
      by_cases fits : r.offsetWord.toNat + (first + second) ≤ maxOffset
      · rw [addOffset_of_le found fits, ← sum, addOffset_of_le (r := between) rfl (by rwa [sum])]
      · have large := Nat.lt_of_not_le fits
        rw [toOption_addOffset_of_lt found large,
          toOption_addOffset_of_lt (r := between) rfl (by rwa [sum])]
    · have large := Nat.lt_of_not_le near
      have larger : maxOffset < r.offsetWord.toNat + (first + second) := by omega
      obtain ⟨fault, failed⟩ := addOffset_of_lt found large
      rw [failed, toOption_addOffset_of_lt found larger]
      rfl

/-- **Moving a result adds exactly or faults.** A result of no match stays as it is. A match whose
offset is a place is moved to the exact sum if this is a place too, and to nothing else; in all
other cases there is a fault, whether the offset is negative, the sum too large for a result, or too
large for a word. So a move in two steps and the move by their sum give the same, or both fault. -/
theorem addOffset_exact_or_faults (r : ScanResult) (start : Nat) :
    (∀ moved, r.addOffset start = .ok moved ↔
      if r.found then
        (0 ≤ r.offset.toInt ∧ r.offset.toInt + start ≤ maxOffset) ∧
          moved.found = true ∧ moved.offset.toInt = r.offset.toInt + start
      else moved = r) ∧
    ((∃ fault, r.addOffset start = .error fault) ↔
      r.found = true ∧ ¬ (0 ≤ r.offset.toInt ∧ r.offset.toInt + start ≤ maxOffset)) ∧
    ∀ further, (r.addOffset start >>= (·.addOffset further)).toOption =
      (r.addOffset (start + further)).toOption := by
  refine ⟨fun moved => ?_, exists_addOffset_eq_error_iff, toOption_addOffset_addOffset r start⟩
  split
  · exact addOffset_eq_ok_iff ‹_›
  · rw [addOffset_of_notFound (Bool.eq_false_iff.2 ‹_›), Except.ok.injEq, eq_comm]

-- The word of the offset -1 is the last word: it is no place, and the sum with it is no word.
example : addOffset ⟨true, -1⟩ 0 = .error .offsetTooLarge := rfl
example : addOffset ⟨true, -1⟩ 1 = .error .wordOverflow := rfl

end ByteScan.ScanResult
