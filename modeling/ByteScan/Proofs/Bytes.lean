import ByteScan.Bytes

/-!
# Slices as lists

What a slice holds is a list of bytes, and every way of reading a slice is a way of reading that
list: as long as it stays inside, a load is a `take` of a `drop`, and the end of a slice is a
`drop`. `chunks` gives pieces that join to the list they were cut from.
-/

namespace ByteScan

namespace Slice

variable {s : Slice} {place width : Nat}

@[simp] theorem length_toList (s : Slice) : s.toList.length = s.size := by
  rw [toList, size, List.length_drop, Array.length_toList]

@[simp] theorem toList_ofBytes (data : Bytes) : (ofBytes data).toList = data.toList := rfl

@[simp] theorem size_ofBytes (data : Bytes) : (ofBytes data).size = data.size := rfl

theorem skip_eq_ok (h : place ≤ s.size) :
    ∃ rest, s.skip place = .ok rest ∧ rest.toList = s.toList.drop place := by
  have inside : s.start + place ≤ s.data.size := by
    have := s.start_le
    rw [size] at h
    omega
  exact ⟨⟨s.data, s.start + place, inside⟩, dif_pos inside, by rw [toList, toList, List.drop_drop]⟩

theorem length_take_drop (h : place + width ≤ s.size) :
    ((s.toList.drop place).take width).length = width := by
  rw [List.length_take, List.length_drop, length_toList]
  omega

theorem load_eq_ok (h : place + width ≤ s.size) :
    s.load width place = .ok ((s.toList.drop place).take width) := by
  rw [load, if_pos h, toList, List.drop_drop, Array.toList_extract, List.extract_eq_take_drop]
  congr 2
  omega

theorem byteAt_eq_ok {b : UInt8} {bs : List UInt8} (h : s.toList.drop place = b :: bs) :
    s.byteAt place = .ok b := by
  have found : s.data[s.start + place]? = some b := by
    rw [toList, List.drop_drop] at h
    rw [← Array.getElem?_toList, ← Nat.add_zero (s.start + place), ← List.getElem?_drop, h]
    rfl
  rw [byteAt, found]

/-! What leaves a slice faults, and nothing else does. -/

theorem load_eq_error_iff {fault : Fault} :
    s.load width place = .error fault ↔ fault = .outOfBounds ∧ s.size < place + width := by
  rw [load]
  split <;> simp [eq_comm] <;> omega

theorem byteAt_eq_error_iff {fault : Fault} :
    s.byteAt place = .error fault ↔ fault = .outOfBounds ∧ s.size ≤ place := by
  have outside : s.data[s.start + place]? = none ↔ s.size ≤ place := by
    have := s.start_le
    rw [Array.getElem?_eq_none_iff, size]
    omega
  rw [byteAt, ← outside]
  cases s.data[s.start + place]? with
  | some b => exact iff_of_false (fun failed => nomatch failed) fun left => nomatch left.2
  | none => exact ⟨fun failed => ⟨(Except.error.inj failed).symm, rfl⟩, fun left => left.1 ▸ rfl⟩

theorem skip_eq_error_iff {fault : Fault} :
    s.skip place = .error fault ↔ fault = .outOfBounds ∧ s.size < place := by
  have := s.start_le
  rw [skip, size]
  split <;> simp [eq_comm] <;> omega

end Slice

/-! ### Pieces of a list -/

section Chunks

variable {α β : Type} {n : Nat}

@[simp] theorem chunks_nil (n : Nat) : chunks n ([] : List α) = [] := by
  rw [chunks, if_pos (.inr rfl)]

theorem chunks_of_ne_nil (hn : n ≠ 0) {l : List α} (hl : l ≠ []) :
    chunks n l = l.take n :: chunks n (l.drop n) := by
  rw [chunks, if_neg (not_or.2 ⟨hn, hl⟩)]

theorem chunks_map (f : α → β) (n : Nat) (l : List α) :
    chunks n (l.map f) = (chunks n l).map (·.map f) := by
  fun_induction chunks n l with
  | case1 l h => rw [chunks, if_pos (by simpa using h), List.map_nil]
  | case2 l h ih =>
    rw [chunks, if_neg (by simpa using h), List.map_cons, List.map_take, ← ih, List.map_drop]

theorem flatten_chunks (hn : n ≠ 0) (l : List α) : (chunks n l).flatten = l := by
  fun_induction chunks n l with
  | case1 l h =>
    obtain rfl := h.resolve_left hn
    rfl
  | case2 l h ih => rw [List.flatten_cons, ih, List.take_append_drop]

/-- Piece `i` begins behind `i` full pieces, as long as there is something left there. -/
theorem getElem?_chunks (hn : n ≠ 0) (l : List α) (i : Nat) :
    (chunks n l)[i]? = if n * i < l.length then some ((l.drop (n * i)).take n) else none := by
  induction i generalizing l with
  | zero =>
    cases l with
    | nil => simp
    | cons a l => simp [chunks_of_ne_nil hn (List.cons_ne_nil a l)]
  | succ i ih =>
    by_cases hl : l = []
    · simp [hl]
    · rw [chunks_of_ne_nil hn hl, List.getElem?_cons_succ, ih, List.drop_drop, List.length_drop,
        Nat.mul_succ, Nat.add_comm n]
      congr 1
      simp only [eq_iff_iff]
      omega

/-- Cutting two lists alike and putting the pieces side by side cuts the two side by side. -/
theorem zipWith_zip_chunks {β γ : Type} {n : Nat} (hn : n ≠ 0) {l : List β} {l' : List γ}
    (h : l.length = l'.length) :
    List.zipWith List.zip (chunks n l) (chunks n l') = chunks n (l.zip l') := by
  apply List.ext_getElem?
  intro j
  rw [List.getElem?_zipWith, getElem?_chunks hn, getElem?_chunks hn, getElem?_chunks hn,
    List.length_zip, ← h, Nat.min_self]
  by_cases inside : n * j < l.length
  · simp only [if_pos inside, List.zip, List.take_zipWith, List.drop_zipWith]
  · simp only [if_neg inside]

theorem length_chunks (hn : n ≠ 0) (l : List α) :
    (chunks n l).length = (l.length + (n - 1)) / n := by
  have atMost (i : Nat) : (chunks n l).length ≤ i ↔ (l.length + (n - 1)) / n ≤ i := by
    rw [Nat.div_le_iff_le_mul_add_pred (Nat.pos_of_ne_zero hn), ← List.getElem?_eq_none_iff,
      getElem?_chunks hn]
    split <;> simp <;> omega
  exact Nat.le_antisymm ((atMost _).2 (Nat.le_refl _)) ((atMost _).1 (Nat.le_refl _))

theorem ne_nil_of_mem_chunks {l piece : List α} (h : piece ∈ chunks n l) : piece ≠ [] := by
  fun_induction chunks n l with
  | case1 l stop => cases h
  | case2 l go ih =>
    rcases List.mem_cons.1 h with rfl | later
    · simpa using go
    · exact ih later

theorem length_le_of_mem_chunks {l piece : List α} (h : piece ∈ chunks n l) : piece.length ≤ n := by
  fun_induction chunks n l with
  | case1 l stop => cases h
  | case2 l go ih =>
    rcases List.mem_cons.1 h with rfl | later
    · exact List.length_take_le n l
    · exact ih later

end Chunks

end ByteScan
