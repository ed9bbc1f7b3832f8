import ByteScan.Kernel
import ByteScan.Proofs.Kernel.Lanes
import ByteScan.Proofs.Kernel.Words

/-!
# Every algorithm finds the first match

All algorithms give the same answer, and it is the first match: the least place, not before the one
where the search starts, at which the pattern matches. A search faults on one condition only, that
the first match lies beyond the largest offset that a result can hold.
-/

namespace ByteScan.Algorithm

open Pattern (firstMatch?)

variable {s : Slice} {data : Bytes}

section Machine

variable [Machine]

theorem findSse2_handedOn (s : Slice) (p : Pattern) :
    Walk.HandedOn s p.tokens (findSse2 s p) := by
  rw [findSse2]
  split
  · exact Lanes.find_handedOn (by decide) (by decide) p.tokens_ne_nil
  · exact Words.find_handedOn p.tokens_ne_nil

/-- Whatever the algorithm and the machine, the search of a slice gives its first match or hands on
its end. -/
theorem findIn_handedOn (a : Algorithm) (s : Slice) (p : Pattern) :
    Walk.HandedOn s p.tokens (a.findIn s p) := by
  cases a with
  | simple => exact .inl (Walk.find_eq p.tokens_ne_nil)
  | compiled => exact Words.find_handedOn p.tokens_ne_nil
  | sse2 => exact findSse2_handedOn s p
  | avx2 =>
    rw [findIn, findAvx2]
    split
    · exact Lanes.find_handedOn (by decide) (by decide) p.tokens_ne_nil
    · exact findSse2_handedOn s p

theorem findIn_eq (a : Algorithm) (p : Pattern) (hs : s.size ≤ Bytes.maxSize) :
    a.findIn s p = ScanResult.ofPlace (firstMatch? p.tokens s.toList) :=
  (findIn_handedOn a s p).eq p.tokens_ne_nil hs

theorem findFrom_eq (a : Algorithm) (p : Pattern) (start : Nat) (hs : data.size ≤ Bytes.maxSize) :
    a.findFrom data p start = ScanResult.ofPlace (p.firstMatchFrom? data start) := by
  rw [findFrom, Pattern.firstMatchFrom?]
  by_cases behind : data.size < start
  · have none : firstMatch? p.tokens (data.toList.drop start) = none := by
      rw [List.drop_eq_nil_of_le (Nat.le_of_lt behind)]
      rfl
    rw [if_pos behind, none]
    rfl
  · have inside : start ≤ (Slice.ofBytes data).size := Nat.le_of_not_lt behind
    obtain ⟨rest, skipped, rest_toList⟩ := Slice.skip_eq_ok inside
    have rest_le : rest.size ≤ Bytes.maxSize := by
      rw [← Slice.length_toList, rest_toList, List.length_drop, Slice.length_toList]
      exact Nat.le_trans (Nat.sub_le _ _) hs
    rw [if_neg behind, skipped, ok_bind, findIn_eq a p rest_le, rest_toList,
      ScanResult.ofPlace_addOffset _ (Nat.le_trans inside hs), Slice.toList_ofBytes]

theorem find_eq_findFrom (a : Algorithm) (p : Pattern) (hs : data.size ≤ Bytes.maxSize) :
    a.find data p = a.findFrom data p 0 := by
  have whole : (Slice.ofBytes data).size ≤ Bytes.maxSize := hs
  rw [find, findIn_eq a p whole, findFrom_eq a p 0 hs, Pattern.firstMatchFrom?, List.drop_zero]
  exact congrArg ScanResult.ofPlace Option.map_id'.symm

/-- **Every search gives the first match.** All algorithms agree, on every machine. A search finds a
place exactly if it is the least one, from the start on, at which the pattern matches; it finds
nothing exactly if there is no such place, as behind the end of the data; and it faults exactly if
that least place is too large for an offset. -/
theorem findFrom_isLeast (a : Algorithm) (data : Bytes) (p : Pattern) (start : Nat)
    (hs : data.size ≤ Bytes.maxSize) :
    (∀ b : Algorithm, b.findFrom data p start = a.findFrom data p start) ∧
    a.find data p = a.findFrom data p 0 ∧
    (∀ m ≤ ScanResult.maxOffset, a.findFrom data p start = .ok ⟨true, Int32.ofNat m⟩ ↔
      IsLeast {m | start ≤ m ∧ p.MatchesAt data m} m) ∧
    (a.findFrom data p start = .ok .notFound ↔ ∀ m, start ≤ m → ¬ p.MatchesAt data m) ∧
    (data.size < start → a.findFrom data p start = .ok .notFound) ∧
    ∀ fault, a.findFrom data p start = .error fault ↔ fault = .offsetTooLarge ∧
      ∃ m, IsLeast {m | start ≤ m ∧ p.MatchesAt data m} m ∧ ScanResult.maxOffset < m := by
  rw [find_eq_findFrom a p hs, findFrom_eq a p start hs]
  refine ⟨fun b => findFrom_eq b p start hs, rfl, fun m hm => ?_, ?_, fun behind => ?_,
    fun fault => ?_⟩
  · rw [ScanResult.ofPlace_eq_found_iff hm, Pattern.firstMatchFrom?_eq_some_iff]
  · rw [ScanResult.ofPlace_eq_notFound_iff, Pattern.firstMatchFrom?_eq_none_iff]
  · rw [ScanResult.ofPlace_eq_notFound_iff, Pattern.firstMatchFrom?_eq_none_iff]
    exact fun m after found => absurd found.lt_size (by omega)
  · simp only [ScanResult.ofPlace_eq_error_iff, Pattern.firstMatchFrom?_eq_some_iff]

end Machine

section Uniprocessor

attribute [local instance] Machine.uniprocessor

/-- A match behind the last whole lane, found in the end of the data by the search lane by lane. -/
theorem findFrom_isLeast_behind_lanes :
    (Array.replicate 20 0 ++ #[0xE8, 0x05] ++ Array.replicate 14 0 : Bytes).size ≤ Bytes.maxSize ∧
    sse2.findFrom (Array.replicate 20 0 ++ #[0xE8, 0x05] ++ Array.replicate 14 0)
      ⟨"?? E8 05", [.wildcard, .byte 0xE8, .byte 0x05], by decide⟩ 3 = .ok ⟨true, 19⟩ := by
  have hs : (Array.replicate 20 0 ++ #[0xE8, 0x05] ++ Array.replicate 14 0 : Bytes).size ≤
      Bytes.maxSize := by decide
  obtain ⟨-, -, found, -⟩ := findFrom_isLeast sse2 _
    ⟨"?? E8 05", [.wildcard, .byte 0xE8, .byte 0x05], by decide⟩ 3 hs
  have lower : ∀ m < 19, ¬ (3 ≤ m ∧ Pattern.MatchesAt
      ⟨"?? E8 05", [.wildcard, .byte 0xE8, .byte 0x05], by decide⟩
      (Array.replicate 20 0 ++ #[0xE8, 0x05] ++ Array.replicate 14 0) m) := by decide
  exact ⟨hs, (found 19 (by decide)).2 ⟨by decide, fun m matched =>
    Nat.le_of_not_lt fun less => lower m less matched⟩⟩

end Uniprocessor

end ByteScan.Algorithm
