import ByteScan.Algorithm

/-!
# Algorithms that the machine can run

The search byte by byte runs on every machine, so there is always an algorithm at the end of the way
down. It is the fastest of those that the machine can run and that are not faster than the one at
the beginning; on the way down lie exactly the ones that it cannot run.
-/

namespace ByteScan.Algorithm

variable {a b missing slower : Algorithm}

theorem rank_le_of_fallback (next : a.fallback = some slower) (h : b.rank < a.rank) :
    b.rank ≤ slower.rank := by
  cases a <;> cases next <;> exact Nat.le_of_lt_succ h

theorem eq_of_rank_eq (h : a.rank = b.rank) : a = b := by
  cases a <;> cases b <;> first | rfl | cases h

variable [Machine]

theorem resolve_of_isSupported (h : a.isSupported) : a.resolve = a := by
  rw [resolve, if_pos h]

theorem resolve_of_fallback (h : ¬ a.isSupported) (next : a.fallback = some slower) :
    a.resolve = slower.resolve := by
  rw [resolve, if_neg h]
  split
  · rename_i other eq
    rw [Option.some.inj (next.symm.trans eq)]
  · rename_i eq
    cases next.symm.trans eq

theorem isSupported_resolve (a : Algorithm) : a.resolve.isSupported := by
  fun_induction resolve a with
  | case1 a supported => exact supported
  | case2 a _ slower _ ih => exact ih
  | case3 a unsupported last =>
    cases a with
    | simple => exact absurd rfl unsupported
    | compiled | sse2 | avx2 => cases last

theorem rank_resolve_le (a : Algorithm) : a.resolve.rank ≤ a.rank := by
  fun_induction resolve a with
  | case1 a => exact Nat.le_refl _
  | case2 a _ slower next ih => exact Nat.le_trans ih (Nat.le_of_lt (rank_lt_of_fallback next))
  | case3 a => exact Nat.le_refl _

/-- None that is faster than the one at the end, and not faster than the one at the beginning, can
be run. -/
theorem rank_le_rank_resolve (h : b.isSupported) (le : b.rank ≤ a.rank) :
    b.rank ≤ a.resolve.rank := by
  fun_induction resolve a with
  | case1 a => exact le
  | case2 a unsupported slower next ih =>
    refine ih (rank_le_of_fallback next (Nat.lt_of_le_of_ne le fun same => ?_))
    exact unsupported (eq_of_rank_eq same ▸ h)
  | case3 a => exact le

theorem of_mem_replacements (h : (missing, slower) ∈ a.replacements) :
    missing.isSupported = false ∧ missing.fallback = some slower := by
  fun_induction replacements a with
  | case1 a => cases h
  | case2 a unsupported next eq ih =>
    rcases List.mem_cons.1 h with same | later
    · cases same
      exact ⟨Bool.eq_false_iff.2 unsupported, eq⟩
    · exact ih later
  | case3 a => cases h

/-- The fastest algorithm is the one at the end of the whole way down. -/
theorem best_eq_resolve : best = avx2.resolve := by
  have order : all.reverse = [avx2, sse2, compiled, simple] := rfl
  rw [best, order]
  by_cases avx : avx2.isSupported
  · rw [List.find?_cons_of_pos avx, resolve_of_isSupported avx, Option.getD_some]
  · rw [List.find?_cons_of_neg avx, resolve_of_fallback avx rfl]
    by_cases sse : sse2.isSupported
    · rw [List.find?_cons_of_pos sse, resolve_of_isSupported sse, Option.getD_some]
    · rw [List.find?_cons_of_neg sse, resolve_of_fallback sse rfl, resolve_of_isSupported rfl]
      rfl

/-- No algorithm that the machine can run is faster. -/
theorem rank_le_rank_best (h : a.isSupported) : a.rank ≤ best.rank := by
  rw [best_eq_resolve]
  refine rank_le_rank_resolve h ?_
  cases a <;> decide

end ByteScan.Algorithm
