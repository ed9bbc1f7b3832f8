import ByteScan.Dispatch
import ByteScan.Proofs.Bytes
import ByteScan.Proofs.Fault

/-!
# Filling the slots of a batch

The pieces of a batch, one after the other, are the patterns in their order, each beside its own
slot. Filling them therefore searches for the patterns in their order, whatever the workers and
however the batch is cut, and a run is a traversal of the batch. A search that only answers may even
fill the slots in any order.
-/

namespace ByteScan.Dispatcher

variable {α : Type} {m : Type → Type} [Monad m]

/-! ### The order of the slots -/

theorem pieceLength_ne_zero {count : Nat} (h : count ≠ 0) (d : Dispatcher) (loadBalance : Bool) :
    d.pieceLength loadBalance count ≠ 0 := by
  rw [pieceLength]
  split
  · exact Nat.one_ne_zero
  · have workers : 0 < max d.workers 1 := by omega
    exact Nat.ne_of_gt (Nat.div_pos (by omega) workers)

theorem flatten_pieces (d : Dispatcher) (loadBalance : Bool) (count : Nat) :
    (d.pieces loadBalance count).flatten = List.range count := by
  rw [pieces]
  cases count with
  | zero => rw [List.range_zero, chunks_nil, List.flatten_nil]
  | succ n => exact flatten_chunks (pieceLength_ne_zero (Nat.succ_ne_zero n) d loadBalance) _

/-- Every pattern stands beside its own slot, and none is lost. -/
theorem flatten_work (d : Dispatcher) (loadBalance : Bool) (batch : List α) :
    (d.work loadBalance batch).flatten = batch.zipIdx := by
  by_cases none : batch = []
  · subst none
    rw [work, chunks_nil]
    rfl
  · have pos := pieceLength_ne_zero (mt List.length_eq_zero_iff.1 none) d loadBalance
    rw [work, pieces, zipWith_zip_chunks pos List.length_range.symm, flatten_chunks pos,
      List.range_eq_range', ← List.zipIdx_eq_zip_range']

section Lawful

variable [LawfulMonad m] (search : α → m ScanResult)

theorem fill_append (calls calls' : List (α × Nat)) (results : Array ScanResult) :
    fill search (calls ++ calls') results = fill search calls results >>= fill search calls' := by
  induction calls generalizing results with
  | nil => exact (pure_bind results _).symm
  | cons call calls ih => simp only [List.cons_append, fill, ih, bind_assoc]

theorem foldlM_fill (pieces : List (List (α × Nat))) (results : Array ScanResult) :
    pieces.foldlM (fun results piece => fill search piece results) results =
      fill search pieces.flatten results := by
  induction pieces generalizing results with
  | nil => rfl
  | cons piece pieces ih =>
    rw [List.foldlM_cons, List.flatten_cons, fill_append]
    exact congrArg _ (funext ih)

/-- The patterns that are left fill the slots that are left. -/
theorem fill_zipIdx (rest : List α) (filled slots : List ScanResult)
    (hs : slots.length = rest.length) :
    fill search (rest.zipIdx filled.length) (filled ++ slots).toArray =
      (fun found => (filled ++ found).toArray) <$> rest.mapM search := by
  induction rest generalizing filled slots with
  | nil =>
    obtain rfl := List.length_eq_zero_iff.1 hs
    rw [List.mapM_nil, map_pure]
    rfl
  | cons p rest ih =>
    obtain ⟨slot, slots, rfl⟩ := List.exists_cons_of_length_eq_add_one hs
    have put (r : ScanResult) : (filled ++ slot :: slots).toArray.setIfInBounds filled.length r =
        ((filled ++ [r]) ++ slots).toArray := by
      rw [List.setIfInBounds_toArray, List.set_append_right _ _ (Nat.le_refl _), Nat.sub_self,
        List.set_cons_zero, List.append_assoc, List.singleton_append]
    have next (r : ScanResult) := ih (filled ++ [r]) slots (Nat.succ.inj hs)
    simp only [List.append_assoc, List.singleton_append, List.length_append, List.length_singleton]
      at next put
    simp only [List.zipIdx_cons, fill, put, next, List.mapM_cons, map_bind, bind_pure_comp,
      Functor.map_map]

/-- **A run is a traversal.** Neither the workers nor the way a batch is cut show in what a run
does: the patterns are searched for in their order, and each result goes to the slot of its pattern.
-/
theorem run_eq_mapM (d : Dispatcher) (loadBalance : Bool) (batch : List α) :
    d.run loadBalance batch search = batch.mapM search := by
  have all := fill_zipIdx search batch [] (List.replicate batch.length .notFound)
    List.length_replicate
  rw [List.nil_append, List.length_nil] at all
  rw [run, foldlM_fill, flatten_work, ← List.toArray_replicate, all, bind_map_left]
  exact bind_pure _

/-! ### Other orders -/

/-- A search that only answers changes exactly the slots that it is told to fill, and the slot of a
pattern gets its answer. -/
theorem getElem?_of_fill {f : α → ScanResult} (answers : ∀ p, search p = pure (f p))
    {batch : List α} (calls : List (α × Nat)) (own : ∀ call ∈ calls, call ∈ batch.zipIdx)
    (results : Array ScanResult) (size : results.size = batch.length) :
    ∃ filled, fill search calls results = pure filled ∧
      ∀ i : Nat, filled[i]? = if i ∈ calls.map Prod.snd then batch[i]?.map f else results[i]? := by
  induction calls generalizing results with
  | nil => exact ⟨results, rfl, fun i => rfl⟩
  | cons call calls ih =>
    obtain ⟨p, slot⟩ := call
    obtain ⟨here, others⟩ := List.forall_mem_cons.1 own
    have asked : batch[slot]? = some p := List.mem_zipIdx_iff_getElem?.1 here
    obtain ⟨filled, eq, entries⟩ := ih others (results.setIfInBounds slot (f p))
      (by rw [Array.size_setIfInBounds, size])
    refine ⟨filled, by simp only [fill, answers, pure_bind, eq], fun i => ?_⟩
    have inside : slot < results.size := by
      have := (List.getElem?_eq_some_iff.1 asked).1
      omega
    by_cases same : i = slot
    · subst same
      rw [entries i, asked, Array.getElem?_setIfInBounds_self_of_lt inside, Option.map_some,
        ite_self, List.map_cons, if_pos List.mem_cons_self]
    · simp only [entries i, Array.getElem?_setIfInBounds_ne (Ne.symm same), List.map_cons,
        List.mem_cons, or_iff_right same]

/-- Calls that are made in any order, each at least once, fill the slots with the same results. -/
theorem fill_eq_map {f : α → ScanResult} (answers : ∀ p, search p = pure (f p)) {batch : List α}
    {calls : List (α × Nat)} (all : ∀ call, call ∈ calls ↔ call ∈ batch.zipIdx) :
    fill search calls (Array.replicate batch.length .notFound) = pure (batch.map f).toArray := by
  obtain ⟨filled, eq, entries⟩ := getElem?_of_fill search answers calls (fun call => (all call).1)
    (Array.replicate batch.length .notFound) Array.size_replicate
  rw [eq]
  refine congrArg pure (Array.ext_getElem? fun i => ?_)
  simp only [entries, List.getElem?_toArray, List.getElem?_map]
  split
  · rfl
  · rename_i missing
    have outside : batch.length ≤ i := by
      refine Nat.le_of_not_lt fun inside => missing (List.mem_map.2 ⟨(batch[i], i), ?_, rfl⟩)
      exact (all _).2 (List.mem_zipIdx_iff_getElem?.2 (List.getElem?_eq_getElem inside))
    rw [List.getElem?_eq_none outside, Array.getElem?_eq_none (by rwa [Array.size_replicate])]
    rfl

end Lawful

end ByteScan.Dispatcher
