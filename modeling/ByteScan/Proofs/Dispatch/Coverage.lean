import ByteScan.Proofs.Dispatch
import Mathlib.Algebra.Order.Floor.Div

/-!
# Every pattern once, whoever comes first

The pieces of patterns and the pieces of slots are cut alike, so side by side they give every
pattern its own slot. Workers fill their pieces at the same time. Each of them makes the calls of
its piece in their order, but the calls of different pieces are made in any order, so all that is
known of the order of the calls is that it interleaves the pieces (`Interleaves`). Every such order
has each pattern once, and each value ends up in the slot of the pattern it was found for
(`fill_eq_mapM`, `getElem?_stored`). With `w` workers there are at most `w` pieces.
-/

namespace ByteScan

/-! ### Interleavings -/

section Interleavings

variable {β γ : Type} {pieces pieces' : List (List β)} {order : List β}

/-- `Interleaves pieces order`: the elements of `order` are those of all pieces, and each of them is
the first one that is then left of its piece. -/
inductive Interleaves : List (List β) → List β → Prop where
  /-- Nothing is left of any piece. -/
  | done {pieces : List (List β)} : (∀ piece ∈ pieces, piece = []) → Interleaves pieces []
  /-- The first element of some piece comes next. -/
  | next {front back : List (List β)} {piece order : List β} {b : β} :
      Interleaves (front ++ piece :: back) order →
        Interleaves (front ++ (b :: piece) :: back) (b :: order)

theorem Interleaves.perm (h : Interleaves pieces order) : order.Perm pieces.flatten := by
  induction h with
  | done none => rw [List.flatten_eq_nil_iff.2 none]
  | next _ ih =>
    rw [List.flatten_append, List.flatten_cons] at ih ⊢
    exact (ih.cons _).trans List.perm_middle.symm

/-- It does not matter how the pieces are ordered. -/
theorem Interleaves.of_perm (h : Interleaves pieces order) (same : pieces.Perm pieces') :
    Interleaves pieces' order := by
  induction h generalizing pieces' with
  | done none => exact .done fun piece mem => none piece (same.mem_iff.2 mem)
  | @next front back piece order b _ ih =>
    obtain ⟨front', back', rfl⟩ := List.append_of_mem
      (same.mem_iff.1 (List.mem_append_right front List.mem_cons_self))
    have others := (List.perm_middle.symm.trans (same.trans List.perm_middle)).cons_inv
    exact .next (ih (List.perm_middle.trans ((others.cons piece).trans List.perm_middle.symm)))

theorem interleaves_flatten (pieces : List (List β)) : Interleaves pieces pieces.flatten := by
  -- Pieces of which nothing is left stay in front.
  suffices behind : ∀ front : List (List β), (∀ piece ∈ front, piece = []) →
      Interleaves (front ++ pieces) pieces.flatten from behind [] (List.forall_mem_nil _)
  induction pieces with
  | nil =>
    intro front none
    rw [List.append_nil]
    exact .done none
  | cons piece pieces ih =>
    intro front none
    rw [List.flatten_cons]
    induction piece with
    | nil =>
      have none' : ∀ piece ∈ front ++ [[]], piece = [] :=
        List.forall_mem_append.2 ⟨none, List.forall_mem_singleton.2 rfl⟩
      have next := ih (front ++ [[]]) none'
      rwa [List.append_assoc] at next
    | cons b piece ih' => exact .next ih'

end Interleavings

/-! ### Values and slots -/

namespace Dispatcher

variable {α : Type} {m : Type → Type} [Monad m]

/-- The slots after each of some values has been stored in a slot of its own. -/
def stored (slots : List Nat) (values : List ScanResult) (results : Array ScanResult) :
    Array ScanResult :=
  (slots.zip values).foldl (fun results call => results.setIfInBounds call.1 call.2) results

section Stored

variable {slots : List Nat} {values : List ScanResult} {results : Array ScanResult} {slot : Nat}
  {value : ScanResult}

theorem stored_cons : stored (slot :: slots) (value :: values) results =
    stored slots values (results.setIfInBounds slot value) := rfl

theorem size_stored (slots : List Nat) (values : List ScanResult) (results : Array ScanResult) :
    (stored slots values results).size = results.size := by
  induction slots generalizing values results with
  | nil => rfl
  | cons slot slots ih =>
    cases values with
    | nil => rfl
    | cons value values => rw [stored_cons, ih, Array.size_setIfInBounds]

theorem getElem?_stored_of_notMem (h : slot ∉ slots) (values : List ScanResult)
    (results : Array ScanResult) : (stored slots values results)[slot]? = results[slot]? := by
  induction slots generalizing values results with
  | nil => rfl
  | cons other slots ih =>
    rw [List.mem_cons, not_or] at h
    cases values with
    | nil => rfl
    | cons value values =>
      rw [stored_cons, ih h.2, Array.getElem?_setIfInBounds_ne (Ne.symm h.1)]

/-- If no slot is used twice, each value stays in the slot that it was stored in. -/
theorem getElem?_stored {k : Nat} (nodup : slots.Nodup) (length : slots.length = values.length)
    (inside : ∀ slot ∈ slots, slot < results.size) (h : slots[k]? = some slot) :
    (stored slots values results)[slot]? = values[k]? := by
  induction slots generalizing values results k with
  | nil => simp at h
  | cons other slots ih =>
    obtain ⟨value, values, rfl⟩ := List.exists_cons_of_length_eq_add_one length.symm
    obtain ⟨first, others⟩ := List.forall_mem_cons.1 inside
    rw [List.nodup_cons] at nodup
    rw [stored_cons]
    cases k with
    | zero =>
      obtain rfl := Option.some.inj h
      rw [getElem?_stored_of_notMem nodup.1, Array.getElem?_setIfInBounds_self_of_lt first]
      rfl
    | succ k =>
      exact ih nodup.2 (Nat.succ.inj length) (by rwa [Array.size_setIfInBounds]) h

end Stored

/-- Filling slots makes one call for each of them, in their order, and stores what it gives there.
-/
theorem fill_eq_mapM [LawfulMonad m] (search : α → m ScanResult) (order : List (α × Nat))
    (results : Array ScanResult) :
    fill search order results =
      (fun values => stored (order.map Prod.snd) values results) <$>
        order.mapM fun call => search call.1 := by
  induction order generalizing results with
  | nil => simp [fill, stored]
  | cons call order ih =>
    simp only [List.map_cons, fill, ih, List.mapM_cons, map_bind, stored_cons, bind_pure_comp,
      Functor.map_map]

/-! ### The pieces of a batch -/

variable {d : Dispatcher} {loadBalance : Bool} {batch : List α}

/-- Whatever the order of the calls, each pattern is searched for once, and its slot is its own. -/
theorem perm_zipIdx_of_interleaves {order : List (α × Nat)}
    (h : Interleaves (d.work loadBalance batch) order) : order.Perm batch.zipIdx := by
  have perm := h.perm
  rwa [flatten_work] at perm

/-- Without load balancing, as many patterns make a piece as it takes for one piece per worker. -/
theorem pieceLength_eq_ceilDiv (d : Dispatcher) (count : Nat) :
    d.pieceLength false count = count ⌈/⌉ max d.workers 1 := by
  rw [Nat.ceilDiv_eq_add_pred_div, Nat.add_sub_assoc (Nat.le_max_right d.workers 1)]
  rfl

theorem length_pieces_le (d : Dispatcher) (count : Nat) :
    (d.pieces false count).length ≤ max d.workers 1 := by
  have workers : 0 < max d.workers 1 := Nat.lt_of_lt_of_le Nat.one_pos (Nat.le_max_right _ _)
  by_cases none : count = 0
  · subst none
    simp [pieces]
  · have pos := pieceLength_ne_zero none d false
    have enough : count ≤ max d.workers 1 * d.pieceLength false count := by
      rw [pieceLength_eq_ceilDiv, ← smul_eq_mul]
      exact le_smul_ceilDiv workers
    have length : (d.pieces false count).length = count ⌈/⌉ d.pieceLength false count := by
      rw [pieces, length_chunks pos, List.length_range, Nat.ceilDiv_eq_add_pred_div,
        Nat.add_sub_assoc (Nat.pos_of_ne_zero pos)]
    rw [length, ceilDiv_le_iff_le_smul (Nat.pos_of_ne_zero pos), smul_eq_mul, Nat.mul_comm]
    exact enough

/-- A piece of slots and the piece of patterns beside it begin and end at the same places. -/
theorem bounds_of_getElem?_pieces (some : batch ≠ []) {j : Nat} {slots : List Nat}
    (h : (d.pieces loadBalance batch.length)[j]? = .some slots) :
    slots ≠ [] ∧
      slots = List.range' (d.pieceLength loadBalance batch.length * j) slots.length ∧
      (chunks (d.pieceLength loadBalance batch.length) batch)[j]? =
        .some ((batch.drop (d.pieceLength loadBalance batch.length * j)).take slots.length) := by
  have pos := pieceLength_ne_zero (mt List.length_eq_zero_iff.1 some) d loadBalance
  rw [pieces] at h
  have filled := ne_nil_of_mem_chunks (List.mem_of_getElem? h)
  rw [getElem?_chunks pos, List.length_range] at h
  split at h
  · rename_i inside
    cases h
    refine ⟨filled, ?_, ?_⟩
    · apply List.ext_getElem <;> simp
    · rw [getElem?_chunks pos, if_pos inside]
      simp
  · cases h

/-- **A run covers each pattern once**, whatever the workers and however the batch is cut. The calls
may be made in any order that interleaves the pieces. Then each pattern is searched for once, beside
its own slot, by exactly these calls in this order; and once all values are there, the value of each
call is in the slot of its pattern. The pieces may also be worked off one by one, in any order of
the pieces. A run is the case of one piece after the other, and makes no call for an empty batch.
Without load balancing the pieces are cut as evenly as the number of workers allows: none of them is
empty, each takes up where the one before it ended, for slots and for patterns alike, and there is
at most one for each worker. -/
theorem run_covers_each_once [LawfulMonad m] (d : Dispatcher) (loadBalance : Bool) (batch : List α)
    (search : α → m ScanResult) :
    (∀ order : List (α × Nat), Interleaves (d.work loadBalance batch) order →
      order.Perm batch.zipIdx ∧
      fill search order (Array.replicate batch.length .notFound) =
        (fun values =>
          stored (order.map Prod.snd) values (Array.replicate batch.length .notFound)) <$>
          (order.mapM fun call => search call.1) ∧
      ∀ values : List ScanResult, values.length = batch.length →
        let results := stored (order.map Prod.snd) values (Array.replicate batch.length .notFound)
        results.size = batch.length ∧
        ∀ (k : Nat) (p : α) (slot : Nat), order[k]? = some (p, slot) →
          results[slot]? = values[k]?) ∧
    (∀ pieces : List (List (α × Nat)), pieces.Perm (d.work loadBalance batch) →
      Interleaves (d.work loadBalance batch) pieces.flatten) ∧
    d.run loadBalance batch search =
      Array.toList <$> fill search (d.work loadBalance batch).flatten
        (Array.replicate batch.length .notFound) ∧
    d.run loadBalance batch search = batch.mapM search ∧
    (batch = [] → d.run loadBalance batch search = pure []) ∧
    (loadBalance = false → batch ≠ [] →
      let length := d.pieceLength false batch.length
      let pieces := d.pieces false batch.length
      length = batch.length ⌈/⌉ max d.workers 1 ∧ 1 ≤ length ∧
      pieces.length = (chunks length batch).length ∧ pieces.length ≤ max d.workers 1 ∧
      pieces.flatten = List.range batch.length ∧
      ∀ (j : Nat) (slots : List Nat), pieces[j]? = some slots →
        slots ≠ [] ∧ slots = List.range' (length * j) slots.length ∧
        (chunks length batch)[j]? = some ((batch.drop (length * j)).take slots.length)) := by
  refine ⟨?_, ?_, ?_, run_eq_mapM search d loadBalance batch, ?_, ?_⟩
  · intro order interleaved
    have perm := perm_zipIdx_of_interleaves interleaved
    have slots := perm.map Prod.snd
    rw [List.zipIdx_map_snd] at slots
    refine ⟨perm, fill_eq_mapM search order _, fun values length => ⟨?_, ?_⟩⟩
    · rw [size_stored, Array.size_replicate]
    · intro k p slot called
      refine getElem?_stored (slots.nodup_iff.2 List.nodup_range') ?_ ?_ ?_
      · rw [slots.length_eq, List.length_range', length]
      · intro slot mem
        have inside := (List.mem_range'_1.1 (slots.mem_iff.1 mem)).2
        rwa [Array.size_replicate, ← Nat.zero_add batch.length]
      · rw [List.getElem?_map, called]
        rfl
  · intro pieces same
    exact (interleaves_flatten pieces).of_perm same
  · rw [← foldlM_fill, run]
    exact bind_pure_comp _ _
  · rintro rfl
    rw [run_eq_mapM, List.mapM_nil]
  · rintro rfl some
    have pos := pieceLength_ne_zero (mt List.length_eq_zero_iff.1 some) d false
    refine ⟨pieceLength_eq_ceilDiv d _, Nat.pos_of_ne_zero pos, ?_, length_pieces_le d _,
      flatten_pieces d false _, fun j slots => bounds_of_getElem?_pieces some⟩
    rw [pieces, length_chunks pos, length_chunks pos, List.length_range]

/-- Two workers, three patterns. The second piece is searched for first, and the calls are told in
this order; the results are in the order of the patterns. -/
theorem run_covers_each_once_from_behind :
    ∃ (d : Dispatcher) (batch : List Int32) (search : Int32 → StateM (List Int32) ScanResult)
      (order : List (Int32 × Nat)),
      d = ⟨2, true⟩ ∧ batch = [30, 10, 20] ∧
      (search = fun p => do modify (· ++ [p]); return ⟨true, p⟩) ∧
      d.work false batch = [[(30, 0), (10, 1)], [(20, 2)]] ∧ order = [(20, 2), (30, 0), (10, 1)] ∧
      Interleaves (d.work false batch) order ∧
      (fill search order (Array.replicate 3 .notFound)).run [] =
        (#[⟨true, 30⟩, ⟨true, 10⟩, ⟨true, 20⟩], [20, 30, 10]) := by
  let d : Dispatcher := ⟨2, true⟩
  let batch : List Int32 := [30, 10, 20]
  let search : Int32 → StateM (List Int32) ScanResult := fun p => do
    modify (· ++ [p])
    return ⟨true, p⟩
  have pieces : d.work false batch = [[(30, 0), (10, 1)], [(20, 2)]] := by decide +kernel
  obtain ⟨orders, anyPieces, -⟩ := run_covers_each_once d false batch search
  have order : Interleaves (d.work false batch) [(20, 2), (30, 0), (10, 1)] := by
    refine anyPieces [[(20, 2)], [(30, 0), (10, 1)]] ?_
    rw [pieces]
    exact List.Perm.swap _ _ _
  obtain ⟨-, filled, -⟩ := orders _ order
  exact ⟨d, batch, search, _, rfl, rfl, rfl, pieces, rfl, order,
    (congrArg (StateT.run · []) filled).trans rfl⟩

end Dispatcher

end ByteScan
