import ByteScan.Proofs.Workers.Invariant
import Mathlib.Algebra.BigOperators.Group.Finset.Basic
import Mathlib.Algebra.Order.BigOperators.Group.Finset
import Mathlib.Data.List.Dedup

/-!
# How the workers end

Every step brings the workers closer to the end, and as long as they are not done and no search
faults one of them can act: none ever waits for another. So whatever order they act in, they end,
and then the invariant says how: every slot has the result of its pattern, and the cache has exactly
the keys of the batch. A worker stores what it has searched for before it takes the next pattern, so
it misses no key twice and no key is searched for more often than there are workers.
-/

namespace ByteScan.Workers

open Relation Scanner

section Machine

variable [Machine] {batch : List Pattern} {workers : Nat} {s : Scanner} {w : Fin workers}
  {d d' : Shared batch workers} {x y : Phase batch.length} {σ τ : State batch workers}

/-! ### An end is reached -/

/-- How many steps a worker has to go until it has recorded the result of its pattern. -/
def Phase.left {n : Nat} : Phase n → Nat
  | idle => 0
  | looking _ => 4
  | missing _ => 3
  | storing _ _ => 2
  | recording _ _ => 1

/-- How many steps the workers have to go, at most. -/
def State.left (σ : State batch workers) : Nat :=
  5 * σ.shared.waiting.card + ∑ w, (σ.phase w).left

theorem Act.left_lt (h : Act s w d x y d') :
    5 * d'.waiting.card + y.left < 5 * d.waiting.card + x.left := by
  cases h with
  | @take i waiting =>
    have := Finset.card_erase_add_one waiting
    show 5 * (d.waiting.erase i).card + 4 < 5 * d.waiting.card + 0
    omega
  | hit | miss | scan | store | record =>
    simp only [Phase.left]
    omega

theorem Step.left_lt (h : Step s σ τ) : τ.left < σ.left := by
  cases h with
  | @mk w x y d here act =>
    subst here
    have less := act.left_lt
    have others : ∑ v ∈ Finset.univ.erase w, (Function.update σ.phase w y v).left =
        ∑ v ∈ Finset.univ.erase w, (σ.phase v).left := by
      refine Finset.sum_congr rfl fun v hv => ?_
      rw [Function.update_of_ne (Finset.ne_of_mem_erase hv)]
    have before := Finset.add_sum_erase Finset.univ (fun v => (σ.phase v).left) (Finset.mem_univ w)
    have after := Finset.add_sum_erase Finset.univ (fun v => (Function.update σ.phase w y v).left)
      (Finset.mem_univ w)
    rw [others, Function.update_self] at after
    show 5 * d.waiting.card + ∑ v, (Function.update σ.phase w y v).left < σ.left
    rw [State.left]
    omega

/-- **No run goes on forever.** -/
theorem wellFounded_step (s : Scanner) (batch : List Pattern) (workers : Nat) :
    WellFounded fun τ σ : State batch workers => Step s σ τ :=
  Subrelation.wf Step.left_lt (measure State.left).wf

section Progress

variable (answered : ∀ p ∈ batch, ∃ r, s.search p = .ok r)

include answered

/-- A worker that has a pattern can act. -/
theorem exists_act {i : Fin batch.length} (has : x.index? = some i) (w : Fin workers)
    (d : Shared batch workers) : ∃ y d', Act s w d x y d' := by
  cases x with
  | idle => cases has
  | looking j =>
    cases found : d.cache.get? (batch.get j).source with
    | some r => exact ⟨_, _, .hit found⟩
    | none => exact ⟨_, _, .miss found⟩
  | missing j =>
    obtain ⟨r, found⟩ := answered (batch.get j) (List.get_mem batch j)
    exact ⟨_, _, .scan found⟩
  | storing j r => exact ⟨_, _, .store⟩
  | recording j r => exact ⟨_, _, .record⟩

/-- As long as the workers are not done, one of them can act. -/
theorem exists_step (h : 0 < workers) (unfinished : ¬ σ.Done) : ∃ τ, Step s σ τ := by
  by_cases busy : ∃ w i, (σ.phase w).index? = some i
  · obtain ⟨w, i, has⟩ := busy
    obtain ⟨y, d', act⟩ := exists_act answered has w σ.shared
    exact ⟨_, .mk rfl act⟩
  · have idle (w : Fin workers) : σ.phase w = .idle := by
      cases here : σ.phase w with
      | idle => rfl
      | looking i | missing i | storing i _ | recording i _ =>
        exact absurd ⟨w, i, by rw [here]; rfl⟩ busy
    have waiting : σ.shared.waiting ≠ ∅ := fun none => unfinished ⟨none, idle⟩
    obtain ⟨i, mem⟩ := Finset.nonempty_of_ne_empty waiting
    exact ⟨_, .mk (idle ⟨0, h⟩) (.take mem)⟩

theorem exists_done (h : 0 < workers) (σ : State batch workers) : ∃ τ, Run s σ τ ∧ τ.Done := by
  induction σ using (wellFounded_step s batch workers).induction with
  | _ σ ih =>
    by_cases done : σ.Done
    · exact ⟨σ, .refl, done⟩
    · obtain ⟨σ', step⟩ := exists_step answered h done
      obtain ⟨τ, run, done⟩ := ih σ' step
      exact ⟨τ, .head step run, done⟩

end Progress

/-! ### What holds at the end -/

theorem Inv.finished (inv : Inv s σ) (done : σ.Done) (i : Fin batch.length) :
    Finished s σ.shared i := by
  rcases inv.accounted i with waiting | ⟨w, has⟩ | finished
  · rw [done.1] at waiting
    exact absurd waiting (Finset.notMem_empty i)
  · rw [done.2 w] at has
    cases has
  · exact finished

/-- At the end the slots have what the searches of the batch give, one after the other. -/
theorem Inv.mapM_search_eq (inv : Inv s σ) (done : σ.Done) :
    batch.mapM s.search = .ok σ.results := by
  have found : s.search ∘ batch.get = fun i => pure (σ.shared.slots i) :=
    funext fun i => (inv.finished done i).1
  calc
    batch.mapM s.search = ((List.finRange batch.length).map batch.get).mapM s.search := by
      rw [List.map_get_finRange]
    _ = (List.finRange batch.length).mapM fun i => pure (σ.shared.slots i) := by
      rw [List.mapM_map, found]
    _ = .ok σ.results := by
      rw [List.mapM_pure, State.results, List.ofFn_eq_map]
      rfl

theorem Inv.keys_perm (inv : Inv s σ) (done : σ.Done) :
    σ.shared.cache.keys.Perm (batch.map Pattern.key).dedup := by
  refine (List.perm_ext_iff_of_nodup σ.shared.cache.keys_nodup (List.nodup_dedup _)).2 fun key => ?_
  rw [List.mem_dedup]
  constructor
  · intro mem
    obtain ⟨w, scanned⟩ := inv.sound.searched key mem
    obtain ⟨i, same⟩ := inv.sound.requested w key scanned
    exact List.mem_map.2 ⟨batch.get i, List.get_mem batch i, same⟩
  · intro requested
    obtain ⟨p, mem, rfl⟩ := List.mem_map.1 requested
    obtain ⟨i, rfl⟩ := List.get_of_mem mem
    exact (inv.finished done i).2

theorem Inv.scanCount_le (inv : Inv s σ) (key : String) : σ.scanCount key ≤ workers := by
  have nodup : ((σ.shared.scans.filter (·.2 = key)).map Prod.fst).Nodup := by
    refine (inv.sound.nodup.filter _).map_on fun a ha b hb same => ?_
    have hkey := of_decide_eq_true (List.mem_filter.1 ha).2
    have hkey' := of_decide_eq_true (List.mem_filter.1 hb).2
    exact Prod.ext same (hkey.trans hkey'.symm)
  calc
    σ.scanCount key = ((σ.shared.scans.filter (·.2 = key)).map Prod.fst).length := by
      rw [State.scanCount, List.countP_eq_length_filter, List.length_map]
    _ ≤ Fintype.card (Fin workers) := nodup.length_le_card
    _ = workers := Fintype.card_fin workers

theorem Inv.scanCount_pos (inv : Inv s σ) (done : σ.Done) {p : Pattern} (mem : p ∈ batch) :
    1 ≤ σ.scanCount p.key := by
  obtain ⟨i, rfl⟩ := List.get_of_mem mem
  obtain ⟨w, scanned⟩ := inv.sound.searched _ (inv.finished done i).2
  exact List.countP_pos_iff.2 ⟨_, scanned, decide_eq_true rfl⟩

/-! ### One worker by itself -/

theorem Act.step (h : Act s w d x y d') (phase : Fin workers → Phase batch.length) :
    Step s ⟨d, Function.update phase w x⟩ ⟨d', Function.update phase w y⟩ := by
  have step : Step s ⟨d, Function.update phase w x⟩ ⟨d', _⟩ := .mk (Function.update_self _ _ _) h
  rwa [Function.update_idem] at step

/-- **A worker that nobody disturbs does a cached search**: its steps for one pattern, made one
after the other, change the cache and fill the slot as such a search does. -/
theorem run_searchCached {i : Fin batch.length} {r : ScanResult} {c : Cache}
    (idle : σ.phase w = .idle) (waiting : i ∈ σ.shared.waiting)
    (h : (s.searchCached (batch.get i)).run σ.shared.cache = .ok (r, c)) :
    ∃ τ, Run s σ τ ∧ τ.phase = σ.phase ∧ τ.shared.cache = c ∧
      τ.shared.waiting = σ.shared.waiting.erase i ∧
      τ.shared.slots = Function.update σ.shared.slots i r := by
  have same : Function.update σ.phase w .idle = σ.phase := by rw [← idle, Function.update_eq_self]
  have take : Step s σ ⟨{ σ.shared with waiting := σ.shared.waiting.erase i }, _⟩ :=
    .mk idle (.take waiting)
  change σ.shared.cache.getOrSearch (batch.get i).source (s.search (batch.get i)) = .ok (r, c) at h
  rw [Cache.getOrSearch] at h
  cases stored : σ.shared.cache.get? (batch.get i).source with
  | some r' =>
    rw [stored] at h
    cases h
    have hit : Act s w { σ.shared with waiting := σ.shared.waiting.erase i } _ _ _ := .hit stored
    exact ⟨_, .head take (.head (hit.step _) (.single (Act.record.step _))), same, rfl, rfl, rfl⟩
  | none =>
    rw [stored] at h
    obtain ⟨value, found, h⟩ := exists_of_bind_eq_ok h
    have outcome : σ.shared.cache.insertIfAbsent (batch.get i).source value = (r, c) :=
      Except.ok.inj h
    have miss : Act s w { σ.shared with waiting := σ.shared.waiting.erase i } _ _ _ := .miss stored
    have scan : Act s w { σ.shared with waiting := σ.shared.waiting.erase i } _ _ _ :=
      .scan found
    refine ⟨_, .head take (.head (miss.step _) (.head (scan.step _)
      (.head (Act.store.step _) (.single (Act.record.step _))))), same, ?_, rfl, ?_⟩
    · exact congrArg Prod.snd outcome
    · exact congrArg (Function.update _ _) (congrArg Prod.fst outcome)

/-! ### Batches in any order -/

theorem Run.mem_entries (h : Run s σ τ) {entry : String × ScanResult}
    (mem : entry ∈ σ.shared.cache.entries) : entry ∈ τ.shared.cache.entries := by
  induction h with
  | refl => exact mem
  | tail _ step ih =>
    cases step with
    | mk _ act => exact act.mem_entries ih

theorem Run.scanCount_le (h : Run s σ τ) (key : String) : σ.scanCount key ≤ τ.scanCount key := by
  induction h with
  | refl => exact Nat.le_refl _
  | tail _ step ih =>
    refine Nat.le_trans ih ?_
    cases step with
    | mk _ act =>
      cases act with
      | take | hit | miss | store | record => exact Nat.le_refl _
      | scan => exact (List.sublist_cons_self _ _).countP_le

/-- **A batch with a shared cache, in any order.** In every state that the workers reach each entry
of the cache is the result of every pattern of the batch with its key, and stays as it is. As long
as no search faults the workers can always come to an end. When they are done every slot has the
result of its pattern, as if the batch had been searched for in order; the cache has exactly the
keys of the batch; and each of them was searched for, but no more often than there are workers. -/
theorem run_correct (s : Scanner) (batch : List Pattern)
    (parsed : ∀ p ∈ batch, ∃ text, Pattern.parse text = .ok p) (workers : Nat)
    (σ : State batch workers) (reached : Run s (State.start batch workers) σ) :
    (∀ key r, (key, r) ∈ σ.shared.cache.entries → ∀ p ∈ batch, p.key = key → s.search p = .ok r) ∧
    (∀ τ, Run s σ τ → ∀ entry ∈ σ.shared.cache.entries, entry ∈ τ.shared.cache.entries) ∧
    ((∀ p ∈ batch, ∃ r, s.search p = .ok r) → 0 < workers → ∃ τ, Run s σ τ ∧ τ.Done) ∧
    (σ.Done →
      (∀ i, s.search (batch.get i) = .ok (σ.shared.slots i)) ∧
      (∀ balance, s.searchBatchCached balance batch = .ok σ.results) ∧
      σ.shared.cache.keys.Perm (batch.map Pattern.key).dedup ∧
      ∀ p ∈ batch, 1 ≤ σ.scanCount p.key ∧ σ.scanCount p.key ≤ workers ∧
        (workers = 1 → σ.scanCount p.key = 1)) := by
  have inv := (inv_start s batch workers).run parsed reached
  refine ⟨fun key r mem p hp same => ?_, fun τ run entry mem => run.mem_entries mem,
    fun answered some => exists_done answered some σ, fun done => ⟨fun i => (inv.finished done i).1,
    fun balance => ?_, inv.keys_perm done, fun p hp => ?_⟩⟩
  · obtain ⟨text, read⟩ := parsed p hp
    exact inv.sound.confirms key r mem text p read same
  · rw [searchBatchCached_eq s balance parsed, inv.mapM_search_eq done]
  · have most := inv.scanCount_le p.key
    have least := inv.scanCount_pos done hp
    exact ⟨least, most, fun one => by omega⟩

end Machine

section Uniprocessor

attribute [local instance] Machine.uniprocessor

/-- Two workers that look a key up before either of them has stored it both search for it. -/
theorem run_correct_two_misses :
    ∃ (s : Scanner) (batch : List Pattern) (σ : State batch 2),
      batch.map Pattern.key = ["BB", "BB"] ∧ Run s (State.start batch 2) σ ∧ σ.Done ∧
        σ.shared.cache.keys = ["BB"] ∧ σ.scanCount "BB" = 2 := by
  let s : Scanner := ⟨⟨.owned, #[0xAA, 0xBB]⟩, .simple, .shared⟩
  have reportable : s.region.Reportable := by decide
  let batch : List Pattern := [⟨"BB", [.byte 0xBB], by decide⟩, ⟨"bb", [.byte 0xBB], by decide⟩]
  have parsed : ∀ p ∈ batch, ∃ text, Pattern.parse text = .ok p := by
    intro p mem
    rcases List.mem_cons.1 mem with rfl | mem
    · exact ⟨"BB", rfl⟩
    · obtain rfl := List.mem_singleton.1 mem
      exact ⟨"bb", rfl⟩
  have both : ∃ σ, Run s (State.start batch 2) σ ∧ 2 ≤ σ.scanCount "BB" := by
    refine ⟨_, .head (.mk (w := 0) rfl (.take (i := 0) (by decide))) <|
      .head (.mk (w := 1) rfl (.take (i := 1) (by decide))) <|
      .head (.mk (w := 0) rfl (.miss rfl)) <| .head (.mk (w := 1) rfl (.miss rfl)) <|
      .head (.mk (w := 0) rfl (.scan (search_eq_answer reportable _))) <|
      .single (.mk (w := 1) rfl (.scan (search_eq_answer reportable _))), ?_⟩
    decide
  obtain ⟨σ, first, twice⟩ := both
  obtain ⟨τ, rest, done⟩ :=
    exists_done (fun p _ => ⟨_, search_eq_answer reportable p⟩) (by decide) σ
  have reached : Run s (State.start batch 2) τ := first.trans rest
  obtain ⟨-, -, -, ends⟩ := run_correct s batch parsed 2 τ reached
  obtain ⟨-, -, keys, counts⟩ := ends done
  have one : (batch.map Pattern.key).dedup = ["BB"] := by decide
  have most : τ.scanCount "BB" ≤ 2 := (counts _ List.mem_cons_self).2.1
  have least := Nat.le_trans twice (rest.scanCount_le "BB")
  rw [one] at keys
  exact ⟨s, batch, τ, rfl, reached, done, List.perm_singleton.1 keys, Nat.le_antisymm most least⟩

end Uniprocessor

end ByteScan.Workers
