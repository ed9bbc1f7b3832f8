import ByteScan.Proofs.Memory.Borrowing

/-!
# Which images are visible

A file may be mapped from its first byte at several places. A module may begin at each of these
mappings, but a run has one module only: it begins at the first of them and covers the chain behind
it. The others are visible as far as the chain reaches; one behind the chain is passed over,
although nothing but its place tells it from the first (`thirdImage` has a mapping of another file
in front of it and is visible, `secondImage` is not). So an image is lost exactly if it stands
behind the chain of its run, whatever else is listed.
-/

namespace ByteScan

/-- A module covers a mapping from its first address to its last. -/
def Module.Spans (module : Module) (m : Mapping) : Prop :=
  module.base.value.toNat ≤ m.start.toNat ∧
    m.stop.toNat ≤ module.base.value.toNat + module.size.toNat

instance (module : Module) (m : Mapping) : Decidable (module.Spans m) :=
  inferInstanceAs (Decidable (_ ∧ _))

namespace Listing

variable {ms run run' : List Mapping} {m : Mapping} {module : Module}

/-- A mapping is visible if a module of its file covers it. -/
def IsVisible (found : List Module) (m : Mapping) : Prop :=
  ∃ module ∈ found, module.path = m.path ∧ module.Spans m

/-! ### Places in a listing -/

theorem Ascending.not_stop_le_start (h : Ascending ms) (hm : m ∈ ms) : ¬ m.stop ≤ m.start :=
  UInt64.not_le.2 (h.nonempty m hm)

theorem Ascending.run_eq (h : Ascending ms) (hrun : run ∈ runs ms) (hrun' : run' ∈ runs ms)
    (hm : m ∈ run) (hm' : m ∈ run') : run = run' := by
  by_contra other
  have proper := h.not_stop_le_start ((areRuns_runs ms).mem hrun hm)
  have apart : (runs ms).Pairwise fun run run' => ¬ (m ∈ run ∧ m ∈ run') := by
    refine h.pairwise_runs.imp ?_
    rintro run run' before ⟨hm, hm'⟩
    exact proper (before m hm m hm')
  have symm : Std.Symm fun run run' : List Mapping => ¬ (m ∈ run ∧ m ∈ run') :=
    ⟨fun _ _ apart both => apart both.symm⟩
  exact apart.forall hrun hrun' other ⟨hm, hm'⟩

theorem Ascending.of_mem_runs (h : Ascending ms) (hrun : run ∈ runs ms) : Ascending run := by
  have ordered := h.ordered
  rw [← (areRuns_runs ms).flatten_eq, List.pairwise_flatten] at ordered
  exact ⟨forall_mem_of_mem_runs h.nonempty hrun, ordered.1 run hrun⟩

theorem Cut.mem_run_of_mem_after (cut : Cut run) (h : m ∈ cut.after) : m ∈ run := by
  rw [cut.run_eq]
  exact List.mem_append_right _ (List.mem_cons_of_mem _ (List.mem_append_right _ h))

theorem Cut.notMem_after (cut : Cut run) (h : Ascending run) (hm : m ∈ cut.opener :: cut.chain) :
    m ∉ cut.after := by
  intro behind
  have ordered := h.ordered
  rw [cut.run_eq, List.pairwise_append, ← List.cons_append, List.pairwise_append] at ordered
  exact h.not_stop_le_start (cut.mem_run hm) (ordered.2.1.2.2 m hm m behind)

theorem Cut.mem_or_mem_after (cut : Cut run) (hm : m ∈ run) (begins : m.beginsModule = true) :
    m ∈ cut.opener :: cut.chain ∨ m ∈ cut.after := by
  rw [cut.run_eq, List.mem_append, ← List.cons_append, List.mem_append] at hm
  refine hm.resolve_left fun before => ?_
  rw [cut.first m before] at begins
  cases begins

theorem exists_cut_of_begins (le : ∀ x ∈ run, x.start ≤ x.stop) (hm : m ∈ run)
    (begins : m.beginsModule = true) : Nonempty (Cut run) := by
  cases image : image? run with
  | none =>
    rw [image?_eq_none_iff.1 image m hm] at begins
    cases begins
  | some module =>
    obtain ⟨cut, -⟩ := (image?_eq_some_iff le).1 image
    exact ⟨cut⟩

/-! ### What a module spans -/

theorem Cut.IsImage.spans {cut : Cut run} (h : cut.IsImage module)
    (le : ∀ x ∈ run, x.start ≤ x.stop) (hm : m ∈ cut.opener :: cut.chain) : module.Spans m := by
  obtain ⟨start, stop⟩ := cut.bounds le m hm
  rw [← h.base_eq] at start
  refine ⟨start, ?_⟩
  rw [h.stopsAt]
  exact stop

/-- A module spans no other mapping of an ascending listing. -/
theorem Cut.IsImage.mem_of_spans {cut : Cut run} (h : cut.IsImage module) (ascending : Ascending ms)
    (hrun : run ∈ runs ms) (hm : m ∈ ms) (spans : module.Spans m) :
    m ∈ cut.opener :: cut.chain := by
  have own := ascending.nonempty m hm
  have inside : module.contains ⟨m.start⟩ = .ok true := by
    refine h.stopsAt.contains_iff.2 ⟨spans.1, ?_⟩
    have stop := spans.2
    rw [h.stopsAt] at stop
    exact Nat.lt_of_lt_of_le own stop
  obtain ⟨x, hx, holds⟩ := h.exists_holds inside
  have listed : x ∈ ms := (areRuns_runs ms).mem hrun (cut.mem_run hx)
  rwa [ascending.eq_of_holds hm listed ⟨UInt64.le_refl _, own⟩ holds]

/-- Of the mappings of a run those are visible that the module of the run covers. -/
theorem isVisible_iff (h : Ascending ms) (hrun : run ∈ runs ms) (cut : Cut run) (hm : m ∈ run) :
    IsVisible ((runs ms).filterMap image?) m ↔ m ∈ cut.opener :: cut.chain := by
  have le : ∀ x ∈ run, x.start ≤ x.stop := (h.of_mem_runs hrun).start_le_stop
  constructor
  · rintro ⟨module, hmodule, -, spans⟩
    obtain ⟨run', hrun', image⟩ := List.mem_filterMap.1 hmodule
    have listed : m ∈ ms := (areRuns_runs ms).mem hrun hm
    obtain ⟨cut', isImage⟩ := (image?_eq_some_iff (h.of_mem_runs hrun').start_le_stop).1 image
    have covered := isImage.mem_of_spans h hrun' listed spans
    -- It is the module of the same run, so the given cut has it too.
    obtain rfl := h.run_eq hrun hrun' hm (cut'.mem_run covered)
    exact ((cut.isImage_iff le).2 image).mem_of_spans h hrun listed spans
  · intro covered
    have image := image?_append_cons cut.first cut.begins (cut.chain ++ cut.after)
    rw [← cut.run_eq] at image
    have isImage := (cut.isImage_iff le).2 image
    refine ⟨_, List.mem_filterMap.2 ⟨run, hrun, image⟩, ?_, isImage.spans le covered⟩
    rw [isImage.path_eq]
    exact (areRuns_runs ms).same_path run hrun _ (cut.mem_run List.mem_cons_self) m hm

/-- Of the mappings at which a module may begin those are visible that are not behind the chain. -/
theorem isVisible_iff_notMem_after (h : Ascending ms) (hrun : run ∈ runs ms) (cut : Cut run)
    (hm : m ∈ run) (begins : m.beginsModule = true) :
    IsVisible ((runs ms).filterMap image?) m ↔ m ∉ cut.after := by
  rw [isVisible_iff h hrun cut hm]
  exact ⟨cut.notMem_after (h.of_mem_runs hrun), (cut.mem_or_mem_after hm begins).resolve_right⟩

/-- **An image is lost exactly behind the chain of its run.** In a listing in ascending order, take
a mapping at which a module may begin. Its run has a module, and the mapping is visible, as the
module of its file or inside of it, unless it stands in its run behind the chain that the module
covers. So no image of the listing is lost exactly if no module may begin behind the chain of a run.
-/
theorem images_lost_behind_chain (text : String) (h : Ascending (mappings text)) :
    ∃ found, modules text = .ok found ∧
      (∀ run ∈ runs (mappings text), ∀ m ∈ run, m.beginsModule = true →
        Nonempty (Cut run) ∧ ∀ cut : Cut run, IsVisible found m ↔ m ∉ cut.after) ∧
      ((∀ m ∈ mappings text, m.beginsModule = true → IsVisible found m) ↔
        ∀ run ∈ runs (mappings text), ∀ cut : Cut run, ∀ m ∈ cut.after,
          m.beginsModule = false) := by
  refine ⟨_, modulesOf_eq h.start_le_stop, ?_, ?_, ?_⟩
  · intro run hrun m hm begins
    exact ⟨exists_cut_of_begins (h.of_mem_runs hrun).start_le_stop hm begins,
      fun cut => isVisible_iff_notMem_after h hrun cut hm begins⟩
  · intro visible run hrun cut m behind
    have hm := cut.mem_run_of_mem_after behind
    by_contra begins
    rw [Bool.not_eq_false] at begins
    have seen := visible m ((areRuns_runs _).mem hrun hm) begins
    exact (isVisible_iff_notMem_after h hrun cut hm begins).1 seen behind
  · intro none m hm begins
    rw [← (areRuns_runs (mappings text)).flatten_eq] at hm
    obtain ⟨run, hrun, hm⟩ := List.mem_flatten.1 hm
    obtain ⟨cut⟩ := exists_cut_of_begins (h.of_mem_runs hrun).start_le_stop hm begins
    refine (isVisible_iff_notMem_after h hrun cut hm begins).2 fun behind => ?_
    rw [none run hrun cut m behind] at begins
    cases begins

/-- One file mapped three times from its first byte, with a gap behind the first image and memory of
no file behind the second. -/
def threeImages : String :=
  "1000-2000 r--p 0 8:1 7 /a\n3000-4000 r--p 0 8:1 7 /a\n5000-6000 rw-p 0 0:0 0\n7000-8000 r--p 0 8:1 7 /a\n"

/-- The first image. -/
def firstImage : Mapping := ⟨0x1000, 0x2000, true, false, 0, "/a"⟩

/-- The image behind the gap. -/
def secondImage : Mapping := ⟨0x3000, 0x4000, true, false, 0, "/a"⟩

/-- The memory of no file. -/
def anonymous : Mapping := ⟨0x5000, 0x6000, true, true, 0, ""⟩

/-- The image behind the memory of no file. -/
def thirdImage : Mapping := ⟨0x7000, 0x8000, true, false, 0, "/a"⟩

theorem mappings_threeImages :
    mappings threeImages = [firstImage, secondImage, anonymous, thirdImage] := by
  rw [mappings, threeImages, String.toList_ofList]
  decide +kernel

theorem ascending_threeImages : Ascending (mappings threeImages) := by
  rw [mappings_threeImages]
  exact ⟨by decide, by decide⟩

/-- The third image is visible, and the second is not. -/
theorem images_lost_behind_chain_of_gap :
    Ascending (mappings threeImages) ∧
    ∃ found, modules threeImages = .ok found ∧ secondImage.beginsModule = true ∧
      ¬ IsVisible found secondImage ∧ thirdImage.beginsModule = true ∧
      IsVisible found thirdImage := by
  obtain ⟨found, all, single, -⟩ := images_lost_behind_chain threeImages ascending_threeImages
  have split : runs (mappings threeImages) =
      [[firstImage, secondImage], [anonymous], [thirdImage]] := by
    rw [mappings_threeImages]
    decide
  rw [split] at single
  -- The first run is cut behind its first mapping, and the last one has nothing behind it.
  let gap : Cut [firstImage, secondImage] :=
    ⟨[], firstImage, [], [secondImage], rfl, by simp, by decide, List.isChain_singleton _, by
      rintro _ ⟨⟩
      decide⟩
  let whole : Cut [thirdImage] :=
    ⟨[], thirdImage, [], [], rfl, by simp, by decide, List.isChain_singleton _, by simp⟩
  have second := (single _ (by simp) secondImage (by simp) (by decide)).2 gap
  have third := (single _ (by simp) thirdImage (by simp) (by decide)).2 whole
  exact ⟨ascending_threeImages, found, all, by decide, fun seen => second.1 seen (by simp [gap]),
    by decide, third.2 (by simp [whole])⟩

/-- An image behind a gap is lost: it is listed, a module may begin there, and no module covers it,
not even one of another file. -/
theorem secondImage_lost :
    Ascending (mappings threeImages) ∧ secondImage ∈ mappings threeImages ∧
    secondImage.beginsModule = true ∧
    ∃ found, modules threeImages = .ok found ∧ ∀ module ∈ found, ¬ module.Spans secondImage := by
  refine ⟨ascending_threeImages, ?_, by decide, ?_⟩
  · rw [mappings_threeImages]
    simp
  · rw [modules, mappings_threeImages]
    exact ⟨_, rfl, by decide⟩

end Listing

end ByteScan
