import ByteScan.Proofs.Memory.Image

/-!
# The modules of a listing are the images of its runs

The pass over a listing keeps the module of the current run open until a line with another path
comes. Inside of a run there are three states: no module has begun yet, the module still grows, or
the module no longer grows and nothing of the run is added to it. While it grows, its base and its
size add up to the end of the last mapping that it covers; so neither measuring the next mapping nor
adding it leaves a word, and the module that the run ends with is its image (`foldlM_step_run`).
Where the run ends the module is complete, whatever comes next, so the runs can be taken one after
the other.
-/

namespace ByteScan.Listing

variable {run : List Mapping} {m : Mapping} {module : Module} {complete : List Module}
  {p : Progress} {path : String}

/-! ### Steps -/

theorem step_of_none (complete : List Module) (m : Mapping) :
    Progress.step ⟨complete, none⟩ m = Progress.begin complete m := rfl

theorem begin_of_begins (begins : m.beginsModule = true) (le : m.start ≤ m.stop)
    (complete : List Module) :
    Progress.begin complete m = .ok ⟨complete, some (imageFrom m [], true)⟩ := by
  rw [Progress.begin, if_pos begins, openModule, Word.sub_eq_ok le]
  rfl

theorem begin_of_not_begins (h : m.beginsModule = false) (complete : List Module) :
    Progress.begin complete m = .ok ⟨complete, none⟩ := by
  rw [Progress.begin, h]
  rfl

/-- A module that no longer grows stays as it is to the end of the run. -/
theorem step_of_stopped (same : m.path = module.path) :
    Progress.step ⟨complete, some (module, false)⟩ m = .ok ⟨complete, some (module, false)⟩ := by
  simp [Progress.step, same]

/-- A mapping to which the last one does not lead ends the growth of the module. -/
theorem step_of_not_leadsTo {last : Mapping} (same : m.path = module.path)
    (stops : module.StopsAt last.stop) (h : ¬ last.LeadsTo m) :
    Progress.step ⟨complete, some (module, true)⟩ m = .ok ⟨complete, some (module, false)⟩ := by
  rw [Mapping.LeadsTo, not_and] at h
  by_cases readOnly : m.isReadOnly
  · simp [Progress.step, same, readOnly, stops.stop_eq, h readOnly]
  · simp [Progress.step, same, readOnly]

/-- A mapping to which the last one leads is added to the module. -/
theorem step_of_leadsTo {last : Mapping} (same : m.path = module.path)
    (stops : module.StopsAt last.stop) (h : last.LeadsTo m) (le : m.start ≤ m.stop)
    (complete : List Module) :
    ∃ size, Progress.step ⟨complete, some (module, true)⟩ m =
        .ok ⟨complete, some ({ module with size }, true)⟩ ∧
      Module.StopsAt { module with size } m.stop := by
  have length : (m.stop - m.start).toNat = m.stop.toNat - m.start.toNat :=
    UInt64.toNat_sub_of_le _ _ le
  have behind : module.StopsAt m.start := h.2 ▸ stops
  have le' := UInt64.le_iff_toNat_le.1 le
  have word : module.size.toNat + (m.stop - m.start).toNat < UInt64.size := by
    have := UInt64.toNat_lt m.stop
    rw [Module.StopsAt] at behind
    rw [length, UInt64.size]
    omega
  obtain ⟨size, added, size_eq⟩ := Word.add_eq_ok word
  refine ⟨size, ?_, ?_⟩
  · simp [Progress.step, same, h.1, behind.stop_eq, Word.sub_eq_ok le, added]
  · change module.base.value.toNat + size.toNat = m.stop.toNat
    rw [Module.StopsAt] at behind
    omega

/-! ### Runs -/

theorem foldlM_step_stopped (same : ∀ m ∈ run, m.path = module.path) :
    run.foldlM Progress.step ⟨complete, some (module, false)⟩ =
      .ok ⟨complete, some (module, false)⟩ := by
  induction run with
  | nil => rfl
  | cons m run ih =>
    rw [List.foldlM_cons, step_of_stopped (same m List.mem_cons_self), ok_bind]
    exact ih fun m' hm => same m' (List.mem_cons_of_mem m hm)

/-- While a module grows it stops where the last mapping of the chain stops, so over the rest of its
run it grows up to the end of the longest chain. -/
theorem foldlM_step_growing {last : Mapping} (same : ∀ m ∈ run, m.path = module.path)
    (le : ∀ m ∈ run, m.start ≤ m.stop) (stops : module.StopsAt last.stop)
    (complete : List Module) :
    ∃ size grows, run.foldlM Progress.step ⟨complete, some (module, true)⟩ =
        .ok ⟨complete, some ({ module with size }, grows)⟩ ∧
      Module.StopsAt { module with size } (lastFrom last run).stop := by
  induction run generalizing module last with
  | nil => exact ⟨module.size, true, rfl, stops⟩
  | cons m run ih =>
    rw [List.forall_mem_cons] at same le
    rw [List.foldlM_cons]
    by_cases leads : last.LeadsTo m
    · obtain ⟨size, grown, stops'⟩ := step_of_leadsTo same.1 stops leads le.1 complete
      rw [grown, ok_bind, lastFrom_cons_of_leadsTo leads]
      exact ih same.2 le.2 stops'
    · rw [step_of_not_leadsTo same.1 stops leads, ok_bind, lastFrom_cons_of_not_leadsTo leads,
        foldlM_step_stopped same.2]
      exact ⟨module.size, false, rfl, stops⟩

/-- A run that begins without a module ends with its image. -/
theorem foldlM_step_run (same : ∀ m ∈ run, m.path = path) (le : ∀ m ∈ run, m.start ≤ m.stop)
    (complete : List Module) :
    ∃ q, run.foldlM Progress.step ⟨complete, none⟩ = .ok q ∧ q.complete = complete ∧
      q.current.map Prod.fst = image? run := by
  induction run with
  | nil => exact ⟨_, rfl, rfl, rfl⟩
  | cons m run ih =>
    rw [List.foldlM_cons, step_of_none, image?]
    have ordered := le
    rw [List.forall_mem_cons] at same le
    cases begins : m.beginsModule with
    | false =>
      rw [begin_of_not_begins begins, ok_bind]
      exact ih same.2 le.2
    | true =>
      have opened : (imageFrom m []).StopsAt m.stop := imageFrom_stopsAt (by simpa using le.1)
      have samePath : ∀ next ∈ run, next.path = (imageFrom m []).path := by
        intro next hnext
        exact (same.2 next hnext).trans same.1.symm
      obtain ⟨size, grows, grown, stops⟩ := foldlM_step_growing samePath le.2 opened complete
      rw [begin_of_begins begins le.1, ok_bind]
      refine ⟨_, grown, rfl, ?_⟩
      have size_eq : size = (imageFrom m run).size := stops.size_eq (imageFrom_stopsAt ordered) rfl
      rw [size_eq]
      rfl

/-! ### Listings -/

/-- The module that is still open belongs to another file than the given path. -/
def Progress.Apart (p : Progress) (path : String) : Prop :=
  ∀ module ∈ p.current.map Prod.fst, module.path ≠ path

theorem Progress.modules_eq (p : Progress) :
    p.modules = p.complete.reverse ++ (p.current.map Prod.fst).toList := by
  obtain ⟨complete, current⟩ := p
  cases current with
  | none => exact (List.append_nil _).symm
  | some open' => exact List.reverse_cons

/-- A mapping of another file finds the module before it complete. -/
theorem step_of_apart (h : p.Apart m.path) :
    p.step m = Progress.step ⟨p.modules.reverse, none⟩ m := by
  obtain ⟨complete, current⟩ := p
  cases current with
  | none => rw [Progress.modules, List.reverse_reverse]
  | some open' =>
    have other : m.path ≠ open'.1.path := Ne.symm (h open'.1 rfl)
    rw [Progress.modules, List.reverse_reverse, step_of_none, Progress.step]
    exact if_neg other

theorem AreRuns.tail {rs : List (List Mapping)} {ms : List Mapping} (h : AreRuns (run :: rs) ms) :
    AreRuns rs rs.flatten where
  flatten_eq := rfl
  nil_notMem mem := h.nil_notMem (List.mem_cons_of_mem run mem)
  same_path run' mem := h.same_path run' (List.mem_cons_of_mem run mem)
  other_path := h.other_path.tail

/-- The pass over some runs, in a state that does not belong to the first of them, adds their
images. -/
theorem foldlM_step_runs {rs : List (List Mapping)} (h : AreRuns rs rs.flatten)
    (le : ∀ m ∈ rs.flatten, m.start ≤ m.stop)
    (apart : ∀ run ∈ rs.head?, ∀ m ∈ run, p.Apart m.path) :
    ∃ q, rs.flatten.foldlM Progress.step p = .ok q ∧
      q.modules = p.modules ++ rs.filterMap image? := by
  induction rs generalizing p with
  | nil => exact ⟨p, rfl, (List.append_nil _).symm⟩
  | cons run rs ih =>
    rw [List.flatten_cons, List.forall_mem_append] at le
    cases run with
    | nil => exact absurd List.mem_cons_self h.nil_notMem
    | cons m run =>
      have same := h.same_path _ List.mem_cons_self
      have other := (List.isChain_cons.1 h.other_path).1
      have samePath : ∀ next ∈ m :: run, next.path = m.path :=
        fun next hnext => same next hnext m List.mem_cons_self
      obtain ⟨q, ran, complete, current⟩ := foldlM_step_run samePath le.1 p.modules.reverse
      have modules : q.modules = p.modules ++ (image? (m :: run)).toList := by
        rw [Progress.modules_eq, complete, current, List.reverse_reverse]
      have apart' : ∀ run' ∈ rs.head?, ∀ next ∈ run', q.Apart next.path := by
        intro run' hrun' next hnext module hmodule
        rw [current] at hmodule
        obtain ⟨x, hx, path⟩ := exists_mem_path_eq hmodule
        rw [path]
        exact other run' hrun' x hx next hnext
      obtain ⟨q', ran', modules'⟩ := ih h.tail le.2 apart'
      refine ⟨q', ?_, ?_⟩
      · have first := step_of_apart (apart _ rfl m List.mem_cons_self)
        rw [List.foldlM_cons, ← first, ← List.foldlM_cons] at ran
        rw [List.flatten_cons, List.foldlM_append, ran, ok_bind, ran']
      · rw [modules', modules, List.append_assoc]
        cases image : image? (m :: run) with
        | none => rw [List.filterMap_cons_none image]; rfl
        | some module => rw [List.filterMap_cons_some image]; rfl

theorem modulesOf_eq {ms : List Mapping} (le : ∀ m ∈ ms, m.start ≤ m.stop) :
    modulesOf ms = .ok ((runs ms).filterMap image?) := by
  have split := areRuns_runs ms
  have join := split.flatten_eq
  have whole : AreRuns (runs ms) (runs ms).flatten := by rwa [join]
  obtain ⟨q, ran, modules⟩ := foldlM_step_runs (p := ⟨[], none⟩) whole (by rwa [join])
    (fun run _ m _ module hmodule => nomatch hmodule)
  rw [join] at ran
  rw [modulesOf, ran, ok_bind, modules]
  rfl

theorem exists_cut_of_mem {ms : List Mapping} (le : ∀ m ∈ ms, m.start ≤ m.stop)
    (h : module ∈ (runs ms).filterMap image?) :
    ∃ run ∈ runs ms, ∃ cut : Cut run, cut.IsImage module := by
  obtain ⟨run, hrun, image⟩ := List.mem_filterMap.1 h
  exact ⟨run, hrun, (image?_eq_some_iff (forall_mem_of_mem_runs le hrun)).1 image⟩

/-- **The modules of a listing are the images of its runs.** If no mapping stops before it starts,
the modules of a listing are found, and they are the images of its runs, in the order of the runs: a
run in which no module may begin has none, and any other the one that covers the first mapping at
which a module may begin and the longest chain behind it. No module reaches beyond the last address,
so it can always be told which addresses lie in it. -/
theorem modules_eq_images (text : String) (le : ∀ m ∈ mappings text, m.start ≤ m.stop) :
    ∃ found, modules text = .ok found ∧
      AreRuns (runs (mappings text)) (mappings text) ∧
      found = (runs (mappings text)).filterMap image? ∧
      (∀ run ∈ runs (mappings text),
        (∀ module, image? run = some module ↔ ∃ cut : Cut run, cut.IsImage module) ∧
        (image? run = none ↔ ∀ m ∈ run, m.beginsModule = false)) ∧
      ∀ module ∈ found, ∃ stop, module.stop = .ok stop ∧
        stop.value.toNat = module.base.value.toNat + module.size.toNat ∧
        ∀ a, module.contains a = .ok (a.isWithin module.base stop) := by
  refine ⟨_, modulesOf_eq le, areRuns_runs _, rfl, ?_, ?_⟩
  · intro run hrun
    have ordered := forall_mem_of_mem_runs le hrun
    exact ⟨fun module => image?_eq_some_iff ordered, image?_eq_none_iff⟩
  · intro module hmodule
    obtain ⟨run, -, cut, image⟩ := exists_cut_of_mem le hmodule
    exact ⟨_, image.stopsAt.stop_eq, image.stopsAt.symm, image.stopsAt.contains_eq⟩

/-- Two files and memory of no file, with a gap, a line that is none, and a module up to the last
address. -/
def threeRuns : String :=
  "0-2 r- 0 d i /a\n2-3 r- 2 d i /a\n5-6 r- 0 d i /a\n6-7 rw 0 d i\nno\nfffffffffffffff0-ffffffffffffffff r- 0 d i /x/b"

theorem mappings_threeRuns : mappings threeRuns =
    [⟨0, 2, true, false, 0, "/a"⟩, ⟨2, 3, true, false, 2, "/a"⟩, ⟨5, 6, true, false, 0, "/a"⟩,
      ⟨6, 7, true, true, 0, ""⟩,
      ⟨0xFFFFFFFFFFFFFFF0, 0xFFFFFFFFFFFFFFFF, true, false, 0, "/x/b"⟩] := by
  rw [mappings, threeRuns, String.toList_ofList]
  decide +kernel

/-- The gap ends the first module, and the second reaches up to the last address. -/
theorem modules_eq_images_up_to_the_last_address :
    (∀ m ∈ mappings threeRuns, m.start ≤ m.stop) ∧
    modules threeRuns =
      .ok [⟨"a", "/a", ⟨0⟩, 3⟩, ⟨"b", "/x/b", ⟨0xFFFFFFFFFFFFFFF0⟩, 0xF⟩] := by
  have le : ∀ m ∈ mappings threeRuns, m.start ≤ m.stop := by
    rw [mappings_threeRuns]
    decide
  obtain ⟨found, all, -, images, -⟩ := modules_eq_images threeRuns le
  refine ⟨le, ?_⟩
  rw [all, images, mappings_threeRuns]
  rfl

end ByteScan.Listing
