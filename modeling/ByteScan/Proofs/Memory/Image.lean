import ByteScan.Memory.Listing
import ByteScan.Proofs.Memory.Module
import ByteScan.Proofs.Text.Pieces
import Mathlib.Data.List.SplitBy

/-!
# The image of a file in a listing

What a listing means, said without a pass over its lines. Neighbouring lines with the same path make
up a *run*. A run holds at most one image of its file: the image begins at the first mapping of the
run at which a module may begin, and covers this mapping and the longest chain of mappings behind it
of which each begins where the one before it stops and can be read and not be written.

`image?` computes the module of a run by recursion on its mappings. A run has the module `m` exactly
if it can be cut into a part before, the mapping that opens the module, a chain that cannot go on,
and a part behind, so that `m` covers the middle (`image?_eq_some_iff`); all of it is determined by
the run.
-/

namespace ByteScan

namespace Mapping

/-- A mapping leads to another that begins where it stops and can be read and not be written. -/
def LeadsTo (m next : Mapping) : Prop := next.isReadOnly ∧ next.start = m.stop

instance (m next : Mapping) : Decidable (m.LeadsTo next) := inferInstanceAs (Decidable (_ ∧ _))

end Mapping

namespace Listing

variable {run rest chain before after : List Mapping} {opener m next : Mapping} {module : Module}

/-! ### Runs -/

/-- The mappings in runs: neighbours with the same path are in the same run. -/
def runs (ms : List Mapping) : List (List Mapping) := ms.splitBy fun m next => m.path == next.path

/-- Runs of mappings: all mappings of a run have the same path, and those of the next run have
another one. -/
structure AreRuns (rs : List (List Mapping)) (ms : List Mapping) : Prop where
  /-- The runs join to the mappings. -/
  flatten_eq : rs.flatten = ms
  /-- No run is empty. -/
  nil_notMem : [] ∉ rs
  /-- A run has one path. -/
  same_path : ∀ run ∈ rs, ∀ m ∈ run, ∀ next ∈ run, m.path = next.path
  /-- The next run has another path. -/
  other_path : rs.IsChain fun run run' => ∀ m ∈ run, ∀ next ∈ run', m.path ≠ next.path

theorem AreRuns.mem {rs : List (List Mapping)} {ms : List Mapping} (h : AreRuns rs ms)
    (hrun : run ∈ rs) (hm : m ∈ run) : m ∈ ms := by
  rw [← h.flatten_eq]
  exact List.mem_flatten.2 ⟨run, hrun, hm⟩

theorem path_eq_of_isChain (h : (m :: rest).IsChain fun m next => (m.path == next.path) = true) :
    ∀ next ∈ m :: rest, next.path = m.path := by
  induction rest generalizing m with
  | nil =>
    intro next mem
    rw [List.mem_singleton.1 mem]
  | cons first rest ih =>
    obtain ⟨same, chain⟩ := List.isChain_cons_cons.1 h
    intro next mem
    rcases List.mem_cons.1 mem with rfl | mem
    · rfl
    · rw [ih chain next mem, beq_iff_eq.1 same]

theorem areRuns_runs (ms : List Mapping) : AreRuns (runs ms) ms := by
  have same_path : ∀ run ∈ runs ms, ∀ m ∈ run, ∀ next ∈ run, m.path = next.path := by
    intro run mem m hm next hnext
    have chain := List.isChain_of_mem_splitBy mem
    cases run with
    | nil => cases hm
    | cons first rest => rw [path_eq_of_isChain chain m hm, path_eq_of_isChain chain next hnext]
  refine ⟨List.flatten_splitBy _ ms, List.nil_notMem_splitBy _ ms, same_path, ?_⟩
  have border := List.isChain_getLast_head_splitBy (fun m next : Mapping => m.path == next.path) ms
  refine List.IsChain.imp_of_mem_imp ?_ border
  rintro run run' hrun hrun' ⟨hlast, hhead, differ⟩ m hm next hnext same
  rw [beq_eq_false_iff_ne] at differ
  apply differ
  rw [same_path run hrun _ (List.getLast_mem hlast) m hm, same,
    same_path run' hrun' next hnext _ (List.head_mem hhead)]

theorem forall_mem_of_mem_runs {ms : List Mapping} {P : Mapping → Prop} (h : ∀ m ∈ ms, P m)
    (hrun : run ∈ runs ms) : ∀ m ∈ run, P m :=
  fun m hm => h m ((areRuns_runs ms).mem hrun hm)

/-! ### Images -/

/-- The last mapping of the longest chain that leads on from a mapping. -/
def lastFrom (m : Mapping) : List Mapping → Mapping
  | [] => m
  | next :: rest => if m.LeadsTo next then lastFrom next rest else m

/-- The module that begins at a mapping, followed by others. -/
def imageFrom (m : Mapping) (rest : List Mapping) : Module where
  name := String.ofList (Text.afterLast '/' m.path.toList)
  path := m.path
  base := ⟨m.start⟩
  size := (lastFrom m rest).stop - m.start

/-- The module of a run. -/
def image? : List Mapping → Option Module
  | [] => none
  | m :: rest => if m.beginsModule then some (imageFrom m rest) else image? rest

/-- A run cut at the module in it. -/
structure Cut (run : List Mapping) where
  /-- The mappings before the module. -/
  before : List Mapping
  /-- The mapping at which the module begins. -/
  opener : Mapping
  /-- The mappings over which it goes on. -/
  chain : List Mapping
  /-- The mappings behind it. -/
  after : List Mapping
  /-- The parts make up the run. -/
  run_eq : run = before ++ opener :: (chain ++ after)
  /-- No module begins before. -/
  first : ∀ m ∈ before, m.beginsModule = false
  /-- A module may begin here. -/
  begins : opener.beginsModule = true
  /-- Each mapping leads to the next. -/
  leads : (opener :: chain).IsChain Mapping.LeadsTo
  /-- The last mapping does not lead on. -/
  longest : ∀ next ∈ after.head?,
    ¬ ((opener :: chain).getLast (List.cons_ne_nil _ _)).LeadsTo next

/-- The last mapping that a module covers. -/
def Cut.last (cut : Cut run) : Mapping :=
  (cut.opener :: cut.chain).getLast (List.cons_ne_nil _ _)

/-- A module covers the opening mapping and the chain, and has the name of the file. -/
structure Cut.IsImage (cut : Cut run) (module : Module) : Prop where
  /-- It begins where the opening mapping begins. -/
  base_eq : module.base.value = cut.opener.start
  /-- It stops where the last mapping stops. -/
  stopsAt : module.StopsAt cut.last.stop
  /-- Its path is that of the run. -/
  path_eq : module.path = cut.opener.path
  /-- Its name is the part of the path behind the last slash. -/
  name_eq : ∃ directory, module.path.toList = directory ++ '/' :: module.name.toList
  /-- There is no slash in it. -/
  slash_notMem : '/' ∉ module.name.toList

/-! ### The image of a run -/

theorem lastFrom_cons_of_leadsTo (h : m.LeadsTo next) (rest : List Mapping) :
    lastFrom m (next :: rest) = lastFrom next rest :=
  if_pos h

theorem lastFrom_cons_of_not_leadsTo (h : ¬ m.LeadsTo next) (rest : List Mapping) :
    lastFrom m (next :: rest) = m :=
  if_neg h

/-- A chain that cannot go on ends with the last mapping of the longest chain. -/
theorem lastFrom_eq_getLast (leads : (opener :: chain).IsChain Mapping.LeadsTo)
    (longest : ∀ next ∈ after.head?,
      ¬ ((opener :: chain).getLast (List.cons_ne_nil _ _)).LeadsTo next) :
    lastFrom opener (chain ++ after) = (opener :: chain).getLast (List.cons_ne_nil _ _) := by
  induction chain generalizing opener with
  | nil =>
    cases after with
    | nil => rfl
    | cons next after => exact lastFrom_cons_of_not_leadsTo (longest next rfl) after
  | cons next chain ih =>
    obtain ⟨first, leads⟩ := List.isChain_cons_cons.1 leads
    rw [List.getLast_cons_cons] at longest ⊢
    rw [List.cons_append, lastFrom_cons_of_leadsTo first, ih leads longest]

/-- Every list of mappings behind an opening one begins with a longest chain. -/
theorem exists_longest_chain (opener : Mapping) (rest : List Mapping) :
    ∃ chain after, rest = chain ++ after ∧ (opener :: chain).IsChain Mapping.LeadsTo ∧
      ∀ next ∈ after.head?, ¬ ((opener :: chain).getLast (List.cons_ne_nil _ _)).LeadsTo next := by
  induction rest generalizing opener with
  | nil => exact ⟨[], [], rfl, List.isChain_singleton opener, by simp⟩
  | cons next rest ih =>
    by_cases leads : opener.LeadsTo next
    · obtain ⟨chain, after, rfl, chained, longest⟩ := ih next
      refine ⟨next :: chain, after, rfl, List.isChain_cons_cons.2 ⟨leads, chained⟩, ?_⟩
      rwa [List.getLast_cons_cons]
    · refine ⟨[], next :: rest, rfl, List.isChain_singleton opener, ?_⟩
      intro other hother
      rw [List.head?_cons, Option.mem_some] at hother
      rwa [← hother]

theorem stop_le_lastFrom (h : ∀ m ∈ rest, m.start ≤ m.stop) (m : Mapping) :
    m.stop ≤ (lastFrom m rest).stop := by
  induction rest generalizing m with
  | nil => exact UInt64.le_refl _
  | cons next rest ih =>
    by_cases leads : m.LeadsTo next
    · rw [lastFrom_cons_of_leadsTo leads, ← leads.2]
      exact UInt64.le_trans (h next List.mem_cons_self)
        (ih (fun m hm => h m (List.mem_cons_of_mem next hm)) next)
    · rw [lastFrom_cons_of_not_leadsTo leads]
      exact UInt64.le_refl _

/-- The module that begins at a mapping stops where the chain of this mapping stops. -/
theorem imageFrom_stopsAt (h : ∀ x ∈ m :: rest, x.start ≤ x.stop) :
    (imageFrom m rest).StopsAt (lastFrom m rest).stop := by
  have own : m.start ≤ m.stop := h m List.mem_cons_self
  have grown := stop_le_lastFrom (fun x hx => h x (List.mem_cons_of_mem m hx)) m
  have inside : m.start ≤ (lastFrom m rest).stop := UInt64.le_trans own grown
  change m.start.toNat + ((lastFrom m rest).stop - m.start).toNat = (lastFrom m rest).stop.toNat
  rw [UInt64.toNat_sub_of_le _ _ inside]
  exact Nat.add_sub_cancel' (UInt64.le_iff_toNat_le.1 inside)

theorem image?_append_cons (first : ∀ m ∈ before, m.beginsModule = false)
    (begins : opener.beginsModule = true) (rest : List Mapping) :
    image? (before ++ opener :: rest) = some (imageFrom opener rest) := by
  induction before with
  | nil => exact if_pos begins
  | cons m before ih =>
    have fails := first m List.mem_cons_self
    rw [List.cons_append, image?, fails]
    exact ih fun m' hm => first m' (List.mem_cons_of_mem m hm)

theorem image?_eq_none_iff : image? run = none ↔ ∀ m ∈ run, m.beginsModule = false := by
  induction run with
  | nil => simp [image?]
  | cons m run ih =>
    rw [image?, List.forall_mem_cons]
    cases begins : m.beginsModule with
    | true => simp
    | false => simpa using ih

theorem slash_mem_of_beginsModule (h : m.beginsModule = true) : '/' ∈ m.path.toList := by
  rw [Mapping.beginsModule, Bool.and_eq_true, beq_iff_eq] at h
  exact List.mem_of_mem_head? h.2

/-- What the run gives is an image, and there is no other. -/
theorem Cut.isImage_iff (cut : Cut run) (h : ∀ m ∈ run, m.start ≤ m.stop) :
    cut.IsImage module ↔ image? run = some module := by
  have ordered : ∀ m ∈ cut.opener :: (cut.chain ++ cut.after), m.start ≤ m.stop := by
    intro m hm
    apply h
    rw [cut.run_eq]
    exact List.mem_append_right _ hm
  have last : lastFrom cut.opener (cut.chain ++ cut.after) = cut.last :=
    lastFrom_eq_getLast cut.leads cut.longest
  have stops := imageFrom_stopsAt ordered
  have image : image? run = some (imageFrom cut.opener (cut.chain ++ cut.after)) := by
    rw [← image?_append_cons cut.first cut.begins, ← cut.run_eq]
  rw [last] at stops
  rw [image, Option.some.injEq]
  constructor
  · rintro ⟨base, stops', path, ⟨directory, split⟩, noSlash⟩
    have same : (imageFrom cut.opener (cut.chain ++ cut.after)).base = module.base :=
      congrArg Address.mk base.symm
    have size := stops.size_eq stops' same
    have name : Text.afterLast '/' cut.opener.path.toList = module.name.toList := by
      rw [← path, split, Text.afterLast_append noSlash]
    obtain ⟨name', path', base', size'⟩ := module
    simp only [imageFrom] at *
    rw [size, name, String.ofList_toList, ← path, ← same]
  · rintro rfl
    obtain ⟨directory, split⟩ :=
      Text.exists_eq_append_afterLast (slash_mem_of_beginsModule cut.begins)
    refine ⟨rfl, stops, rfl, ⟨directory, ?_⟩, ?_⟩
    · rw [imageFrom, String.toList_ofList]
      exact split
    · rw [imageFrom, String.toList_ofList]
      exact Text.notMem_afterLast _ _

theorem exists_opener (h : image? run = some module) :
    ∃ before opener rest, run = before ++ opener :: rest ∧
      (∀ m ∈ before, m.beginsModule = false) ∧ opener.beginsModule = true := by
  induction run with
  | nil => cases h
  | cons m run ih =>
    cases begins : m.beginsModule with
    | true => exact ⟨[], m, run, rfl, by simp, begins⟩
    | false =>
      rw [image?, begins] at h
      obtain ⟨before, opener, rest, rfl, first, opens⟩ := ih h
      exact ⟨m :: before, opener, rest, rfl, List.forall_mem_cons.2 ⟨begins, first⟩, opens⟩

theorem exists_mem_path_eq (h : image? run = some module) : ∃ m ∈ run, module.path = m.path := by
  obtain ⟨before, opener, rest, rfl, first, begins⟩ := exists_opener h
  rw [image?_append_cons first begins, Option.some.injEq] at h
  exact ⟨opener, List.mem_append_right before List.mem_cons_self, congrArg Module.path h.symm⟩

/-- The module of a run is the one image in it. -/
theorem image?_eq_some_iff (h : ∀ m ∈ run, m.start ≤ m.stop) :
    image? run = some module ↔ ∃ cut : Cut run, cut.IsImage module := by
  constructor
  · intro image
    obtain ⟨before, opener, rest, rfl, first, begins⟩ := exists_opener image
    obtain ⟨chain, after, rfl, leads, longest⟩ := exists_longest_chain opener rest
    let cut : Cut (before ++ opener :: (chain ++ after)) :=
      ⟨before, opener, chain, after, rfl, first, begins, leads, longest⟩
    exact ⟨cut, (cut.isImage_iff h).2 image⟩
  · rintro ⟨cut, image⟩
    exact (cut.isImage_iff h).1 image

end Listing

end ByteScan
