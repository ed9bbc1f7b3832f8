import ByteScan.Proofs.Memory.Listing
import Mathlib.Data.List.Pairwise

/-!
# Modules can be looked at in place

Memory that is looked at in place must be readable, and nobody may write it. A listing as the system
prints it has its mappings in ascending order, none of them empty and no two with an address in
common. Of such a listing every module lies in mappings of its own file that can be read and not be
written, and nothing else that is listed has a part in it: an address lies in one mapping at most,
so a mapping that shares an address with a module is one that the module covers.
-/

namespace ByteScan

/-- An address lies in a mapping. -/
def Mapping.Holds (m : Mapping) (a : Address) : Prop := m.start ≤ a.value ∧ a.value < m.stop

namespace Listing

variable {ms run chain : List Mapping} {m x y : Mapping} {module : Module} {a : Address}

/-- The order in which a system lists mappings. -/
structure Ascending (ms : List Mapping) : Prop where
  /-- No mapping is empty. -/
  nonempty : ∀ m ∈ ms, m.start < m.stop
  /-- A mapping begins where those before it have stopped. -/
  ordered : ms.Pairwise fun m next => m.stop ≤ next.start

theorem Ascending.start_le_stop (h : Ascending ms) : ∀ m ∈ ms, m.start ≤ m.stop :=
  fun m hm => UInt64.le_of_lt (h.nonempty m hm)

theorem Ascending.eq_of_holds (h : Ascending ms) (hx : x ∈ ms) (hy : y ∈ ms) (ax : x.Holds a)
    (ay : y.Holds a) : x = y := by
  by_contra other
  have apart : ms.Pairwise fun x y => ¬ (x.Holds a ∧ y.Holds a) := by
    refine h.ordered.imp ?_
    rintro x y le ⟨⟨-, before⟩, ⟨after, -⟩⟩
    exact absurd (UInt64.lt_of_lt_of_le before (UInt64.le_trans le after)) (UInt64.lt_irrefl _)
  have symm : Std.Symm fun x y : Mapping => ¬ (x.Holds a ∧ y.Holds a) :=
    ⟨fun _ _ apart both => apart both.symm⟩
  exact apart.forall hx hy other ⟨ax, ay⟩

/-! ### What a module covers -/

theorem isReadOnly_of_leads (h : (m :: chain).IsChain Mapping.LeadsTo) :
    ∀ x ∈ chain, x.isReadOnly = true := by
  induction chain generalizing m with
  | nil => simp
  | cons next chain ih =>
    obtain ⟨leads, rest⟩ := List.isChain_cons_cons.1 h
    exact List.forall_mem_cons.2 ⟨leads.1, ih rest⟩

theorem exists_holds_of_leads (h : (m :: chain).IsChain Mapping.LeadsTo) (after : m.start ≤ a.value)
    (before : a.value < ((m :: chain).getLast (List.cons_ne_nil _ _)).stop) :
    ∃ x ∈ m :: chain, x.Holds a := by
  induction chain generalizing m with
  | nil => exact ⟨m, List.mem_cons_self, after, before⟩
  | cons next chain ih =>
    by_cases inside : a.value < m.stop
    · exact ⟨m, List.mem_cons_self, after, inside⟩
    · obtain ⟨leads, rest⟩ := List.isChain_cons_cons.1 h
      rw [List.getLast_cons_cons] at before
      obtain ⟨x, hx, holds⟩ := ih rest (leads.2 ▸ UInt64.not_lt.1 inside) before
      exact ⟨x, List.mem_cons_of_mem m hx, holds⟩

/-- No mapping of a chain begins before the first or stops behind the last. -/
theorem bounds_of_leads (h : (m :: chain).IsChain Mapping.LeadsTo)
    (le : ∀ x ∈ m :: chain, x.start ≤ x.stop) :
    ∀ x ∈ m :: chain, m.start ≤ x.start ∧
      x.stop ≤ ((m :: chain).getLast (List.cons_ne_nil _ _)).stop := by
  induction chain generalizing m with
  | nil =>
    intro x hx
    rw [List.mem_singleton.1 hx]
    exact ⟨UInt64.le_refl _, UInt64.le_refl _⟩
  | cons next chain ih =>
    obtain ⟨leads, rest⟩ := List.isChain_cons_cons.1 h
    rw [List.forall_mem_cons] at le
    have later := ih rest le.2
    rw [List.getLast_cons_cons, List.forall_mem_cons]
    constructor
    · have first := le.2 next List.mem_cons_self
      have last := (later next List.mem_cons_self).2
      rw [leads.2] at first
      exact ⟨UInt64.le_refl _, UInt64.le_trans first last⟩
    · intro x hx
      obtain ⟨start, stop⟩ := later x hx
      rw [leads.2] at start
      exact ⟨UInt64.le_trans le.1 start, stop⟩

theorem Cut.mem_run (cut : Cut run) (hx : x ∈ cut.opener :: cut.chain) : x ∈ run := by
  rw [cut.run_eq, ← List.cons_append, ← List.append_assoc]
  exact List.mem_append_left _ (List.mem_append_right _ hx)

theorem Cut.isReadOnly (cut : Cut run) : ∀ x ∈ cut.opener :: cut.chain, x.isReadOnly = true := by
  have begins := cut.begins
  rw [Mapping.beginsModule, Bool.and_eq_true, Bool.and_eq_true] at begins
  exact List.forall_mem_cons.2 ⟨begins.1.1, isReadOnly_of_leads cut.leads⟩

/-- An address in a module lies in one of the mappings that the module covers. -/
theorem Cut.IsImage.exists_holds {cut : Cut run} (h : cut.IsImage module)
    (inside : module.contains a = .ok true) : ∃ x ∈ cut.opener :: cut.chain, x.Holds a := by
  obtain ⟨after, before⟩ := h.stopsAt.contains_iff.1 inside
  rw [h.base_eq] at after
  exact exists_holds_of_leads cut.leads after before

theorem Cut.bounds (cut : Cut run) (le : ∀ m ∈ run, m.start ≤ m.stop) :
    ∀ x ∈ cut.opener :: cut.chain, cut.opener.start ≤ x.start ∧ x.stop ≤ cut.last.stop :=
  bounds_of_leads cut.leads fun x hx => le x (cut.mem_run hx)

/-! ### Modules of a listing -/

/-- Every address of a module lies in a mapping of its file that can be read and not be written. -/
theorem exists_mem_holds (h : Ascending ms) (hmodule : module ∈ (runs ms).filterMap image?)
    (inside : module.contains a = .ok true) :
    ∃ x ∈ ms, x.Holds a ∧ x.path = module.path ∧ x.isReadOnly = true := by
  obtain ⟨run, hrun, cut, image⟩ := exists_cut_of_mem h.start_le_stop hmodule
  obtain ⟨x, hx, holds⟩ := image.exists_holds inside
  have split := areRuns_runs ms
  refine ⟨x, split.mem hrun (cut.mem_run hx), holds, ?_, cut.isReadOnly x hx⟩
  rw [image.path_eq]
  exact split.same_path run hrun x (cut.mem_run hx) _ (cut.mem_run List.mem_cons_self)

/-- Nothing else that is listed has a part in a module. -/
theorem contains_eq_false_of_holds (h : Ascending ms)
    (hmodule : module ∈ (runs ms).filterMap image?) (hx : x ∈ ms)
    (other : x.isReadOnly = false ∨ x.path ≠ module.path) (holds : x.Holds a) :
    module.contains a = .ok false := by
  obtain ⟨run, -, cut, image⟩ := exists_cut_of_mem h.start_le_stop hmodule
  cases inside : a.isWithin module.base ⟨cut.last.stop⟩ with
  | false => rw [image.stopsAt.contains_eq, inside]
  | true =>
    have contains : module.contains a = .ok true := by rw [image.stopsAt.contains_eq, inside]
    obtain ⟨y, hy, holds', path, readOnly⟩ := exists_mem_holds h hmodule contains
    obtain rfl := h.eq_of_holds hx hy holds holds'
    rcases other with writable | foreign
    · rw [readOnly] at writable
      cases writable
    · exact absurd path foreign

theorem Ascending.pairwise_runs (h : Ascending ms) :
    (runs ms).Pairwise fun run run' => ∀ x ∈ run, ∀ y ∈ run', x.stop ≤ y.start := by
  have ordered := h.ordered
  rw [← (areRuns_runs ms).flatten_eq, List.pairwise_flatten] at ordered
  exact ordered.2

/-- A module stops before those of later runs begin. -/
theorem pairwise_images (h : Ascending ms) :
    ((runs ms).filterMap image?).Pairwise fun module module' =>
      ∃ stop, module.StopsAt stop ∧ module.base.value < stop ∧ stop ≤ module'.base.value := by
  have split := areRuns_runs ms
  have le : ∀ run ∈ runs ms, ∀ m ∈ run, m.start ≤ m.stop := fun run hrun =>
    forall_mem_of_mem_runs h.start_le_stop hrun
  rw [List.pairwise_filterMap]
  refine h.pairwise_runs.imp_of_mem ?_
  intro run run' hrun hrun' before module image module' image'
  obtain ⟨cut, isImage⟩ := (image?_eq_some_iff (le run hrun)).1 image
  obtain ⟨cut', isImage'⟩ := (image?_eq_some_iff (le run' hrun')).1 image'
  refine ⟨cut.last.stop, isImage.stopsAt, ?_, ?_⟩
  · rw [isImage.base_eq]
    have opener := h.nonempty _ (split.mem hrun (cut.mem_run List.mem_cons_self))
    exact UInt64.lt_of_lt_of_le opener (cut.bounds (le run hrun) _ List.mem_cons_self).2
  · rw [isImage'.base_eq]
    exact before _ (cut.mem_run (List.getLast_mem _)) _ (cut'.mem_run List.mem_cons_self)

/-- **Modules can be looked at in place.** In a listing in ascending order all modules are found,
and of every address it can be told whether it lies in one of them. If it does, it lies in a mapping
of the file of this module that can be read and not be written; no address in a module lies in a
mapping that can be written, cannot be read, belongs to no file or belongs to another file; and the
modules come in the order of their bases, no two with an address in common. -/
theorem modules_are_read_only (text : String) (h : Ascending (mappings text)) :
    ∃ found, modules text = .ok found ∧
      (∀ module ∈ found, ∀ a, ∃ inside, module.contains a = .ok inside ∧
        (inside = true → ∃ x ∈ mappings text,
          x.Holds a ∧ x.path = module.path ∧ x.isReadable ∧ ¬ x.isWritable)) ∧
      (∀ module ∈ found, ∀ x ∈ mappings text,
        x.isWritable ∨ ¬ x.isReadable ∨ x.path = "" ∨ x.path ≠ module.path →
          ∀ a, x.Holds a → module.contains a = .ok false) ∧
      found.Pairwise fun module module' => module.base.value < module'.base.value ∧
        ∀ a, module.contains a = .ok true → module'.contains a = .ok false := by
  refine ⟨_, modulesOf_eq h.start_le_stop, ?_, ?_, ?_⟩
  · intro module hmodule a
    obtain ⟨run, -, cut, image⟩ := exists_cut_of_mem h.start_le_stop hmodule
    refine ⟨_, image.stopsAt.contains_eq a, fun inside => ?_⟩
    rw [← Except.ok.injEq, ← image.stopsAt.contains_eq] at inside
    obtain ⟨x, hx, holds, path, readOnly⟩ := exists_mem_holds h hmodule inside
    rw [Mapping.isReadOnly, Bool.and_eq_true, Bool.not_eq_true'] at readOnly
    exact ⟨x, hx, holds, path, readOnly.1, by simp [readOnly.2]⟩
  · intro module hmodule x hx other a holds
    refine contains_eq_false_of_holds h hmodule hx ?_ holds
    rcases other with writable | unreadable | anonymous | foreign
    · exact .inl (by simp [Mapping.isReadOnly, writable])
    · exact .inl (by simp [Mapping.isReadOnly, unreadable])
    · refine .inr fun same => ?_
      obtain ⟨run, -, cut, image⟩ := exists_cut_of_mem h.start_le_stop hmodule
      obtain ⟨directory, split⟩ := image.name_eq
      rw [← same, anonymous] at split
      simp at split
    · exact .inr foreign
  · refine (pairwise_images h).imp_of_mem ?_
    rintro module module' - hmodule' ⟨stop, stops, nonempty, le⟩
    obtain ⟨run, -, cut, image⟩ := exists_cut_of_mem h.start_le_stop hmodule'
    refine ⟨UInt64.lt_of_lt_of_le nonempty le, fun a inside => ?_⟩
    have before := UInt64.lt_of_lt_of_le (stops.contains_iff.1 inside).2 le
    rw [image.stopsAt.contains_eq, Address.isWithin, decide_eq_false (UInt64.not_le.2 before)]
    rfl

/-- Neither module has an address in the gap of the file, or in the memory behind it that can be
written. -/
theorem modules_are_read_only_with_gap :
    Ascending (mappings threeRuns) ∧
    ∃ first second, modules threeRuns = .ok [first, second] ∧
      first.base.value < second.base.value ∧
      (∀ a : Address, 3 ≤ a.value → a.value < 5 → first.contains a = .ok false) ∧
      first.contains ⟨6⟩ = .ok false := by
  have ascending : Ascending (mappings threeRuns) := by
    rw [mappings_threeRuns]
    exact ⟨by decide, by decide⟩
  have two : modules threeRuns =
      .ok [⟨"a", "/a", ⟨0⟩, 3⟩, ⟨"b", "/x/b", ⟨0xFFFFFFFFFFFFFFF0⟩, 0xF⟩] := by
    rw [modules, mappings_threeRuns]
    rfl
  obtain ⟨found, all, covered, foreign, ordered⟩ := modules_are_read_only threeRuns ascending
  obtain rfl := Except.ok.inj (two.symm.trans all)
  refine ⟨ascending, _, _, two, (List.rel_of_pairwise_cons ordered (by simp)).1, ?_, ?_⟩
  · intro a after before
    obtain ⟨inside, told, held⟩ := covered _ List.mem_cons_self a
    cases inside with
    | false => exact told
    | true =>
      obtain ⟨x, hx, holds, path, -⟩ := held rfl
      rw [mappings_threeRuns] at hx
      simp only [List.mem_cons, List.not_mem_nil, or_false, Mapping.Holds] at hx holds
      rcases hx with rfl | rfl | rfl | rfl | rfl
      · exact absurd (UInt64.lt_of_le_of_lt after holds.2) (by decide)
      · exact absurd (UInt64.lt_of_le_of_lt after holds.2) (by decide)
      · exact absurd (UInt64.lt_of_le_of_lt holds.1 before) (by decide)
      · exact absurd (UInt64.lt_of_le_of_lt holds.1 before) (by decide)
      · exact absurd (UInt64.lt_of_le_of_lt holds.1 before) (by decide)
  · have listed : (⟨6, 7, true, true, 0, ""⟩ : Mapping) ∈ mappings threeRuns := by
      rw [mappings_threeRuns]
      simp
    exact foreign _ List.mem_cons_self _ listed (.inl rfl) ⟨6⟩ (by simp [Mapping.Holds])

end Listing

end ByteScan
