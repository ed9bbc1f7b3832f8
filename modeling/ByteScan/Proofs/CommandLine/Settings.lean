import ByteScan.CommandLine.Run
import ByteScan.Proofs.Config

/-!
# Options on top of a settings file

The settings of a run come from two places: an option that is given on the command line decides, and
the file decides on everything else. Each place is looked at on its own before the two are laid on
top of each other: the arguments may not ask for no workers, and neither may the file, even where an
option replaces the number of workers in it. With workers in both there is nothing left that could
fail, so the number of workers in the file is the one value that counts although it may be replaced.
-/

namespace ByteScan

namespace CommandLine

variable {files : Files} {a : Arguments} {base c : Config} {path text : String}

/-- Settings that lay the options of a command line on top of others: an option that is given
decides, and what is switched on stays on. -/
structure IsOverlay (a : Arguments) (base c : Config) : Prop where
  /-- The workers are those that are asked for. -/
  workers_of_some : ∀ n, a.threads = some n → c.workerThreads = n
  /-- If none are asked for, the workers stay. -/
  workers_of_none : a.threads = none → c.workerThreads = base.workerThreads
  /-- The algorithm is the one that is asked for. -/
  algorithm_of_some : ∀ choice, a.algorithm = some choice → c.algorithm = some choice
  /-- If none is asked for, the choice stays. -/
  algorithm_of_none : a.algorithm = none → c.algorithm = base.algorithm
  /-- Patterns are handed out one at a time if either says so. -/
  loadBalance_iff : c.loadBalance = true ↔ base.loadBalance = true ∨ a.loadBalance = true
  /-- Repeated patterns are searched once if either says so. -/
  cacheDuplicates_iff : c.cacheDuplicates = true ↔ base.cacheDuplicates = true ∨ a.cached = true

theorem isOverlay_iff : IsOverlay a base c ↔ c = overlay base a := by
  constructor
  · rintro ⟨workers, workers', algorithm, algorithm', balance, cached⟩
    obtain ⟨_, _, _, _⟩ := c
    rw [← Bool.or_eq_true, ← Bool.eq_iff_iff] at balance cached
    rw [overlay, Config.mk.injEq]
    refine ⟨?_, ?_, balance, cached⟩
    · cases given : a.threads with
      | none => exact workers' given
      | some n => exact workers n given
    · cases given : a.algorithm with
      | none => exact algorithm' given
      | some choice => exact algorithm choice given
  · rintro rfl
    refine ⟨?_, ?_, ?_, ?_, Bool.or_eq_true_iff, Bool.or_eq_true_iff⟩
    · intro n given
      rw [overlay, given, Option.getD_some]
    · intro given
      rw [overlay, given, Option.getD_none]
    · intro choice given
      rw [overlay, given]
      rfl
    · intro given
      rw [overlay, given]
      rfl

theorem overlay_workerThreads_ne_zero (valid : a.isValid = true)
    (workers : base.workerThreads ≠ 0) : (overlay base a).workerThreads ≠ 0 := by
  rw [Arguments.isValid, bne_iff_ne] at valid
  rw [overlay]
  cases given : a.threads with
  | none => exact workers
  | some n =>
    rintro rfl
    exact valid given

section Machine

variable [Machine]

/-- Settings that come from a file are refused if there are no workers in it, or in the overlay. -/
theorem buildConfig_of_read (named : a.config = some path) (content : files.text path = .ok text)
    (read : Config.read text = .ok base) :
    buildConfig files a =
      if base.workerThreads = 0 then .error (.configFile path .noWorkers)
      else if (overlay base a).workerThreads = 0 then .error (.settings .noWorkers)
      else .ok (overlay base a) := by
  simp only [buildConfig, named, content, Config.ofFile_ok, Config.parse_of_read read]
  split
  · rfl
  · change ((overlay base a).validate.mapError Failure.settings >>= fun _ => Except.ok _) = _
    rw [Config.validate]
    split <;> rfl

/-- **Options go on top of the settings file.** Take arguments that make sense together and a file
whose text can be read as settings. The settings of the run are the overlay of the options on those
of the file, which has workers then, exactly if there are workers in the file; without workers the
file is refused, whatever the options replace. No other value in the file can make the run fail. -/
theorem options_override_file (valid : a.isValid = true) (named : a.config = some path)
    (content : files.text path = .ok text) (read : Config.read text = .ok base) :
    ∃ c, (∀ other, IsOverlay a base other ↔ other = c) ∧
      (base.workerThreads ≠ 0 → c.workerThreads ≠ 0) ∧
      buildConfig files a =
        if base.workerThreads = 0 then .error (.configFile path .noWorkers) else .ok c := by
  refine ⟨overlay base a, fun other => isOverlay_iff, overlay_workerThreads_ne_zero valid, ?_⟩
  rw [buildConfig_of_read named content read]
  split
  · rfl
  · exact if_neg (overlay_workerThreads_ne_zero valid ‹_›)

end Machine

/-- Arguments that ask for four workers and name a settings file. -/
def fourWorkers : Arguments :=
  { file := "data.bin", patterns := ["7A"], threads := some 4, config := some "settings.json" }

/-- Files of which each has the given text. -/
def filesOf (text : String) : Files := ⟨fun _ => .ok #[], fun _ => .ok text⟩

section Uniprocessor

attribute [local instance] Machine.uniprocessor

/-- The two workers of the file are replaced by four, and all else in it stays. -/
theorem options_override_file_with_four_workers :
    ∃ base : Config, base = ⟨2, some .simple, true, false⟩ ∧
      fourWorkers.isValid = true ∧ fourWorkers.config = some "settings.json" ∧
      (filesOf base.render).text "settings.json" = .ok base.render ∧
      Config.read base.render = .ok base ∧
      buildConfig (filesOf base.render) fourWorkers = .ok ⟨4, some .simple, true, false⟩ := by
  let base : Config := ⟨2, some .simple, true, false⟩
  have content : (filesOf base.render).text "settings.json" = .ok base.render := rfl
  have read : Config.read base.render = .ok base := Config.read_render base
  obtain ⟨c, only, -, built⟩ := options_override_file (a := fourWorkers) rfl rfl content read
  obtain rfl : _ = c := (only _).1 (isOverlay_iff.2 rfl)
  have workers : base.workerThreads ≠ 0 := by decide
  rw [if_neg workers] at built
  exact ⟨base, rfl, rfl, rfl, content, read, built⟩

/-- A file without workers is refused, although the arguments make sense and replace the number of
workers in it, so that the overlay has four. -/
theorem replaced_workers_refused :
    ∃ idle overlaid : Config, idle = { workerThreads := 0 } ∧ overlaid = { workerThreads := 4 } ∧
      Arguments.parse ["data.bin", "7A", "--config", "settings.json", "--threads", "4"] =
        .ok fourWorkers ∧
      fourWorkers.isValid = true ∧ fourWorkers.config = some "settings.json" ∧
      Config.read idle.render = .ok idle ∧ IsOverlay fourWorkers idle overlaid ∧
      buildConfig (filesOf idle.render) fourWorkers =
        .error (.configFile "settings.json" .noWorkers) := by
  let idle : Config := { workerThreads := 0 }
  have read : Config.read idle.render = .ok idle := Config.read_render idle
  have content : (filesOf idle.render).text "settings.json" = .ok idle.render := rfl
  have refused := buildConfig_of_read (a := fourWorkers) rfl content read
  exact ⟨idle, _, rfl, rfl, rfl, rfl, rfl, read, isOverlay_iff.2 rfl, refused⟩

end Uniprocessor

end CommandLine

end ByteScan
