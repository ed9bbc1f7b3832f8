import ByteScan.Proofs.Algorithm
import ByteScan.Proofs.Config
import ByteScan.Proofs.Fault
import ByteScan.Scanner

/-!
# Building a scanner with settings

Settings are refused for the lack of workers before anything is done for them. A configuration that
asks for as many workers as are there for everyone gets these; for any other number the machine has
to start workers, and it may refuse. Nothing else can fail. Whatever comes of the settings, the
scanner has an algorithm that the machine can run, and a worker.
-/

namespace ByteScan

/-- The machine starts the workers of a configuration, if they have to be started. -/
def Config.CanStart [Machine] (c : Config) : Prop :=
  c.needsDedicatedPool = true → Machine.startWorkers (max c.workerThreads.toNat 1) = .ok ()

namespace Scanner

variable [Machine] {s : Scanner} {config : Config} {region : Region} {log : Log}
  {cause : WorkersError}

theorem workersOf_of_canStart (starts : config.CanStart) :
    ∃ dispatcher poolLog, workersOf config = .ok (dispatcher, poolLog) := by
  rw [workersOf]
  split
  · next needed =>
    rw [Dispatcher.dedicated, starts needed]
    exact ⟨_, _, rfl⟩
  · exact ⟨_, _, rfl⟩

theorem workersOf_of_failed (needed : config.needsDedicatedPool = true)
    (failed : Machine.startWorkers (max config.workerThreads.toNat 1) = .error cause) :
    workersOf config = .error cause := by
  rw [workersOf, if_pos needed, Dispatcher.dedicated, failed]
  rfl

theorem workers_ne_zero_of_workersOf {dispatcher : Dispatcher} {poolLog : Log}
    (h : workersOf config = .ok (dispatcher, poolLog)) : dispatcher.workers ≠ 0 := by
  rw [workersOf] at h
  split at h
  · obtain ⟨own, started, h⟩ := exists_of_bind_eq_ok h
    obtain ⟨-, -, made⟩ := exists_of_bind_eq_ok started
    cases h
    cases made
    exact Nat.ne_of_gt (Nat.le_max_right _ 1)
  · cases h
    exact fun none => Machine.sharedWorkers_ne_zero (UInt64.toNat_inj.1 none)

/-! ### With settings -/

theorem withConfig_of_invalid (workers : config.workerThreads = 0) (region : Region) :
    withConfig region config = .error (.config .noWorkers) := by
  rw [withConfig, Config.validate, if_pos workers]
  rfl

/-- With workers in the settings the outcome hangs on the workers alone. -/
theorem withConfig_of_workers (workers : config.workerThreads ≠ 0) (region : Region) :
    withConfig region config = (do
      let (dispatcher, poolLog) ← (workersOf config).mapError .workers
      let algorithm := config.effectiveAlgorithm.resolve
      return (⟨region, algorithm, dispatcher⟩,
        poolLog ++ choiceLog config ++ [.ready region.kind region.bytes.size algorithm])) := by
  rw [withConfig, Config.validate, if_neg workers]
  rfl

theorem withConfig_of_canStart (workers : config.workerThreads ≠ 0) (starts : config.CanStart)
    (region : Region) : ∃ s log, withConfig region config = .ok (s, log) ∧ s.region = region := by
  obtain ⟨dispatcher, poolLog, started⟩ := workersOf_of_canStart starts
  rw [withConfig_of_workers workers, started]
  exact ⟨_, _, rfl, rfl⟩

theorem withConfig_of_failed (workers : config.workerThreads ≠ 0)
    (needed : config.needsDedicatedPool = true)
    (failed : Machine.startWorkers (max config.workerThreads.toNat 1) = .error cause)
    (region : Region) : withConfig region config = .error (.workers cause) := by
  rw [withConfig_of_workers workers, workersOf_of_failed needed failed]
  rfl

/-- The scanner has the region, an algorithm that the machine can run, and a worker. -/
theorem of_withConfig (h : withConfig region config = .ok (s, log)) :
    s.region = region ∧ s.algorithm.isSupported ∧ s.dispatcher.workers ≠ 0 := by
  obtain ⟨-, -, h⟩ := exists_of_bind_eq_ok h
  obtain ⟨⟨dispatcher, poolLog⟩, started, h⟩ := exists_of_bind_eq_ok h
  cases h
  exact ⟨rfl, Algorithm.isSupported_resolve _,
    workers_ne_zero_of_workersOf (eq_ok_of_mapError started)⟩

/-! ### Without settings -/

theorem of_ofRegion (region : Region) :
    (ofRegion region).1.region = region ∧ (ofRegion region).1.algorithm.isSupported ∧
      (ofRegion region).1.dispatcher.workers ≠ 0 :=
  ⟨rfl, Algorithm.isSupported_resolve _,
    fun none => Machine.sharedWorkers_ne_zero (UInt64.toNat_inj.1 none)⟩

end Scanner

end ByteScan
