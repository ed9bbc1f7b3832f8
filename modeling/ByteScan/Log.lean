import ByteScan.Config
import ByteScan.Memory.Module
import ByteScan.Memory.Region
import ByteScan.Pattern

/-!
# The log

What a scanner tells about its work. Each kind of entry has a level, from the entries of single
searches to errors, and a target: the part of the scanner that it comes from.
-/

namespace ByteScan

/-- How much an entry matters. -/
inductive LogLevel where
  /-- Every single step. -/
  | trace
  /-- What is being done. -/
  | debug
  /-- What has been done. -/
  | info
  /-- What may be wrong. -/
  | warn
  /-- What is wrong. -/
  | error
  deriving DecidableEq, Repr

/-- The name of a level. -/
def LogLevel.name : LogLevel → String
  | trace => "TRACE"
  | debug => "DEBUG"
  | info => "INFO"
  | warn => "WARN"
  | error => "ERROR"

/-- What is told. -/
inductive LogEntry where
  /-- The settings that are used. -/
  | configured (config : Config)
  /-- A file is mapped. -/
  | mapped (path : String) (length : Nat)
  /-- Workers are set up for one scanner. -/
  | pooled (workers : Nat)
  /-- The fastest algorithm of the machine is known. It is looked for once. -/
  | detected (best : Algorithm)
  /-- The machine cannot run an algorithm, and the next slower one takes its place. -/
  | replaced (missing slower : Algorithm)
  /-- A scanner is ready. -/
  | ready (kind : RegionKind) (length : Nat) (algorithm : Algorithm)
  /-- A module is about to be searched. -/
  | scanning (module : Module) (kind : RegionKind)
  /-- A pattern of a batch has its result. -/
  | searched (pattern : Pattern) (result : ScanResult)

/-- Entries in the order in which they are written. -/
abbrev Log := List LogEntry

namespace LogEntry

/-- The level of an entry. -/
def level : LogEntry → LogLevel
  | searched .. => .trace
  | _ => .debug

/-- The part of the scanner that an entry comes from. -/
def target : LogEntry → String
  | configured _ => "sigscan::ui::cli::handler"
  | mapped .. => "sigscan::memory::region"
  | pooled _ => "sigscan::scanner::dispatch"
  | detected _ => "sigscan::kernel"
  | replaced .. => "sigscan::kernel"
  | ready .. => "sigscan::scanner"
  | scanning .. => "sigscan::scanner"
  | searched .. => "sigscan::scanner::dispatch"

/-- An algorithm, or that there is none, as a field of the settings is shown. -/
def renderChoice : Option Algorithm → String
  | none => "None"
  | some .simple => "Some(Simple)"
  | some .compiled => "Some(Compiled)"
  | some .sse2 => "Some(Sse2)"
  | some .avx2 => "Some(Avx2)"

/-- The settings as they are shown in the log. -/
def renderConfig (c : Config) : String :=
  s!"ScannerConfig \x7b worker_threads: {c.workerThreads.toNat}, " ++
  s!"algorithm: {renderChoice c.algorithm}, load_balance: {c.loadBalance}, " ++
  s!"cache_duplicates: {c.cacheDuplicates} \x7d"

/-- The message of an entry. -/
def message : LogEntry → String
  | configured c => "Effective configuration: " ++ renderConfig c
  | mapped path length => s!"Mapped {path} ({length} bytes)"
  | pooled workers => s!"Built dedicated scan pool with {workers} workers"
  | detected best => s!"Best available search kernel: {best.name}"
  | replaced missing slower =>
    s!"{missing.name} kernel not supported on this CPU, using {slower.name}"
  | ready kind length algorithm =>
    s!"Scanner over {kind.name} region of {length} bytes using {algorithm.name} kernel"
  | scanning module kind => s!"Scanning module {module.render} ({kind.name})"
  | searched pattern result => s!"{pattern.spell} -> {result.render}"

/-- Whether an entry tells what the fastest algorithm is. -/
def isDetection : LogEntry → Bool
  | detected _ => true
  | _ => false

end LogEntry

/-- A log as it is written when the fastest algorithm has been looked for before. -/
def Log.afterDetection (log : Log) : Log := log.filter fun e => !e.isDetection

end ByteScan
