import ByteScan.Cache
import ByteScan.Dispatch
import ByteScan.Kernel
import ByteScan.Log
import ByteScan.Memory.Program

/-!
# Scanners

A scanner is a region together with a way to search it: an algorithm for single patterns, and
workers for batches of them. The operations take patterns as texts. A text that is no pattern is
refused, and in a batch before any search is made.

No setting changes an answer. Each search gives the lowest match, a batch gives for each of its
patterns what a search for that pattern alone gives, and a cache of repeated patterns only saves
searches.
-/

namespace ByteScan

/-- Why there is no scanner, or no answer. -/
inductive ScanError where
  /-- A pattern is malformed. -/
  | pattern (cause : PatternError)
  /-- There are no bytes to search. -/
  | memory (cause : MemoryError)
  /-- The configuration is refused. -/
  | config (cause : ConfigError)
  /-- The workers of the scanner cannot be started. -/
  | workers (cause : WorkersError)
  deriving DecidableEq, Repr

/-- The wording of an error. -/
def ScanError.message : ScanError → String
  | .pattern cause => cause.message
  | .memory cause => cause.message
  | .config cause => cause.message
  | .workers cause => "Failed to build worker pool: " ++ cause.message

/-- A region and a way to search it. -/
structure Scanner where
  /-- What is searched. -/
  region : Region
  /-- How single patterns are searched for. -/
  algorithm : Algorithm
  /-- Who searches for batches. -/
  dispatcher : Dispatcher

namespace Scanner

/-! ### Building scanners

A scanner comes with the log of how it was built. -/

variable [Machine]

/-- The scanner of a region that uses the fastest algorithm and the shared workers. -/
def ofRegion (region : Region) : Scanner × Log :=
  (⟨region, Algorithm.best.resolve, .shared⟩, [.detected Algorithm.best])

/-- The workers that a configuration asks for: those that are there for everyone if they are as
many, and its own if not. -/
def workersOf (config : Config) : Except WorkersError (Dispatcher × Log) := do
  if config.needsDedicatedPool then
    let dispatcher ← Dispatcher.dedicated config.workerThreads.toNat
    return (dispatcher, [.pooled dispatcher.workers])
  else
    return (.shared, [])

/-- How the algorithm of a configuration is chosen. -/
def choiceLog (config : Config) : Log :=
  match config.algorithm with
  | some a => a.replacements.map fun (missing, slower) => .replaced missing slower
  | none => [.detected Algorithm.best]

/-- The scanner of a region with the given settings. -/
def withConfig (region : Region) (config : Config) : Except ScanError (Scanner × Log) := do
  config.validate.mapError .config
  let (dispatcher, poolLog) ← (workersOf config).mapError .workers
  let algorithm := config.effectiveAlgorithm.resolve
  return (⟨region, algorithm, dispatcher⟩,
    poolLog ++ choiceLog config ++ [.ready region.kind region.bytes.size algorithm])

/-- Where the bytes of a scanner come from. -/
inductive Source where
  /-- A region that someone has put together. -/
  | given (region : Region)
  /-- Bytes that the scanner keeps. -/
  | buffer (bytes : Bytes)
  /-- Bytes that are lent to the scanner. -/
  | slice (bytes : Bytes)
  /-- The first bytes of a piece of memory. -/
  | memory (memory : Bytes) (length : Nat)
  /-- A file with the given name, and what it holds. -/
  | file (path : String) (content : Except SystemError Bytes)
  /-- A module of a program. -/
  | module (reader : MemoryReader) (module : Module)
  /-- A piece of the memory of another program. -/
  | copy (reader : MemoryReader) (base : Address) (length : Nat)
  /-- A module, by its name, of one of the programs that run, by its number. -/
  | program (running : List Program) (id : Nat) (name : String)

/-- The region of a source, and the log of a file. -/
def Source.region : Source → Attempt MemoryError (Region × Log)
  | given region => return (region, [])
  | buffer bytes => Attempt.ofExcept do return (← Region.ofBytes .owned bytes, [])
  | slice bytes => Attempt.ofExcept do return (← Region.ofBytes .borrowed bytes, [])
  | memory bytes length => Attempt.ofExcept do return (← Region.ofMemory bytes length, [])
  | file path content => Attempt.ofExcept do
    let region ← Region.ofFile content
    return (region, [.mapped path region.bytes.size])
  | module reader m => do return (← Region.ofModule reader m, [])
  | copy reader base length => do return (← Region.ofReader reader base length, [])
  | program running id name => do
    let program ← Attempt.ofExcept (Program.attach running id)
    let m ← program.findModule name
    return (← Region.ofReader (program.reader false) m.base m.size.toNat, [])

/-- The scanner of a source without settings. -/
def ofSource (source : Source) : Attempt ScanError (Scanner × Log) := do
  let (region, log) ← source.region.mapError .memory
  let note := match source with
    | .module _ m => [LogEntry.scanning m region.kind]
    | _ => []
  let (scanner, readyLog) := ofRegion region
  return (scanner, log ++ note ++ readyLog)

/-- The scanner of a source with the given settings. The bytes are fetched before the settings are
looked at. -/
def ofSourceWith (config : Config) (source : Source) : Attempt ScanError (Scanner × Log) := do
  let (region, log) ← source.region.mapError .memory
  let (scanner, readyLog) ← Attempt.ofExcept (withConfig region config)
  return (scanner, log ++ readyLog)

/-! ### Searching -/

/-- Searches for a pattern. -/
def search (s : Scanner) (p : Pattern) : Except Fault ScanResult :=
  s.algorithm.find s.region.bytes p

/-- Finds the first match of a pattern. -/
def find (s : Scanner) (text : String) : Attempt PatternError ScanResult := do
  s.search (← Attempt.ofExcept (Pattern.parse text))

/-- Finds the first match of a pattern at or behind `start`. -/
def findFrom (s : Scanner) (text : String) (start : Nat) : Attempt PatternError ScanResult := do
  s.algorithm.findFrom s.region.bytes (← Attempt.ofExcept (Pattern.parse text)) start

/-- Finds the first match of a pattern with another algorithm. -/
def findWith (s : Scanner) (text : String) (a : Algorithm) : Attempt PatternError ScanResult := do
  a.resolve.find s.region.bytes (← Attempt.ofExcept (Pattern.parse text))

/-- The places of all matches from `start` on. Each search begins behind the match before it. -/
def placesFrom (s : Scanner) (p : Pattern) (start : Nat) : Except Fault (List Nat) := do
  match (← s.algorithm.findFrom s.region.bytes p start).position with
  | none => return []
  | some place =>
    if start ≤ place.toNat ∧ place.toNat < s.region.bytes.size then
      return place.toNat :: (← placesFrom s p (place.toNat + 1))
    else
      throw .noProgress
termination_by s.region.bytes.size - start

/-- The places of all matches of a pattern, in ascending order. Matches may overlap. -/
def findAll (s : Scanner) (text : String) : Attempt PatternError (List Nat) := do
  s.placesFrom (← Attempt.ofExcept (Pattern.parse text)) 0

/-- The log of a batch: one entry for each pattern. -/
def batchLog (patterns : List Pattern) (results : List ScanResult) : Log :=
  List.zipWith .searched patterns results

/-- Searches for every pattern of a batch. -/
def searchBatch (s : Scanner) (loadBalance : Bool) (patterns : List Pattern) :
    Except Fault (List ScanResult) :=
  s.dispatcher.run loadBalance patterns s.search

/-- Searches for a pattern whose result may be in the cache. -/
def searchCached (s : Scanner) (p : Pattern) : StateT Cache (Except Fault) ScanResult :=
  fun cache => cache.getOrSearch p.source (s.search p)

/-- Searches for every pattern of a batch, and only once for patterns with the same key. -/
def searchBatchCached (s : Scanner) (loadBalance : Bool) (patterns : List Pattern) :
    Except Fault (List ScanResult) :=
  (s.dispatcher.run loadBalance patterns s.searchCached).run' Cache.empty

/-- Reads every pattern of a batch and hands them to `work`. Where one of them is malformed no work
is done at all. -/
def inBatch {m : Type → Type} [Monad m] (texts : List String)
    (work : List Pattern → m (List ScanResult)) : ExceptT PatternError m (List ScanResult × Log) :=
  match Pattern.parseAll texts with
  | .error e => throw e
  | .ok patterns => do
    let results ← work patterns
    return (results, batchLog patterns results)

/-- Finds the first match of every pattern. The results are in the order of the patterns. -/
def findMany (s : Scanner) (texts : List String) (loadBalance : Bool) :
    Attempt PatternError (List ScanResult × Log) :=
  inBatch texts (s.searchBatch loadBalance)

/-- Finds the first match of every pattern, searching for repeated patterns only once. -/
def findManyCached (s : Scanner) (texts : List String) (loadBalance : Bool) :
    Attempt PatternError (List ScanResult × Log) :=
  inBatch texts (s.searchBatchCached loadBalance)

end Scanner

end ByteScan
