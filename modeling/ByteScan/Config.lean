import ByteScan.Algorithm.Json
import ByteScan.SystemError

/-!
# Configurations

What a scanner can be told: how many workers it has for batches of patterns, which algorithm it
uses, how a batch is handed out, and whether repeated patterns are searched only once. A
configuration without workers can be written down, but it is refused wherever one is used.
-/

namespace ByteScan

/-- The settings of a scanner. -/
structure Config where
  /-- Workers for batches of patterns. -/
  workerThreads : UInt64
  /-- The algorithm, if it is not left to the machine. -/
  algorithm : Option Algorithm := none
  /-- Whether patterns are handed to the workers one at a time. -/
  loadBalance : Bool := false
  /-- Whether repeated patterns are searched only once. -/
  cacheDuplicates : Bool := false
  deriving DecidableEq, Repr

/-- Why there is no configuration. -/
inductive ConfigError where
  /-- Its file cannot be read. -/
  | unreadable (cause : SystemError)
  /-- Its text is not one. -/
  | unparsable (cause : Json.Error)
  /-- It has no workers. -/
  | noWorkers
  deriving DecidableEq, Repr

/-- The wording of a configuration error. -/
def ConfigError.message : ConfigError → String
  | .unreadable cause => "IO error: " ++ cause.message
  | .unparsable cause => "Parse error: " ++ cause.message
  | .noWorkers => "Invalid configuration: worker_threads must be greater than 0"

namespace Config

section Machine

variable [Machine]

/-- The configuration of a scanner that is told nothing: a worker for each processor. -/
instance : Inhabited Config := ⟨{ workerThreads := Machine.processors }⟩

/-- The algorithm that a scanner with this configuration uses. -/
def effectiveAlgorithm (c : Config) : Algorithm :=
  match c.algorithm with
  | some a => a.resolve
  | none => Algorithm.best

/-- Whether the workers have to be set up for this scanner alone. -/
def needsDedicatedPool (c : Config) : Bool := c.workerThreads != Machine.sharedWorkers

end Machine

/-- Refuses a configuration without workers. -/
def validate (c : Config) : Except ConfigError Unit :=
  if c.workerThreads = 0 then .error .noWorkers else .ok ()

/-! ### In JSON -/

/-- A configuration as a value. -/
def toJson (c : Config) : Json.Value :=
  .object [("worker_threads", .natural c.workerThreads.toNat),
    ("algorithm", .orNull (c.algorithm.map Algorithm.toJson)),
    ("load_balance", .bool c.loadBalance), ("cache_duplicates", .bool c.cacheDuplicates)]

/-- The text of a configuration. -/
def render (c : Config) : String := c.toJson.indented

/-- The fields of a configuration that have been read. -/
structure Draft where
  /-- The number of workers. -/
  workerThreads : Option UInt64 := none
  /-- The algorithm, or that there is none. -/
  algorithm : Option (Option Algorithm) := none
  /-- Whether patterns are handed out one at a time. -/
  loadBalance : Option Bool := none
  /-- Whether repeated patterns are searched only once. -/
  cacheDuplicates : Option Bool := none

/-- The fields of a configuration. -/
def fields : List (Json.Field Draft) :=
  [⟨"worker_threads", (·.workerThreads.isSome), fun d cs => do
      let (n, rest) ← Json.readWord cs
      return ({ d with workerThreads := some n }, rest)⟩,
   ⟨"algorithm", (·.algorithm.isSome), fun d cs => do
      let (a, rest) ← Json.readOption Algorithm.read cs
      return ({ d with algorithm := some a }, rest)⟩,
   ⟨"load_balance", (·.loadBalance.isSome), fun d cs => do
      let (b, rest) ← Json.readBool cs
      return ({ d with loadBalance := some b }, rest)⟩,
   ⟨"cache_duplicates", (·.cacheDuplicates.isSome), fun d cs => do
      let (b, rest) ← Json.readBool cs
      return ({ d with cacheDuplicates := some b }, rest)⟩]

variable [Machine]

/-- The configuration with the fields that have been read, and the default for all others. -/
def Draft.complete (d : Draft) : Config where
  workerThreads := d.workerThreads.getD (default : Config).workerThreads
  algorithm := d.algorithm.getD (default : Config).algorithm
  loadBalance := d.loadBalance.getD (default : Config).loadBalance
  cacheDuplicates := d.cacheDuplicates.getD (default : Config).cacheDuplicates

/-- Reads the settings in a text, with workers among them or without. -/
def read (text : String) : Except Json.Error Config :=
  Json.readText (Json.readRecord fields (Draft.mk none none none none) (some ·.complete)) text

/-- Reads a configuration and refuses one without workers. -/
def parse (text : String) : Except ConfigError Config := do
  let c ← (read text).mapError .unparsable
  c.validate
  return c

/-- Reads a configuration from what a file holds, if it can be read. -/
def ofFile (content : Except SystemError String) : Except ConfigError Config := do
  parse (← content.mapError .unreadable)

end Config

end ByteScan
