import ByteScan.CommandLine.Arguments
import ByteScan.CommandLine.Files
import ByteScan.Report

/-!
# Running the program

From arguments to what is printed. The settings are those of the configuration file, or the
defaults, with the options of the command line on top. Then the file is opened and searched, and
the report is printed; whatever goes wrong ends the run with one line that names the cause, and
behind it the cause of the cause.
-/

namespace ByteScan.CommandLine

/-- Why a run ends without a report. -/
inductive Failure where
  /-- The arguments do not make sense together. -/
  | arguments
  /-- The configuration file cannot be used. -/
  | configFile (path : String) (cause : ConfigError)
  /-- The settings cannot be used. -/
  | settings (cause : ConfigError)
  /-- The file cannot be searched. -/
  | file (path : String) (cause : ScanError)
  /-- A pattern is malformed. -/
  | pattern (cause : PatternError)
  deriving DecidableEq, Repr

/-- A configuration error and its cause. -/
def configCauses (e : ConfigError) : List String :=
  e.message :: match e with
    | .unreadable cause => [cause.message]
    | .unparsable cause => [cause.message]
    | .noWorkers => []

/-- An error and its cause. -/
def scanCauses : ScanError → List String
  | .pattern e => [e.message]
  | .config e => configCauses e
  | .workers e => (ScanError.workers e).message :: e.message :: e.causes
  | .memory e =>
    e.message :: match e with
      | .unreadable cause => [cause.message]
      | .readFailed _ _ cause => [cause.message]
      | _ => []

/-- A failure, its cause, and so on. -/
def Failure.causes : Failure → List String
  | .arguments => [Arguments.invalidMessage]
  | .configFile path cause => s!"Failed to load config {path}" :: configCauses cause
  | .settings cause => configCauses cause
  | .file path cause => s!"Failed to open {path}" :: scanCauses cause
  | .pattern cause => [cause.message]

/-- The options of the command line on top of a configuration. -/
def overlay (c : Config) (a : Arguments) : Config where
  workerThreads := a.threads.getD c.workerThreads
  algorithm := a.algorithm <|> c.algorithm
  loadBalance := c.loadBalance || a.loadBalance
  cacheDuplicates := c.cacheDuplicates || a.cached

variable [Machine]

/-- The settings of a run. -/
def buildConfig (files : Files) (a : Arguments) : Except Failure Config := do
  let base ← match a.config with
    | some path => (Config.ofFile (files.text path)).mapError (.configFile path)
    | none => .ok default
  let c := overlay base a
  c.validate.mapError .settings
  return c

/-- Adds to each pattern the places of all its matches, if they are asked for and there are any. -/
def buildRows (s : Scanner) (all : Bool) :
    List String → List ScanResult → Attempt PatternError (List ReportRow)
  | text :: texts, r :: results => do
    let offsets ← if all && r.found then some <$> s.findAll text else pure none
    return ⟨text, r, offsets⟩ :: (← buildRows s all texts results)
  | _, _ => return []

/-- Searches for the patterns of the command line. -/
def scan (s : Scanner) (a : Arguments) (c : Config) : Attempt PatternError (Report × Log) := do
  let (results, log) ←
    if c.cacheDuplicates then s.findManyCached a.patterns c.loadBalance
    else s.findMany a.patterns c.loadBalance
  let rows ← buildRows s a.all a.patterns results
  return (⟨a.file, s.region.bytes.size, s.algorithm, s.dispatcher.workers, .none, rows⟩, log)

/-! ### Output -/

/-- What a run leaves behind. -/
structure Outcome where
  /-- The exit code. -/
  exitCode : Nat
  /-- What is printed. -/
  stdout : String
  /-- What is printed beside it. -/
  stderr : String
  deriving DecidableEq, Repr

/-- The colour of the name of a level. -/
def levelPaint : LogLevel → Text.Paint
  | .trace => .cyan
  | .debug => .blue
  | .info => .green
  | .warn => .yellow
  | .error => .red

/-- How many levels matter less. -/
def severity : LogLevel → Nat
  | .trace => 0
  | .debug => 1
  | .info => 2
  | .warn => 3
  | .error => 4

/-- Whether an entry is written. -/
def Verbosity.admits (v : Verbosity) (e : LogEntry) : Bool :=
  match v with
  | .off => false
  | .from level => severity level ≤ severity e.level

/-- The line of a log entry. -/
def renderEntry (isColoured : Bool) (e : LogEntry) : String :=
  let front := Text.Paint.grey.apply isColoured "["
  let level := (levelPaint e.level).apply isColoured (Report.padded 5 e.level.name)
  let back := Text.Paint.grey.apply isColoured "]"
  s!"{front}{level} {e.target}{back} {e.message}\n"

/-- The lines of the entries that are written. -/
def renderLog (isColoured : Bool) (v : Verbosity) (log : Log) : String :=
  String.join ((log.filter v.admits).map (renderEntry isColoured))

/-- The line of a failure. -/
def renderFailure (isColoured : Bool) (f : Failure) : String :=
  let mark := Text.Paint.red.apply isColoured "[!]"
  let causes := ": ".intercalate f.causes
  s!"{mark} {causes}\n"

/-- What a run comes to: a report or a failure, and the log of both. -/
structure Finding where
  /-- The report, or why there is none. -/
  report : Except Failure Report
  /-- What was told on the way. -/
  log : Log

/-- Everything a run does before it prints. -/
def find (files : Files) (a : Arguments) : Except Fault Finding := do
  if !a.isValid then return ⟨.error .arguments, []⟩
  match buildConfig files a with
  | .error failure => return ⟨.error failure, []⟩
  | .ok c =>
    let configLog := [LogEntry.configured c]
    match ← (Scanner.ofSourceWith c (.file a.file (files.mapped a.file))).run with
    | .error e => return ⟨.error (.file a.file e), configLog⟩
    | .ok (s, buildLog) =>
      match ← (scan s a c).run with
      | .error e => return ⟨.error (.pattern e), configLog ++ buildLog⟩
      | .ok (report, scanLog) => return ⟨.ok report, configLog ++ buildLog ++ scanLog⟩

/-- What a run prints. Arguments that do not make sense are reported before the colours can be
switched off, and the log keeps its colours in any case. -/
def present (isColoured : Bool) (a : Arguments) (elapsed : Elapsed) (f : Finding) : Outcome :=
  let log := renderLog isColoured a.verbosity f.log
  let isPainted := isColoured && !(a.noColor && a.isValid)
  match f.report with
  | .error failure => ⟨1, "", log ++ renderFailure isPainted failure⟩
  | .ok report =>
    let report := { report with elapsed }
    if a.json then ⟨0, report.toJson.indented ++ "\n", log⟩
    else ⟨0, report.render isPainted, log⟩

/-! ### Usage -/

/-- The name and the version of the program. -/
def versionText : String := "sigscan 1.0.0\n"

/-- How the program is used. -/
def usageText : String :=
  "Searches a file for byte signatures with wildcards\n\n" ++
  "Usage: sigscan [OPTIONS] <FILE> <PATTERNS>...\n\n" ++
  "Arguments:\n" ++
  "  <FILE>         File to scan. It is memory mapped, not read\n" ++
  "  <PATTERNS>...  Patterns such as \"48 8B 05 ?? ?? ?? ??\"\n\n" ++
  "Options:\n" ++
  "  -a, --algorithm <ALGORITHM>  Force a kernel: simple, compiled, sse2 or avx2\n" ++
  "  -t, --threads <THREADS>      \n" ++
  "      --load-balance           Hand patterns to workers one at a time\n" ++
  "      --cached                 Scan repeated patterns only once\n" ++
  "      --all                    Report every match instead of the first\n" ++
  "      --json                   \n" ++
  "  -c, --config <CONFIG>        JSON scanner configuration; flags override its values\n" ++
  "  -l, --log-level <LOG_LEVEL>  [default: warn] [possible values: trace, debug, info, " ++
  "warn, error, off]\n" ++
  "      --no-color               \n" ++
  "  -h, --help                   Print help\n" ++
  "  -V, --version                Print version\n"

/-- Why a command line asks for no search, in words. -/
def Stop.message : Stop → String
  | missingArgument => "a file and at least one pattern are required"
  | unknownArgument => "unexpected argument"
  | invalidValue => "an option needs a value, or another one"
  | unreadableValue => "the value of an option cannot be read"
  | repeatedArgument => "an option is given twice"
  | needlessValue => "an option that has no value is given one"
  | help => ""
  | version => ""

/-- What is printed when there is nothing to search. -/
def Stop.outcome : Stop → Outcome
  | help => ⟨0, usageText, ""⟩
  | version => ⟨0, versionText, ""⟩
  | stop => ⟨2, "", s!"error: {stop.message}\n\nFor more information, try '--help'.\n"⟩

/-- What is left behind by a run that ends in a fault: nothing but its exit code. -/
def faulted : Outcome := ⟨101, "", ""⟩

/-- What a run leaves behind, from the words of its command line. -/
def run (isColoured : Bool) (files : Files) (elapsed : Elapsed) (words : List String) : Outcome :=
  match Arguments.parse words with
  | .error stop => stop.outcome
  | .ok a =>
    match find files a with
    | .ok finding => present isColoured a elapsed finding
    | .error _ => faulted

end ByteScan.CommandLine
