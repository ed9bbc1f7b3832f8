import ByteScan.CommandLine.Word
import ByteScan.Log

/-!
# Arguments

What the program is asked to do: a file, one pattern or more, and options. Options and plain words
may be mixed; the first plain word is the file and the others are patterns, and behind `--` every
word is plain. Each option may be given once.

Words are taken in from the left to the right. The value of an option is only looked at when the
next option or plain word is taken in, or at the end. So a word that is no option at all is
reported before a bad value right in front of it.
-/

namespace ByteScan.CommandLine

/-- Which log entries are written. -/
inductive Verbosity where
  /-- None. -/
  | off
  /-- Those of the given level and of the levels that matter more. -/
  | from (level : LogLevel)
  deriving DecidableEq, Repr

namespace Verbosity

/-- The choices, from the most entries to none. -/
def all : List Verbosity :=
  [.from .trace, .from .debug, .from .info, .from .warn, .from .error, .off]

/-- The name of a choice, in capital letters. -/
def name : Verbosity → String
  | off => "OFF"
  | .from level => level.name

/-- The name by which a choice is asked for. -/
def word (v : Verbosity) : String := String.ofList (v.name.toList.map Char.toLower)

/-- The choice with the given name, in letters of any case. -/
def ofName? (name : List Char) : Option Verbosity :=
  all.find? fun v => v.name.toList = name.map Char.toUpper

end Verbosity

/-- What the program is asked to do. -/
structure Arguments where
  /-- The file to search. -/
  file : String
  /-- What to search for. -/
  patterns : List String
  /-- The algorithm to use. -/
  algorithm : Option Algorithm := none
  /-- How many workers to use. -/
  threads : Option UInt64 := none
  /-- Whether patterns are handed out one at a time. -/
  loadBalance : Bool := false
  /-- Whether repeated patterns are searched only once. -/
  cached : Bool := false
  /-- Whether all matches are reported. -/
  all : Bool := false
  /-- Whether the report is written as JSON. -/
  json : Bool := false
  /-- The file with the settings. -/
  config : Option String := none
  /-- Which log entries are written. -/
  verbosity : Verbosity := .from .warn
  /-- Whether the report has no colours. -/
  noColor : Bool := false
  deriving DecidableEq, Repr

/-- Why a command line asks for no search. -/
inductive Stop where
  /-- The file or the patterns are missing. -/
  | missingArgument
  /-- There is no such option. -/
  | unknownArgument
  /-- An option has no value, or none of its possible values. -/
  | invalidValue
  /-- A value is not of the kind that its option needs. -/
  | unreadableValue
  /-- An option is given twice. -/
  | repeatedArgument
  /-- An option that has no value is given one. -/
  | needlessValue
  /-- The usage is asked for. -/
  | help
  /-- The version is asked for. -/
  | version
  deriving DecidableEq, Repr

/-- The options. -/
inductive Key where
  /-- Chooses an algorithm. -/
  | algorithm
  /-- Chooses a number of workers. -/
  | threads
  /-- Hands out patterns one at a time. -/
  | loadBalance
  /-- Searches for repeated patterns only once. -/
  | cached
  /-- Reports all matches. -/
  | all
  /-- Writes the report as JSON. -/
  | json
  /-- Reads settings from a file. -/
  | config
  /-- Chooses which log entries are written. -/
  | logLevel
  /-- Writes the report without colours. -/
  | noColor
  /-- Asks for the usage. -/
  | help
  /-- Asks for the version. -/
  | version
  deriving DecidableEq, Repr

namespace Key

/-- The options, in the order of the usage. -/
def keys : List Key :=
  [algorithm, threads, loadBalance, cached, all, json, config, logLevel, noColor, help, version]

/-- The long name of an option. -/
def long : Key → String
  | algorithm => "algorithm"
  | threads => "threads"
  | loadBalance => "load-balance"
  | cached => "cached"
  | all => "all"
  | json => "json"
  | config => "config"
  | logLevel => "log-level"
  | noColor => "no-color"
  | help => "help"
  | version => "version"

/-- The letter of an option, if it has one. -/
def short : Key → Option Char
  | algorithm => some 'a'
  | threads => some 't'
  | config => some 'c'
  | logLevel => some 'l'
  | help => some 'h'
  | version => some 'V'
  | _ => none

/-- Whether an option has a value. -/
def takesValue : Key → Bool
  | algorithm | threads | config | logLevel => true
  | _ => false

end Key

/-- A word that has been taken in and whose value has not been looked at yet. -/
inductive Pending where
  /-- There is none. -/
  | nothing
  /-- An option, and its value if that has come. -/
  | option (key : Key) (value : Option (List Char))
  /-- The file. -/
  | file (name : List Char)
  deriving DecidableEq, Repr

/-- What is known after some words. -/
structure Progress where
  /-- The options that have been given, with the arguments that they make; the file only counts if
  `hasFile` is set. -/
  arguments : Arguments := { file := "", patterns := [] }
  /-- Whether the file has been accepted. -/
  hasFile : Bool := false
  /-- The options that have been accepted. -/
  given : List Key := []
  /-- What has not been looked at. -/
  pending : Pending := .nothing
  /-- Whether the first plain word has come. -/
  isFileNamed : Bool := false
  /-- Whether all further words are plain. -/
  isTrailing : Bool := false

namespace Progress

/-- Marks an option as given; an option may be given once. -/
def accept (p : Progress) (key : Key) : Except Stop Progress :=
  if key ∈ p.given then .error .repeatedArgument else .ok { p with given := key :: p.given }

/-- The arguments with the value of an option. -/
def withValue (a : Arguments) (key : Key) (value : List Char) : Except Stop Arguments :=
  match key with
  | .algorithm =>
    match Algorithm.ofName (String.ofList value) with
    | .ok algorithm => .ok { a with algorithm := some algorithm }
    | .error _ => .error .unreadableValue
  | .threads =>
    match Numeral.word? 10 value with
    | some n => .ok { a with threads := some n }
    | none => .error .unreadableValue
  | .config =>
    if value.isEmpty then .error .invalidValue
    else .ok { a with config := some (String.ofList value) }
  | .logLevel =>
    match Verbosity.ofName? value with
    | some v => .ok { a with verbosity := v }
    | none => .error .invalidValue
  | _ => .ok a

/-- The arguments with an option that has no value. -/
def withFlag (a : Arguments) : Key → Arguments
  | .loadBalance => { a with loadBalance := true }
  | .cached => { a with cached := true }
  | .all => { a with all := true }
  | .json => { a with json := true }
  | .noColor => { a with noColor := true }
  | _ => a

/-- Takes in the value of an option. -/
def assign (p : Progress) (key : Key) (value : List Char) : Except Stop Progress := do
  let p ← p.accept key
  return { p with arguments := ← withValue p.arguments key value }

/-- Looks at the value that has not been looked at. -/
def settle (p : Progress) : Except Stop Progress :=
  let p' := { p with pending := .nothing }
  match p.pending with
  | .nothing => .ok p'
  | .option _ none => .error .invalidValue
  | .option key (some value) => p'.assign key value
  | .file [] => .error .invalidValue
  | .file name =>
    .ok { p' with hasFile := true, arguments := { p.arguments with file := String.ofList name } }

/-- Takes in an option that has no value. -/
def flag (p : Progress) (key : Key) : Except Stop Progress := do
  let p ← p.settle
  match key with
  | .help => throw .help
  | .version => throw .version
  | _ =>
    let p ← p.accept key
    return { p with arguments := withFlag p.arguments key }

/-- Takes in an option that has a value, which may stand in the same word. -/
def option (p : Progress) (key : Key) (value : Option (List Char)) : Except Stop Progress := do
  let p ← p.settle
  match value with
  | some value => p.assign key value
  | none => return { p with pending := .option key none }

/-- Takes in a long option. -/
def long (p : Progress) (name : List Char) (value : Option (List Char)) : Except Stop Progress :=
  match Key.keys.find? fun k => k.long.toList = name with
  | none => .error .unknownArgument
  | some key =>
    if key.takesValue then p.option key value
    else if value.isSome then .error .needlessValue
    else p.flag key

/-- Takes in a cluster of short options. What follows the letter of an option that has a value is
the value, without the equals sign that may begin it. -/
def short (p : Progress) : List Char → Except Stop Progress
  | [] => .ok p
  | c :: letters =>
    match Key.keys.find? fun k => k.short = some c with
    | none => .error .unknownArgument
    | some key =>
      if key.takesValue then
        match letters with
        | [] => p.option key none
        | '=' :: value => p.option key (some value)
        | value => p.option key (some value)
      else do short (← p.flag key) letters

/-- Takes in a plain word as the file or as a pattern. -/
def positional (p : Progress) (text : List Char) : Except Stop Progress := do
  let p ← p.settle
  if p.isFileNamed then
    let patterns := p.arguments.patterns ++ [String.ofList text]
    return { p with arguments := { p.arguments with patterns } }
  else
    return { p with isFileNamed := true, pending := .file text }

/-- Takes in a plain word. Before `--` it is the value of the option in front of it, if that still
needs one. -/
def plain (p : Progress) (text : List Char) : Except Stop Progress :=
  match p.pending with
  | .option key none =>
    if p.isTrailing then p.positional text
    else .ok { p with pending := .option key (some text) }
  | _ => p.positional text

/-- Takes in a word. -/
def step (p : Progress) (text : List Char) : Except Stop Progress :=
  if p.isTrailing then p.plain text
  else match Word.ofText text with
    | .separator => .ok { p with isTrailing := true }
    | .long name value => p.long name value
    | .short letters => p.short letters
    | .plain text => p.plain text

end Progress

namespace Arguments

/-- Reads a command line, given without the name of the program. -/
def parse (words : List String) : Except Stop Arguments := do
  let p ← words.foldlM (fun p word => p.step word.toList) ({} : Progress)
  let p ← p.settle
  if p.hasFile ∧ p.arguments.patterns ≠ [] then return p.arguments else throw .missingArgument

/-- Whether the arguments make sense together: if workers are asked for, then at least one. -/
def isValid (a : Arguments) : Bool := a.threads != some 0

/-- What is said about arguments that do not make sense. -/
def invalidMessage : String := "Thread count must be at least 1"

end Arguments

end ByteScan.CommandLine
