import ProjectIndex.Index.Project
import ProjectIndex.Config.File
import ProjectIndex.Config.Starter
import ProjectIndex.Toml.Read
import ProjectIndex.Data.Json

/-!
The command line.

`init [--project-id ID]` prints a starter configuration for the project (`project` when no id is
given). `analyze [--project-id ID] [--workers N]` reads one JSON object from standard input: its
`files` map each path to its text, its optional `config` is the text of a TOML configuration, and
its optional `env` gives the environment variables the configuration may refer to. It prints the
report as JSON, or the configuration error on standard error with exit code 1. `--version` prints
the version.

The words are read by `parseCommand`, and each command's output is computed by a pure function
(`analyzeInput`, `initText`); `main` only reads standard input and prints.

Owns: `Command`, `parseCommand`, `analyzeInput`, `initText`, `main`.
-/

namespace ProjectIndex.Cli

open ProjectIndex.Data

/-- The version the command line reports. -/
def versionText : String := "metadatafy v1.0.1"

/-- The name a configuration read from standard input is known by. -/
def configName : String := "metadatafy.toml"

/-- What the command line was asked to do. -/
inductive Command where
  | version
  | init (projectId : Option String)
  | analyze (projectId : Option String) (workers : Option Nat)
deriving Repr, DecidableEq

/-- Reads the options of a command: `--project-id`/`-p` with a value, and `--workers`/`-w`
with a number. -/
def readOptions : List String → Option String → Option Nat →
    Except String (Option String × Option Nat)
  | [], p, w => .ok (p, w)
  | flag :: value :: rest, p, w =>
    if flag == "--project-id" || flag == "-p" then readOptions rest (some value) w
    else if flag == "--workers" || flag == "-w" then
      match value.toNat? with
      | some n => readOptions rest p (some n)
      | none => .error ("invalid number of workers: " ++ value)
    else .error ("unknown option: " ++ flag)
  | [flag], _, _ => .error ("unknown option or missing value: " ++ flag)

/-- Reads the words of the command line. -/
def parseCommand : List String → Except String Command
  | ["--version"] | ["-V"] => .ok .version
  | "init" :: rest => do
    let (p, w) ← readOptions rest none none
    if w.isSome then throw "init takes no --workers" else pure (.init p)
  | "analyze" :: rest => do
    let (p, w) ← readOptions rest none none
    pure (.analyze p w)
  | _ => .error "usage: init [--project-id ID] | analyze [--project-id ID] [--workers N] | --version"

/-- The starter configuration `init` prints. -/
def initText (projectId : Option String) : Except String String :=
  match Config.renderStarterConfig (.str (projectId.getD "project")) with
  | .ok text => .ok text
  | .error _ => .error "cannot render the starter configuration"

/-- The text of a value that should be a string, or nothing. -/
def stringOf? : Value → Option String
  | .str s => some s
  | _ => none

/-- The report `analyze` prints for its input, or the error it reports. -/
def analyzeInput (projectId : Option String) (workers : Option Nat) (input : String) :
    Except String String := do
  let data ← match readJson input with
    | .ok v => pure v
    | .error e => throw ("invalid input: " ++ e.message input)
  let env : Config.Environment :=
    ((data.get? "env").getD (.table [])).entries.filterMap fun (k, v) => (stringOf? v).map (k, ·)
  let configText := (data.get? "config").bind stringOf?
  let cfg ← match Config.loadConfigFile Toml.loads env configName (configText.map .text) with
    | .ok c => pure c
    | .error (.refused e) => throw ("Configuration error: " ++ e.message)
    | .error (.fault f) => throw ("Configuration error: " ++ f.message)
    | .error (.crash _ message) => throw ("Configuration error: " ++ message)
  let cfg := match projectId with
    | some p => { cfg with projectId := p }
    | none => cfg
  let cfg := match workers with
    | some n => { cfg with workers := n }
    | none => cfg
  let files := ((data.get? "files").getD (.table [])).entries.filterMap fun (k, v) =>
    (stringOf? v).map fun text => (k, (Except.ok text : Except String String))
  let source := configText.map fun _ => configName
  match analyzeProject cfg source (Workspace.inMemory files) none with
  | .ok report => pure report.toValue.toJson
  | .error (.config e) => throw ("Configuration error: " ++ e.message)
  | .error (.unencodable report) => throw ("Encoding error: " ++ report)

/-- Reads a stream to its end. -/
partial def readAll (stream : IO.FS.Stream) (acc : String) : IO String := do
  let line ← stream.getLine
  if line.isEmpty then return acc else readAll stream (acc ++ line)

/-- Prints a command's output, or its error with exit code 1. -/
def finish (result : Except String String) : IO UInt32 := do
  match result with
  | .ok text =>
    IO.println text
    return 0
  | .error message =>
    IO.eprintln message
    return 1

end ProjectIndex.Cli

open ProjectIndex.Cli in
/-- Runs the command line. -/
def main (args : List String) : IO UInt32 := do
  match parseCommand args with
  | .error usage => finish (.error usage)
  | .ok .version => finish (.ok versionText)
  | .ok (.init p) => finish (initText p)
  | .ok (.analyze p w) =>
    let input ← readAll (← IO.getStdin) ""
    finish (analyzeInput p w input)
