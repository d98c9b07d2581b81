import PostMarkup.CommandLine
import PostMarkup.Compilation
import PostMarkup.Config
import PostMarkup.Disk
import PostMarkup.Summary

/-! A run of the program as a function of what it is asked, the reader of configurations, the disk,
and its standard input. What it prints and the one file that it may write are part of its outcome.
-/

namespace PostMarkup

/-- The configuration file of the place where the program runs. -/
def localConfig : Text := "quill/config.toml".toList

/-- The input name that stands for the standard input. -/
def stdinName : Text := ['-']

namespace Config

/-- The configuration file in use: the one asked for, or else the first that is there. -/
def select (disk : Disk) (userConfig : Text) : Option Text → Option Text
  | some path => some path
  | none => [localConfig, userConfig].find? disk.isThere

def ofBytes (reader : Reader) (bytes : ByteArray) : Except Failure Config := do
  let text ← (decodeUtf8 bytes).mapError .io
  let config ← (reader text).mapError fun reason => .config (.malformed reason)
  match config.zeroLimit? with
  | some name => .error (.config (.zeroLimit name))
  | none => .ok config

/-- The configuration in the file in use, and the usual one where there is no such file. -/
def load (reader : Reader) (disk : Disk) (userConfig : Text) (asked : Option Text) :
    Except Failure Config :=
  match select disk userConfig asked with
  | none => .ok {}
  | some path =>
    if disk.isThere path then do ofBytes reader (← (disk.read path).mapError .io)
    else .error (.config (.missingFile path))

end Config

structure Outcome where
  /-- Whether the run counts as a success, unless it fails. -/
  result : Except Failure Bool
  stdout : Text := []
  /-- The path of a file to be written, and what is to be in it. -/
  written : Option (Text × Text) := none

/-- The exit code of the program. -/
def Outcome.exitCode (outcome : Outcome) : UInt32 :=
  match outcome.result with
  | .ok true => 0
  | .ok false | .error _ => 1

def readInput (disk : Disk) (stdin : ByteArray) (input : Text) : Except Failure Text := do
  let bytes ← if input = stdinName then .ok stdin else (disk.read input).mapError .io
  (decodeUtf8 bytes).mapError .io

def runCompile (disk : Disk) (config : Config) (output : Option Text) (post : Text) : Outcome :=
  match (compile config.limits post).result with
  | .error errors => { result := .error (.compile errors post) }
  | .ok text =>
    match output with
    | none => { result := .ok true, stdout := text ++ ['\n'] }
    | some path =>
      match disk.refusal? path with
      | some error => { result := .error (.io error) }
      | none => { result := .ok true, written := some (path, text) }

def runAnalyze (config : Config) (json : Bool) (text : Text) : Outcome :=
  let analysis := analyze config.thresholds .standard text
  { result := .ok analysis.valid, stdout := analysis.printed json }

/-- What a run works on: the configuration, and then the text of the input. -/
def prepare (reader : Config.Reader) (disk : Disk) (userConfig : Text) (stdin : ByteArray)
    (asked : Invocation) : Except Failure (Config × Text) := do
  let config ← Config.load reader disk userConfig asked.config
  return (config, ← readInput disk stdin asked.input)

/-- A run of the program. The user's own configuration file is at `userConfig`. -/
def run (reader : Config.Reader) (disk : Disk) (userConfig : Text) (stdin : ByteArray)
    (asked : Invocation) : Outcome :=
  match prepare reader disk userConfig stdin asked with
  | .error failure => { result := .error failure }
  | .ok (config, text) =>
    match asked.command with
    | .compile output => runCompile disk config output text
    | .analyze json => runAnalyze config json text

def runEvents (reader : Config.Reader) (disk : Disk) (userConfig : Text) (stdin : ByteArray)
    (asked : Invocation) : List Event :=
  match prepare reader disk userConfig stdin asked with
  | .error _ => []
  | .ok (config, text) =>
    match asked.command with
    | .compile _ => compileEvents config.limits text
    | .analyze _ => analyzeEvents config.thresholds .standard text

def Outcome.files (outcome : Outcome) (before : Files) : Files :=
  match outcome.written with
  | none => before
  | some (path, text) =>
    match before.write path (encodeUtf8 text) with
    | .ok after => after
    | .error _ => before

end PostMarkup
