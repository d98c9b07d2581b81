import PostMarkup.Config.Toml
import PostMarkup.Notice
import PostMarkup.Run

/-! The program: looks at the files that a run may ask for, and puts its outcome into effect. -/

namespace PostMarkup.Main

def ioError : IO.Error → IoError
  | .noFileOrDirectory .. => .notFound
  | .inappropriateType _ code _ => if code = 20 then .notDirectory else .isDirectory
  | e => .other (toString e)

def look (path : Text) : IO (Text × Except IoError ByteArray) := do
  try
    return (path, .ok (← IO.FS.readBinFile (String.ofList path)))
  catch e =>
    return (path, .error (ioError e))

/-- The disk as far as paths were looked at. Whether a file can be written shows only when it is. -/
def disk (found : List (Text × Except IoError ByteArray)) : Disk where
  isThere path :=
    match found.lookup path with
    | some (.ok _) | some (.error .isDirectory) => true
    | _ => false
  read path := (found.lookup path).getD (.error .notFound)
  refusal? _ := none

/-- The user's own configuration file. -/
def userConfig : IO Text := do
  let base ←
    match ← IO.getEnv "XDG_CONFIG_HOME" with
    | some directory => pure directory
    | none => pure (((← IO.getEnv "HOME").getD "") ++ "/.config")
  return (base ++ "/quill/config.toml").toList

partial def readAll (stream : IO.FS.Stream) (before : ByteArray) : IO ByteArray := do
  let more ← stream.read 65536
  if more.isEmpty then return before else readAll stream (before ++ more)

def printNotice (notice : Notice) : IO Unit := do
  IO.eprintln notice.message
  if let some help := notice.help then IO.eprintln ("help: " ++ help)

def printEvent (event : Event) : IO Unit :=
  IO.eprintln (event.level.word ++ " " ++ event.target ++ ": " ++ event.message)

def fail (failure : Failure) : IO UInt32 := do
  failure.notices.forM printNotice
  return 1

def finish (outcome : Outcome) : IO UInt32 := do
  match outcome.result with
  | .error failure => fail failure
  | .ok _ =>
    IO.print (String.ofList outcome.stdout)
    if let some (path, text) := outcome.written then
      try
        IO.FS.writeFile (String.ofList path) (String.ofList text)
      catch e =>
        return ← fail (.io (ioError e))
    return outcome.exitCode

def work (asked : Invocation) : IO UInt32 := do
  let userConfig ← userConfig
  let stdin ←
    if asked.input = stdinName then readAll (← IO.getStdin) .empty else pure .empty
  let paths := asked.config.toList ++ [localConfig, userConfig, asked.input]
  let disk := disk (← paths.mapM look)
  let level := (LogLevel.filter? (String.ofList asked.logLevel)).getD (some .warn)
  (keptEvents level (runEvents Config.ofToml disk userConfig stdin asked)).forM printEvent
  finish (run Config.ofToml disk userConfig stdin asked)

end PostMarkup.Main

def main (words : List String) : IO UInt32 := do
  match PostMarkup.Invocation.ofWords (words.map String.toList) with
  | .ok asked => PostMarkup.Main.work asked
  | .error e =>
    if e.isAnswered then
      IO.println e.message
      return 0
    else
      IO.eprintln e.message
      return 2
