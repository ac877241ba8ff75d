import LinkMeter.Monitor.Launch
import LinkMeter.Monitor.Observation

/-! # The command line

Reads observations from standard input, one JSON object a line, and runs the monitor on them until the input ends. Records
go to standard error and to the log file in the data folder, and the settings file is read anew whenever it differs from
what was last seen there. -/

namespace LinkMeter.Console

/-- The value of an environment variable; without one, nothing. -/
def readVariable (name : String) : IO Text := do pure (((← IO.getEnv name).map Text.ofString).getD [])

def environment : IO Environment := do
  pure ⟨← readVariable "APPDATA", ← readVariable "XDG_CONFIG_HOME", ← readVariable "HOME",
    ← readVariable Identity.productionVariable.toString⟩

/-- The content of a file on disk, if it can be read. -/
def contentOnDisk (path : Path) : IO (Option Bytes) := do
  try pure (some (← IO.FS.readBinFile path.toText.toString).toList)
  catch _ => pure none

/-- The files with one written, if that can be done. -/
def withFile (files : Files) (path : Path) (content : Bytes) : Files := (files.write path content).toOption.getD files

/-- The files that the program reads, at the given paths. -/
def readFiles (folder : Path) (paths : List Path) : IO Files := do
  let mut files := (Files.makeFolders folder : Step Empty Files Unit) ⟨[]⟩ |>.state
  for path in paths do
    match ← contentOnDisk path with
    | some content => files := withFile files path content
    | none => pure ()
  pure files

/-- Brings the files on disk to the state that the program left them in. -/
def writeFiles (before after : Files) (paths : List Path) : IO Unit := do
  for path in paths do
    match before.read path, after.read path with
    | old, .ok content =>
      if old.toOption ≠ some content then IO.FS.writeBinFile path.toText.toString ⟨content.toArray⟩
    | .ok _, .error _ => IO.FS.removeFile path.toText.toString
    | _, _ => pure ()

/-- What the console needs to know between two turns. -/
structure Session where
  paths : List Path
  settings : Path
  /-- The number of turns so far. -/
  turns : Nat

/-- Begins a new log file on disk if the present one has no room for a line. -/
def turnOver (path : Path) (line : Text) : IO Unit := do
  let size ← try pure (← IO.FS.readBinFile path.toText.toString).size
    catch _ => pure 0
  if Log.Sinks.isFull size line then
    for n in (List.range Log.Sinks.keptFiles).reverse do
      try IO.FS.rename (Log.Sinks.earlier path n).toText.toString (Log.Sinks.earlier path (n + 1)).toText.toString
      catch _ => pure ()

/-- Writes the records of a turn to the sinks. -/
def writeRecords (sinks : Log.Sinks) (ms : Int) (turns : Nat) (records : List Log.Record) : IO Unit := do
  let time := Log.stamp (ms.fdiv 1000)
  let place := Log.placeText "monitor" "turn" (turns : Int)
  let lines := (records.filter sinks.writes).map fun r => (r.line time place).toText
  for line in lines do IO.eprintln line.toString
  match sinks.file with
  | some path =>
    for line in lines do
      turnOver path line
      let file ← IO.FS.Handle.mk path.toText.toString .append
      file.putStrLn line.toString
  | none => pure ()

/-- Makes one step of the program and carries out what it did to files and sinks. -/
def carryOut (session : Session) (ms : Int) (m : Logged Monitor Unit) (monitor : Monitor) : IO Monitor := do
  let o := Monitor.step m monitor
  writeFiles monitor.files o.state.files session.paths
  writeRecords monitor.sinks ms session.turns o.reports
  match o.result with
  | .ok () => pure ()
  | .error e => IO.eprintln e.message.toString
  pure o.state

/-- Takes notice of a settings file that differs on disk from what the program last saw. -/
def refreshSettings (session : Session) (ms : Int) (monitor : Monitor) : IO Monitor := do
  let onDisk ← contentOnDisk session.settings
  if onDisk = (monitor.files.read session.settings).toOption then pure monitor
  else
    let seen := (Monitor.onFiles (.modify fun files =>
      match onDisk with
      | some content => withFile files session.settings content
      | none => (files.remove session.settings).toOption.getD files) monitor).state
    carryOut session ms (Monitor.settingsChanged session.settings.toText true) seen

/-- Runs the program until the input ends. -/
partial def run (input : IO.FS.Stream) (session : Session) (ms : Int) (monitor : Monitor) : IO Unit := do
  let line ← input.getLine
  if line.isEmpty then
    let _ ← carryOut session ms Monitor.stop monitor
  else
    match Monitor.Observation.ofLine? (Text.ofString line) with
    | none => run input session ms monitor
    | some o =>
      let session := { session with turns := session.turns + 1 }
      let monitor ← refreshSettings session o.time monitor
      let monitor ← carryOut session o.time (Monitor.turn o) monitor
      run input session o.time monitor

end LinkMeter.Console

open LinkMeter in
/-- Launches the monitor at the time of the first observation and runs it. -/
def main : IO UInt32 := do
  let env ← Console.environment
  let input ← IO.getStdin
  let first := (Monitor.Observation.ofLine? (Text.ofString (← input.getLine))).getD ⟨0, none, none, none⟩
  let folder := env.dataPath
  IO.FS.createDirAll folder.toText.toString
  let settings := folder.concat Monitor.settingsName
  let paths := [settings, Settings.Store.corruptPath settings]
  let files ← Console.readFiles folder paths
  match Binary64.ofInt first.time with
  | .error e =>
    IO.eprintln e.message.toString
    return 1
  | .ok now =>
    let o := Monitor.launch env now (first.apply Monitor.unobserved) files
    match o.result with
    | .error e =>
      IO.eprintln e.message.toString
      return 1
    | .ok l =>
      for told in l.told do IO.eprintln told.toString
      Console.writeFiles files o.state paths
      Console.writeRecords l.sinks first.time 0 o.reports
      match l.monitor with
      | none => return 1
      | some monitor =>
        let session : Console.Session := ⟨paths, settings, 0⟩
        let monitor ← Console.carryOut session first.time (Monitor.turn first) monitor
        Console.run input session first.time monitor
        return 0
