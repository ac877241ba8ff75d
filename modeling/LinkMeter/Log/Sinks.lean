import LinkMeter.Files.DataFolder
import LinkMeter.Json.Spelling
import LinkMeter.Log.Line
import LinkMeter.Text.LetterCase

/-! # Where records go

The program's own records go to the console and to a file in the data folder. In production only warnings and worse are
kept at all. Without a data folder there is no file, and the console is told so. -/

namespace LinkMeter.Log

/-- The sinks of the program's records. -/
structure Sinks where
  production : Bool
  /-- The log file, if there is one. -/
  file : Option Path
  /-- Whether the log file has been opened, which is put off until something is written. -/
  opened : Bool

namespace Sinks

/-- The name of the log file in the data folder. -/
def fileName : Text := "NetTraffic_Log.log"

/-- The bytes that a log file may have before the next one is begun. -/
def largestFile : Nat := 5 * 1024 * 1024

/-- The number of earlier log files that are kept. -/
def keptFiles : Nat := 3

/-- The least level of records that are kept in production, and of those written there. -/
def leastInProduction : Level := .warning

/-- The least level of records that are kept at all. -/
def leastKept (s : Sinks) : Level := if s.production then leastInProduction else .debug

/-- The least level of records that are written to the sinks. -/
def leastWritten (s : Sinks) : Level := if s.production then leastInProduction else .info

/-- Whether a record is kept. Records of other programs, and those about the data folder, always are. -/
def keeps (s : Sinks) (r : Record) : Bool := !isOwn r.component.name || s.leastKept.rank ≤ r.level.rank

/-- Whether what a component writes at a level of the given rank goes to the sinks. -/
def admits (s : Sinks) (component : Text) (rank : Int) : Bool := isOwn component && s.leastWritten.rank ≤ rank

/-- Whether a record goes to the sinks. -/
def writes (s : Sinks) (r : Record) : Bool := s.admits r.component.name r.level.rank

/-- The files once something has been written. A log file that is there already is only added to. -/
def touch (s : Sinks) (files : Files) : Files :=
  match s.file with
  | some path => if s.opened || (files.find path).toOption.isSome then files else (files.write path []).toOption.getD files
  | none => files

/-- The path of the log file that was given up for a new one `n` times ago. -/
def earlier (path : Path) (n : Nat) : Path := if n = 0 then path else path.withName (.cat [path.name, ".", .ofNat n])

/-- Moves a log file, if it is there, to the path of an older one, which is taken away. -/
def age (source target : Path) : Step Empty Files Unit := do
  if ← Step.lift ((← Step.get).exists? source) then
    if ← Step.lift ((← Step.get).exists? target) then Step.set (← Step.lift ((← Step.get).remove target))
    Step.set (← Step.lift ((← Step.get).move source target))

/-- Makes room for a new log file; the oldest is given up. -/
def turnOver (path : Path) : Step Empty Files Unit :=
  Step.each (fun n => age (earlier path n) (earlier path (n + 1))) (List.range keptFiles).reverse

/-- Whether a log file with so many bytes has no room for a line. -/
def isFull (size : Nat) (line : Text) : Bool := largestFile ≤ size + line.length + 1

/-- The bytes of a line in the log file. A line that is not all made of characters is lost. -/
def bytesOf (line : Text) : Bytes := if line.any Utf8.isSurrogate then [] else Utf8.encode (line ++ [10])

/-- How many of the lines a log file with so many bytes has room for. -/
def roomFor (size : Nat) : List Text → Nat
  | [] => 0
  | line :: rest => if isFull size line then 0 else roomFor (size + (bytesOf line).length) rest + 1

/-- The bytes of the log file, if it is there. -/
def contentOf (path : Path) (files : Files) : Bytes := (files.read path).toOption.getD []

/-- Adds lines to the log file, whether there is room for them or not. -/
def addLines (path : Path) (lines : List Text) : Step Empty Files Unit := do
  let files ← Step.get
  Step.set (← Step.lift (files.write path (contentOf path files ++ lines.flatMap bytesOf)))

/-- The files after lines were added to the log file. A line that there is no room for begins a new one, `turns` times at
most. -/
def appendTo (path : Path) : (turns : Nat) → List Text → Files → Files
  | 0, _, files => files
  | turns + 1, lines, files =>
    let count := roomFor (contentOf path files).length lines
    let files := (addLines path (lines.take count) files).state
    match lines.drop count with
    | [] => files
    | line :: rest => appendTo path turns rest ((do turnOver path; addLines path [line]) files).state

/-- The files after lines were added to the log file. Those that cannot be written are lost. -/
def append (s : Sinks) (lines : List Line) (files : Files) : Files :=
  match s.file with
  | some path => appendTo path lines.length (lines.map Line.toText) files
  | none => files

/-- What is told on the console when there is no log file. -/
def complaint (e : Fault) : Text :=
  .cat ["CRITICAL: Failed to set up file logging: ", e.message, ". File logging will be disabled."]

/-- Whether the environment says that the program runs in production. -/
def isProduction (env : Environment) : Bool := Text.lower env.production = "true"

/-- Sets the sinks up, and gives what has to be told on the console besides the records. -/
def setUp (env : Environment) : Logged Files (Sinks × List Text) := do
  let production := isProduction env
  let (file, told) ← match ← Step.attempt (env.dataFolder none) with
    | .ok folder => pure (some (folder.concat fileName).straight, [])
    | .error e => if e.isSystem then pure (none, [complaint e]) else Step.fail e
  let sinks : Sinks := ⟨production, file, false⟩
  match file with
  | some _ =>
    let folder ← env.dataFolder none
    write .info .application
      ["File logging target: ", Path.toText (folder.concat fileName), ", Level: ", sinks.leastWritten.name]
  | none => write .warning .application ["File logging is NOT active due to previous errors."]
  write .info .application ["Application logging initialized. Production mode: ", Json.Value.boolText production,
    ". Root Log Level: ", sinks.leastKept.name, "."]
  pure (sinks, told)

end Sinks
end LinkMeter.Log
