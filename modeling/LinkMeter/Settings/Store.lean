import LinkMeter.Files.Basic
import LinkMeter.Json.Parser
import LinkMeter.Json.Printer
import LinkMeter.Settings.Validation

/-! # The settings file

Settings are kept in a JSON file. Loading never leaves the program without settings: a file that is missing, is no JSON or
holds no object gives way to the defaults, and one that is no JSON is first moved aside. Saving writes a temporary file and
moves it into place, so a reader never sees half a file; settings equal to those last loaded or saved are not written. -/

namespace LinkMeter.Settings

/-- What the system raises when a file is opened or a temporary one is made, if it raises something. -/
structure Hazards where
  opening : Option Fault := none
  temporary : Option Fault := none

/-- The settings file: where it is, the settings last loaded or saved, and the files that it is among. -/
structure Store where
  path : Path
  kept : Option Settings
  files : Files

namespace Store

/-- A store that has neither loaded nor saved. -/
def fresh (path : Path) (files : Files) : Store := ⟨path, none, files⟩

/-- The content of a file that holds the settings. -/
def content (s : Settings) : Bytes := Utf8.encode (Json.printLines s.toFields)

/-- The files after the settings were written to a temporary file beside the target. -/
def writeBeside (hazards : Hazards) (path : Path) (s : Settings) : Logged Files Path := do
  Files.makeFolders path.parent
  match hazards.temporary with
  | some e => Step.fail e
  | none =>
    let files ← Step.get
    let beside := path.withName files.freshName
    Step.set (← Step.lift (files.write beside (content s)))
    pure beside

/-- Writes the settings by way of a temporary file. -/
def replace (hazards : Hazards) (path : Path) (s : Settings) : Logged Files Unit := do
  let beside ← writeBeside hazards path s
  Step.set (← Step.lift ((← Step.get).move beside path))

/-- Works on the files of the store. -/
def onFiles {α : Type} (m : Logged Files α) : Logged Store α := .zoom files (fun fs st => { st with files := fs }) m

/-- Ends in a fault of the settings that the system caused; other faults stay as they are. -/
def lost {α : Type} (level : Log.Level) (what : Text) (e : Fault) : Logged Store α := do
  if e.isSystem then
    let fault := Fault.settingsLost what e
    Log.write level .settings [fault.message]
    Step.fail fault
  else Step.fail e

/-- Saves the settings that the fields describe. -/
def save (hazards : Hazards) (fields : Json.Fields) : Logged Store Unit := do
  let s ← validate fields
  let st ← Step.get
  if st.kept = some s then Log.write .debug .settings ["Skipping save, configuration is unchanged."]
  else
    match ← Step.attempt (onFiles (replace hazards st.path s)) with
    | .ok () =>
      Step.modify fun st => { st with kept := some s }
      Log.write .debug .settings ["Configuration saved successfully to ", st.path.toText]
    | .error e => lost .error (.cat ["Failed to save configuration to ", st.path.toText]) e

/-- Goes back to the defaults and saves them. -/
def reset (hazards : Hazards) : Logged Store Settings := do
  Log.write .info .settings ["Resetting configuration to default values."]
  save hazards default.toFields
  pure default

/-- What the content of a settings file is. -/
inductive Reading where
  | fields (fs : Json.Fields)
  | noObject
  | corrupt

/-- What the bytes of a settings file are. Bytes that are no text and values that are too large to read are faults. -/
def readContent (bytes : Bytes) : Except Fault Reading := do
  match Json.Parser.parse (← Utf8.decode bytes) with
  | .ok (.object fs) => .ok (.fields fs)
  | .ok _ => .ok .noObject
  | .error .malformed => .ok .corrupt
  | .error (.fault e) => .error e

/-- The content of the settings file. -/
def readFile (hazards : Hazards) (st : Store) : Except Fault Reading := do
  match hazards.opening with
  | some e => .error e
  | none => readContent (← st.files.read st.path)

/-- The path to which a corrupt file is moved. -/
def corruptPath (path : Path) : Path := path.withName (.cat [path.name, ".corrupt"])

/-- Moves a corrupt file aside, if that can be done. -/
def setAside : Logged Store Unit := do
  let st ← Step.get
  match st.files.move st.path (corruptPath st.path) with
  | .ok files => Step.set { st with files }
  | .error e => Log.writeFault .error .settings ["Failed to back up corrupt config file."] e

/-- Loads the settings. -/
def load (hazards : Hazards) : Logged Store Settings := do
  let st ← Step.get
  if !(← Step.lift (st.files.exists? st.path)) then
    Log.write .info .settings ["Configuration file not found. Creating with default settings."]
    reset hazards
  else
    match readFile hazards st with
    | .error e => lost .critical (.cat ["OS error reading config file ", st.path.toText]) e
    | .ok .corrupt =>
      Log.write .error .settings ["Configuration file is corrupt. Backing it up and using defaults."]
      setAside
      reset hazards
    | .ok .noObject =>
      Log.write .error .settings ["Configuration file does not hold an object. Using defaults."]
      reset hazards
    | .ok (.fields fs) =>
      let s ← validate fs
      Step.modify fun st => { st with kept := some s }
      pure s

end Store
end LinkMeter.Settings
