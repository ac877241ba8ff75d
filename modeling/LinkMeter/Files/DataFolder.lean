import LinkMeter.Files.Basic
import LinkMeter.Log.Record

/-! # The data folder

Settings and log lie in a folder of the program's own. It is found by the environment: the first of two variables that is
not empty names the folder that holds it, and without them it is in the user's home. -/

namespace LinkMeter

/-- The environment variables that the program reads. -/
structure Environment where
  appData : Text := []
  configHome : Text := []
  home : Text := []
  production : Text := []

namespace Environment

/-- The user's home without strokes at its end. -/
def homeText (env : Environment) : Text := (env.home.reverse.dropWhile (· == 47)).reverse

/-- The folder for configurations in the user's home. -/
def homeConfig (env : Environment) : Text := .cat [env.homeText, "/.config"]

/-- The folder that the environment names, if it names one. -/
def named (env : Environment) : Text := if env.appData = [] then env.configHome else env.appData

/-- The data folder. -/
def dataPath (env : Environment) : Path :=
  let holder := Path.ofText (if env.named = [] then env.homeConfig else env.named)
  holder.concat Identity.name

/-- Makes the data folder if it is not there, and gives its path. A `hazard` is what the system raises instead of making
the folder. -/
def dataFolder (env : Environment) (hazard : Option Fault) : Logged Files Path := do
  if env.named = [] then
    Log.write .debug .folders ["No APPDATA/XDG_CONFIG_HOME set, using ", env.homeConfig]
  let path := env.dataPath
  let make : Logged Files Unit := match hazard with
    | some e => Step.fail e
    | none => Files.makeFolders path
  match ← Step.attempt make with
  | .ok () =>
    Log.write .debug .folders ["App data path ensured: ", path.toText]
    pure path
  | .error e =>
    if e.isPermission then
      Log.write .error .folders ["Permission denied creating app data directory ", path.toText, ": ", e.message]
      Step.fail (.folderDenied path.toText e)
    else if e.isSystem then
      Log.write .error .folders ["Failed to create app data directory ", path.toText, ": ", e.message]
      Step.fail (.folderFailed path.toText e)
    else Step.fail e

end Environment
end LinkMeter
