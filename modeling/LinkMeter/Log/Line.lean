import LinkMeter.Log.Calendar
import LinkMeter.Log.Record

/-! # Lines of the log

A line of the log tells when a record was written, by which component, how serious it is, at which place of the program,
and its message, which may itself have several lines. -/

namespace LinkMeter.Log

/-- The name of the level with a number; a number between the levels stands for itself. -/
def levelName (rank : Int) : Text :=
  match Level.all.find? fun l => (l.rank : Int) = rank with
  | some l => l.name
  | none => if rank = 0 then "NOTSET" else .cat ["Level ", .ofInt rank]

/-- Whether a name is that of the program or of a part of it. -/
def isOwn (name : Text) : Bool :=
  name = Component.application.name || (Text.cat [Component.application.name, "."]).isPrefixOf name

/-- What a line of the log is made of. -/
structure Line where
  time : Text
  component : Text
  level : Text
  place : Text
  message : Text
deriving DecidableEq

/-- The line as text. -/
def Line.toText (l : Line) : Text := .join " - " [l.time, l.component, l.level, l.place, l.message]

/-- The line of a record that was written at a time and a place. -/
def Record.line (time place : Text) (r : Record) : Line := ⟨time, r.component.name, r.level.name, place, r.text⟩

/-- The name of a file without its ending. Points at the start of the name begin no ending. -/
def stem (name : Text) : Text :=
  let lead := name.takeWhile (· == 46)
  let parts := Text.splitAt 46 (name.drop lead.length)
  if parts.length ≤ 1 then name else lead ++ Text.join "." parts.dropLast

/-- The module that a file holds: the last component of its path without the ending. -/
def moduleOf (path : Text) : Text := stem ((Text.splitAt 47 path).getLast?.getD [])

example : moduleOf "a/b.py" = "b" ∧ moduleOf "a/.py" = ".py" ∧ moduleOf "x.py.py" = "x.py" := by decide +kernel

/-- A place in the program: a module, a function in it and the number of a line. -/
def placeText (module function : Text) (line : Int) : Text := .cat [module, ".", function, ":", .ofInt line]

end LinkMeter.Log
