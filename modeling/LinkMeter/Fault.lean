import LinkMeter.Text.Quoted

/-! # Faults

Everything that can end a computation early, by cause, with the words for it in one place. -/

namespace LinkMeter

/-- What the file system refuses, and what cannot be asked of it because the path is no name of a file. -/
inductive FileError where
  | missing
  | occupied
  | notFolder
  | isFolder
  | nameTooLong
  /-- The path has a zero in it. -/
  | zeroByte
  /-- The path has no form in bytes. -/
  | unwritable
deriving DecidableEq

namespace FileError

/-- The system's number for the refusal; a path that is no name never comes to the system. -/
def code? : FileError → Option Nat
  | missing => some 2
  | occupied => some 17
  | notFolder => some 20
  | isFolder => some 21
  | nameTooLong => some 36
  | zeroByte | unwritable => none

/-- The words for the refusal. -/
def words : FileError → Text
  | missing => "No such file or directory"
  | occupied => "File exists"
  | notFolder => "Not a directory"
  | isFolder => "Is a directory"
  | nameTooLong => "File name too long"
  | zeroByte => "embedded null byte"
  | unwritable => "surrogates not allowed"

end FileError

/-- Why bytes are no UTF-8 text. -/
inductive Utf8Error where
  | badStart
  | badContinuation
  | cutOff
deriving DecidableEq

namespace Utf8Error

def words : Utf8Error → Text
  | badStart => "invalid start byte"
  | badContinuation => "invalid continuation byte"
  | cutOff => "unexpected end of data"

end Utf8Error

/-- The kinds of failure that a query of the host reports in words of its own. -/
inductive HostFailure where
  | system
  | permission
  | value
  | runtime
  | accessDenied
  | processGone
deriving DecidableEq

/-- Why a computation ended early. -/
inductive Fault where
  | divisionByZero
  | integerTooLarge
  | quotientTooLarge
  | infinityToInteger
  | nanToInteger
  | tooManyDigits
  /-- An integer has too many digits; how many is known when it is read. -/
  | digitLimit (digits : Option Nat)
  | nestedTooDeep (inArray : Bool)
  | foldersTooDeep
  | undecodable (error : Utf8Error) (first last byte : Nat)
  | noAddress
  | missingField (name : Text)
  | unknownField (name : Text)
  | notAnOption (shown kind : Text)
  | intervalOutOfRange (shown : Text)
  | negativeDelay (shown : Text)
  | unsoundConstant (reason : Text)
  | wrongKind
  | noText
  | file (error : FileError) (path : Text)
  | destinationTaken (path : Text)
  | host (failure : HostFailure) (words : Text)
  | settingsLost (what : Text) (cause : Fault)
  | folderDenied (path : Text) (cause : Fault)
  | folderFailed (path : Text) (cause : Fault)
deriving DecidableEq

namespace Fault

/-- The words for the fault. -/
def message : Fault → Text
  | divisionByZero => "float division by zero"
  | integerTooLarge => "int too large to convert to float"
  | quotientTooLarge => "integer division result too large for a float"
  | infinityToInteger => "cannot convert float infinity to integer"
  | nanToInteger => "cannot convert float NaN to integer"
  | tooManyDigits => "more digits than a decimal can have"
  | digitLimit digits =>
    let told : Text := (digits.map fun n => Text.cat [": value has ", .ofNat n, " digits"]).getD ""
    .cat ["Exceeds the limit (4300 digits) for integer string conversion", told,
      "; use sys.set_int_max_str_digits() to increase the limit"]
  | nestedTooDeep inArray =>
    .cat ["maximum recursion depth exceeded while decoding a JSON ", if inArray then "array" else "object",
      " from a unicode string"]
  | foldersTooDeep => "maximum recursion depth exceeded"
  | undecodable error first last byte =>
    let place : Text := if first = last then .cat ["byte 0x", .hex 2 byte, " in position ", .ofNat first]
      else .cat ["bytes in position ", .ofNat first, "-", .ofNat last]
    .cat ["'utf-8' codec can't decode ", place, ": ", error.words]
  | noAddress => "'NoneType' object has no attribute 'lower'"
  | missingField name => name.quoted
  | unknownField name => .cat ["unexpected field ", name.quoted]
  | notAnOption shown kind => .cat [shown, " is not a valid ", kind]
  | intervalOutOfRange shown => .cat ["refresh_interval must be between 1 and 10 seconds, got ", shown]
  | negativeDelay shown => .cat ["Delay cannot be negative: ", shown]
  | unsoundConstant reason => reason
  | wrongKind => "operand of the wrong kind"
  | noText => "value that is no text"
  | file error path =>
    match error.code? with
    | some code => .cat ["[Errno ", .ofNat code, "] ", error.words, ": ", path.quoted]
    | none => error.words
  | destinationTaken path => .cat ["Destination path '", path, "' already exists"]
  | host .processGone words => .cat [if words = [] then "process no longer exists" else words, " (pid=1)"]
  | host _ words => words
  | settingsLost what cause => .cat [what, ": ", cause.message]
  | folderDenied path _ => .cat ["Cannot access app data directory: ", path, ". Please check permissions."]
  | folderFailed path _ => .cat ["Error with app data directory: ", path, ". Check disk space or path validity."]

/-- The fault that led to this one. -/
def cause : Fault → Option Fault
  | settingsLost _ cause | folderDenied _ cause | folderFailed _ cause => some cause
  | _ => none

/-- The faults that led to one another up to this one, the first of them first. -/
def chain (e : Fault) : List Fault :=
  match e with
  | settingsLost _ cause | folderDenied _ cause | folderFailed _ cause => chain cause ++ [e]
  | _ => [e]

/-- How it came to the fault: the words for each fault that led to it and for itself, each from a new line on. -/
def account (e : Fault) : Text := .join "\n" (e.chain.map fun f => .cat ["Fault: ", f.message])

/-- Whether the fault denies a permission. -/
def isPermission : Fault → Bool
  | host .permission _ | folderDenied _ _ => true
  | _ => false

/-- Whether the fault comes from the operating system. -/
def isSystem : Fault → Bool
  | file error _ => error.code?.isSome
  | host .system _ | host .permission _ | destinationTaken _ | folderDenied _ _ | folderFailed _ _ => true
  | _ => false

/-- Whether the fault comes from a query of the host's processes and interfaces. -/
def isQuery : Fault → Bool
  | host .accessDenied _ | host .processGone _ => true
  | _ => false

end Fault

/-- Where a sequence succeeds, each part of it does. -/
theorem of_bind_ok {ε α β : Type} {r : Except ε α} {f : α → Except ε β} {b : β} (h : (r >>= f) = .ok b) :
    ∃ a, r = .ok a ∧ f a = .ok b := by
  cases r with
  | error e => cases h
  | ok a => exact ⟨a, rfl, h⟩

end LinkMeter
