import LinkMeter.Json.Comparison
import LinkMeter.Json.Spelling
import LinkMeter.Text.LetterCase

/-! # Rules on constants

Constants are named values of any kind, and a rule says what is wrong with them, if something is. A rule that needs
values of one kind and finds others is a fault. -/

namespace LinkMeter.Constants
open Json

/-- What is wrong with the constants, if something is. -/
abbrev Rule := Fields → Except Fault (Option Text)

/-- Goes through the rules in order; the first one that is broken is the fault. -/
def check (fields : Fields) : List Rule → Except Fault Unit
  | [] => .ok ()
  | rule :: rest => do
    match ← rule fields with
    | some words => .error (.unsoundConstant words)
    | none => check fields rest

/-- The value of a constant. -/
def valueOf (fields : Fields) (name : Text) : Value := (fields.get? name).getD .null

/-- Compares two values as numbers. -/
def compared (test : Number → Number → Bool) (v w : Value) : Except Fault Bool :=
  match v.number?, w.number? with
  | some m, some n => .ok (test m n)
  | _, _ => .error .wrongKind

/-- The number of parts of a value. -/
def size : Value → Except Fault Nat
  | .string t => .ok t.length
  | .array vs => .ok vs.length
  | .object fs => .ok fs.length
  | _ => .error .wrongKind

/-- The parts of a value one by one. -/
def parts : Value → Except Fault (List Value)
  | .string t => .ok (t.map fun c => .string [c])
  | .array vs => .ok vs
  | .object fs => .ok (fs.map fun f => .string f.1)
  | _ => .error .wrongKind

/-- Whether a value can be the name of a member; lists and objects cannot even be looked for. -/
def isName : Value → Bool
  | .array _ | .object _ => false
  | _ => true

/-- Whether a value is among the parts of another; a text also holds longer parts. -/
def isAmong (v : Value) : Value → Except Fault Bool
  | .string t =>
    match v with
    | .string part => .ok (Text.hasPart part t)
    | _ => .error .wrongKind
  | .object fs => if isName v then .ok (fs.any fun f => v.same (.string f.1)) else .error .wrongKind
  | w => (parts w).map fun vs => vs.any v.same

/-- Whether all values are texts in lower case. The search ends at the first that is not. -/
def allLower : List Value → Except Fault Bool
  | [] => .ok true
  | .string t :: rest => if t = Text.lower t then allLower rest else .ok false
  | _ :: _ => .error .noText

/-- The rule that a test holds, and the words if it does not. -/
def demand (test : Fields → Except Fault Bool) (words : Fields → Text) : Rule := fun fields =>
  (test fields).map fun b => if b then none else some (words fields)

/-- The rule that a constant counts as true, as a text does that is not empty. -/
def filled (name : Text) : Rule :=
  demand (fun fs => .ok (valueOf fs name).isTruthy) fun _ => .cat [name, " must not be empty"]

/-- The rule that a constant compares with an integer as the test says. -/
def against (test : Number → Number → Bool) (name : Text) (n : Int) (words : Text) : Rule :=
  demand (fun fs => compared test (valueOf fs name) (n : Value)) fun _ => words

/-- The rule that a constant is at least an integer. -/
def atLeast (name : Text) (n : Int) (words : Text) : Rule := against (fun a b => !a.lt b) name n words

/-- The rule that a constant lies between two others. -/
def within (low name high words : Text) : Rule :=
  demand (fun fs => do
    if ← (valueOf fs low).atMost (valueOf fs name) then (valueOf fs name).atMost (valueOf fs high) else pure false)
    fun _ => words

/-- The rule that a constant is among those that another one lists. -/
def listedIn (name choices : Text) : Rule :=
  demand (fun fs => isAmong (valueOf fs name) (valueOf fs choices)) fun fs =>
    .cat [name, " '", (valueOf fs name).bare, "' must be in ", choices]

/-- A rule for each constant with a name of some kind, in ascending order of the names. -/
def forNames (which : Text → Bool) (test : Value → Bool) (words : Text → Text) : Rule := fun fields =>
  let bad := (Text.setOf (fields.map Prod.fst)).find? fun name => which name && !test (valueOf fields name)
  .ok (bad.map words)

end LinkMeter.Constants
