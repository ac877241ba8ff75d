import LinkMeter.Json.Value
import LinkMeter.Text.Quoted

/-! # Values in messages

The spelling of a value in a log message or an error. It is not JSON: truth values are capitalised, strings inside other
values stand in single quotes, and characters that can be shown stand as they are. -/

namespace LinkMeter.Json.Value

/-- A truth value in a message. -/
def boolText (b : Bool) : Text := if b then "True" else "False"

mutual

/-- The value with quotes around strings. -/
def spelled : Value → Text
  | null => "None"
  | bool b => boolText b
  | number n => n.toText
  | string t => t.quoted
  | array vs => .cat ["[", .join ", " (spelledAll vs), "]"]
  | object fs => .cat ["\x7b", .join ", " (spelledMembers fs), "\x7d"]

def spelledAll : List Value → List Text
  | [] => []
  | v :: vs => spelled v :: spelledAll vs

def spelledMembers : List (Text × Value) → List Text
  | [] => []
  | (name, v) :: fs => .cat [name.quoted, ": ", spelled v] :: spelledMembers fs

end

mutual

/-- Whether the value can be spelled: an integer of too many digits cannot. -/
def isSpellable : Value → Bool
  | number (.int n) => (Text.ofNat n.natAbs).length ≤ Number.mostDigits
  | array vs => allSpellable vs
  | object fs => membersSpellable fs
  | _ => true

def allSpellable : List Value → Bool
  | [] => true
  | v :: vs => isSpellable v && allSpellable vs

def membersSpellable : List (Text × Value) → Bool
  | [] => true
  | (_, v) :: fs => isSpellable v && membersSpellable fs

end

/-- The value as it stands alone: a string is its own text. -/
def bare : Value → Text
  | string t => t
  | v => spelled v

end LinkMeter.Json.Value
