import LinkMeter.Json.Value

/-! # Writing JSON

Values are written in ASCII: any other character stands as one or two escapes of 16 bits. -/

namespace LinkMeter.Json

/-- The escape of a 16-bit unit. -/
def unitEscape (u : Nat) : Text := .cat ["\\u", .hex 4 u]

/-- A character inside a string. -/
def escapedChar (c : CodePoint) : Text :=
  if c = 34 ∨ c = 92 then [92, c]
  else if c = 10 then "\\n"
  else if c = 13 then "\\r"
  else if c = 9 then "\\t"
  else if c = 8 then "\\b"
  else if c = 12 then "\\f"
  else if 32 ≤ c ∧ c < 127 then [c]
  else if c < 0x10000 then unitEscape c
  else unitEscape (0xD800 + (c - 0x10000) / 0x400) ++ unitEscape (0xDC00 + (c - 0x10000) % 0x400)

/-- A string between its quotes. -/
def printString (t : Text) : Text := [34] ++ t.flatMap escapedChar ++ [34]

/-- A number; the infinities and not-a-number are words. -/
def printNumber : Number → Text
  | .float .nan => "NaN"
  | .float (.infinite negative) => .cat [Binary64.signText negative, "Infinity"]
  | n => n.toText

mutual

/-- The value on one line. -/
def print : Value → Text
  | .null => "null"
  | .bool b => if b then "true" else "false"
  | .number n => printNumber n
  | .string t => printString t
  | .array vs => .cat ["[", .join ", " (printAll vs), "]"]
  | .object fs => .cat ["\x7b", .join ", " (printMembers fs), "\x7d"]

def printAll : List Value → List Text
  | [] => []
  | v :: vs => print v :: printAll vs

def printMembers : Fields → List Text
  | [] => []
  | (name, v) :: fs => .cat [printString name, ": ", print v] :: printMembers fs

end

/-- The fields as an object with one line for each, set off by four spaces. -/
def printLines (fields : Fields) : Text :=
  .cat ["\x7b\n", .join ",\n" (fields.map fun (name, v) => .cat ["    ", printString name, ": ", print v]), "\n\x7d"]

end LinkMeter.Json
