import LinkMeter.Json.Value
import LinkMeter.Number.Reading

/-! # Reading JSON

A text is read from left to right. What is not JSON is malformed; a whole number of more than 4300 digits and values
nested more than 987 deep are faults of their own, found when the reader comes to them. -/

namespace LinkMeter.Json

/-- Why a text is not read. -/
inductive Failure where
  | malformed
  | fault (e : Fault)
deriving DecidableEq

namespace Parser

/-- The most digits of a whole number. -/
def mostDigits : Nat := Number.mostDigits

/-- How deep arrays and objects may be nested. -/
def deepest : Nat := 987

/-- Spaces, tabs and line ends may stand between the parts of a value. -/
def isSpace (c : CodePoint) : Bool := c == 32 || c == 10 || c == 13 || c == 9

/-- The text after the spaces at its start. -/
def skip (t : Text) : Text := t.dropWhile isSpace

/-- The value of a hexadecimal digit. -/
def hexValue? (c : CodePoint) : Option Nat :=
  if 48 ≤ c ∧ c ≤ 57 then some (c - 48)
  else if 97 ≤ c ∧ c ≤ 102 then some (c - 87)
  else if 65 ≤ c ∧ c ≤ 70 then some (c - 55)
  else none

/-- The value of four hexadecimal digits. -/
def hexFour? (a b c d : CodePoint) : Option Nat := do
  pure ((((← hexValue? a) * 16 + (← hexValue? b)) * 16 + (← hexValue? c)) * 16 + (← hexValue? d))

/-- The character that a letter stands for after a backslash. -/
def escape? (c : CodePoint) : Option CodePoint :=
  if c = 34 ∨ c = 92 ∨ c = 47 then some c
  else if c = 98 then some 8
  else if c = 102 then some 12
  else if c = 110 then some 10
  else if c = 114 then some 13
  else if c = 116 then some 9
  else none

/-- A character of a string, and whether it was given by its number. -/
structure Unit16 where
  byNumber : Bool
  value : CodePoint

/-- The characters of a string up to its closing quote, and the text after that. -/
def units? : Text → Option (List Unit16 × Text)
  | [] => none
  | 34 :: rest => some ([], rest)
  | 92 :: 117 :: a :: b :: c :: d :: rest => do
    let value ← hexFour? a b c d
    let (us, rest) ← units? rest
    pure (⟨true, value⟩ :: us, rest)
  | 92 :: c :: rest => do
    let value ← escape? c
    let (us, rest) ← units? rest
    pure (⟨false, value⟩ :: us, rest)
  | c :: rest => do
    if c < 32 ∨ c = 92 then none
    else
      let (us, rest) ← units? rest
      pure (⟨false, c⟩ :: us, rest)

/-- Whether two units given by their numbers are the two halves of one character. -/
def isPair (u v : Unit16) : Bool :=
  u.byNumber && v.byNumber && 0xD800 ≤ u.value && u.value < 0xDC00 && 0xDC00 ≤ v.value && v.value < 0xE000

/-- The characters that the units stand for. -/
def joined : List Unit16 → Text
  | [] => []
  | [u] => [u.value]
  | u :: v :: rest =>
    if isPair u v then (0x10000 + (u.value - 0xD800) * 0x400 + (v.value - 0xDC00)) :: joined rest
    else u.value :: joined (v :: rest)

/-- A string after its opening quote. -/
def string? (t : Text) : Option (Text × Text) := (units? t).map fun (us, rest) => (joined us, rest)

/-- A point and digits at the start of the text, if they are there. -/
def fraction (t : Text) : List Nat × Text :=
  match t with
  | 46 :: rest =>
    match Binary64.takeDigits rest with
    | ([], _) => ([], t)
    | found => found
  | _ => ([], t)

/-- An exponent at the start of the text, if it is there. -/
def exponent? (t : Text) : Option (Int × Text) :=
  match t with
  | [] => none
  | c :: rest =>
    if c = 101 ∨ c = 69 then
      let (negative, rest) := Binary64.takeSign rest
      match Binary64.takeDigits rest with
      | ([], _) => none
      | (digits, rest) => some (Binary64.signed negative (Binary64.digitsValue digits), rest)
    else none

/-- A number. With a fraction or an exponent it is a floating-point number. -/
def number (t : Text) : Except Failure (Number × Text) :=
  let (negative, body) := match t with
    | 45 :: rest => (true, rest)
    | _ => (false, t)
  match Binary64.takeDigits body with
  | ([], _) => .error .malformed
  | (0 :: _ :: _, _) => .error .malformed
  | (whole, rest) =>
    let (decimals, rest) := fraction rest
    match exponent? rest with
    | some (e, rest) =>
      .ok (.float (.ofDecimal negative (Binary64.digitsValue (whole ++ decimals)) (e - decimals.length)), rest)
    | none =>
      if !decimals.isEmpty then
        .ok (.float (.ofDecimal negative (Binary64.digitsValue (whole ++ decimals)) (-decimals.length)), rest)
      else if mostDigits < whole.length then .error (.fault (.digitLimit whole.length))
      else .ok (.int (Binary64.signed negative (Binary64.digitsValue whole)), rest)

/-- The words that stand for values. -/
def words : List (Text × Value) :=
  [("null", .null), ("true", .bool true), ("false", .bool false), ("NaN", .number (.float .nan)),
    ("Infinity", .number (.float (.infinite false))), ("-Infinity", .number (.float (.infinite true)))]

/-- A word at the start of the text. -/
def word? (t : Text) : Option (Value × Text) :=
  words.findSome? fun (w, v) => if w.isPrefixOf t then some (v, t.drop w.length) else none

mutual

/-- The value at the start of the text, and the text after it. Each call spends one unit of fuel, and `room` is how
many arrays and objects may still be opened. -/
def value : (fuel room : Nat) → Text → Except Failure (Value × Text)
  | 0, _, _ => .error .malformed
  | _ + 1, _, [] => .error .malformed
  | fuel + 1, room, c :: rest =>
    if c = 34 then
      match string? rest with
      | some (t, rest) => .ok (.string t, rest)
      | none => .error .malformed
    else if c = 91 ∨ c = 123 then
      match room with
      | 0 => .error (.fault (.nestedTooDeep (c = 91)))
      | room + 1 =>
        let rest := skip rest
        if c = 91 then
          match rest with
          | 93 :: rest => .ok (.array [], rest)
          | _ => (items fuel room rest).map fun (vs, rest) => (.array vs, rest)
        else
          match rest with
          | 125 :: rest => .ok (.object [], rest)
          | _ => (members fuel room rest).map fun (fs, rest) => (.object (Fields.merge [] fs), rest)
    else
      match word? (c :: rest) with
      | some found => .ok found
      | none => (number (c :: rest)).map fun (n, rest) => (.number n, rest)

/-- The items of an array up to its closing bracket. -/
def items : (fuel room : Nat) → Text → Except Failure (List Value × Text)
  | 0, _, _ => .error .malformed
  | fuel + 1, room, t => do
    let (v, rest) ← value fuel room t
    match skip rest with
    | 93 :: rest => .ok ([v], rest)
    | 44 :: rest => (items fuel room (skip rest)).map fun (vs, rest) => (v :: vs, rest)
    | _ => .error .malformed

/-- The members of an object up to its closing brace, in the order of the text. -/
def members : (fuel room : Nat) → Text → Except Failure (Fields × Text)
  | 0, _, _ => .error .malformed
  | fuel + 1, room, t =>
    match t with
    | 34 :: rest =>
      match string? rest with
      | none => .error .malformed
      | some (name, rest) =>
        match skip rest with
        | 58 :: rest => do
          let (v, rest) ← value fuel room (skip rest)
          match skip rest with
          | 125 :: rest => .ok ([(name, v)], rest)
          | 44 :: rest => (members fuel room (skip rest)).map fun (fs, rest) => ((name, v) :: fs, rest)
          | _ => .error .malformed
        | _ => .error .malformed
    | _ => .error .malformed

end

/-- The value that makes up the text, spaces around it aside. -/
def parse (t : Text) : Except Failure Value := do
  let (v, rest) ← value (2 * t.length + 2) deepest (skip t)
  if (skip rest).isEmpty then .ok v else .error .malformed

end Parser
end LinkMeter.Json
