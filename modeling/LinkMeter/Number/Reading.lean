import LinkMeter.Number.Binary64
import LinkMeter.Text.Blank

/-! # Reading floating-point numbers

A decimal is read as the nearest number. A text spells a number in decimal digits of any script, with an optional sign,
point and exponent, or as infinity or not-a-number, blanks around it and single underscores between digits aside. -/

namespace LinkMeter.Binary64

/-- The number nearest to `digits * 10 ^ place`. Decimals far beyond the range are not multiplied out. -/
def ofDecimal (negative : Bool) (digits : Nat) (place : Int) : Binary64 :=
  if digits = 0 then finite negative 0
  else
    let size := Rounding.digitCount digits + place
    if 400 < size then infinite negative
    else if size < -400 then finite negative 0
    else ofRatio negative (digits * Nat.pow 10 place.toNat) (Nat.pow 10 (-place).toNat)

/-- The value of a run of digits. -/
def digitsValue (digits : List Nat) : Nat := digits.foldl (fun n d => 10 * n + d) 0

/-- The digits from 0 to 9 at the start of the text, and the rest. -/
def takeDigits : Text → List Nat × Text
  | [] => ([], [])
  | c :: rest =>
    match Text.asciiDigit? c with
    | some d => let (ds, rest) := takeDigits rest; (d :: ds, rest)
    | none => ([], c :: rest)

/-- A sign at the start of the text: whether it is a minus, and the rest. -/
def takeSign : Text → Bool × Text
  | 45 :: rest => (true, rest)
  | 43 :: rest => (false, rest)
  | t => (false, t)

/-- An exponent that makes up the whole text; an empty text stands for exponent zero. -/
def exponent? : Text → Option Int
  | [] => some 0
  | c :: rest =>
    if c = 101 ∨ c = 69 then
      let (negative, rest) := takeSign rest
      match takeDigits rest with
      | ([], _) => none
      | (digits, []) => some (signed negative (digitsValue digits))
      | _ => none
    else none

/-- A decimal without its sign. -/
def unsigned? (negative : Bool) (t : Text) : Option Binary64 :=
  let (whole, rest) := takeDigits t
  let (fraction, rest) := match rest with
    | 46 :: rest => takeDigits rest
    | rest => ([], rest)
  if whole.isEmpty && fraction.isEmpty then none
  else (exponent? rest).map fun e => ofDecimal negative (digitsValue (whole ++ fraction)) (e - fraction.length)

/-- Letters from A to Z in lower case, other characters as they are. -/
def plainLower (t : Text) : Text := t.map fun c => if 65 ≤ c ∧ c ≤ 90 then c + 32 else c

/-- A number spelled in the characters of a decimal alone. -/
def plain? (t : Text) : Option Binary64 :=
  let (negative, t) := takeSign t
  let word := plainLower t
  if word = "inf" ∨ word = "infinity" then some (infinite negative)
  else if word = "nan" then some nan
  else unsigned? negative t

/-- Whether every underscore stands between two digits, `before` being the character in front of the text. -/
def underscoresFit (before : CodePoint) : Text → Bool
  | [] => before != 95
  | c :: rest =>
    (if c = 95 then (Text.asciiDigit? before).isSome
      else before != 95 || (Text.asciiDigit? c).isSome) && underscoresFit c rest

/-- The number that the text spells. -/
def ofText? (t : Text) : Option Binary64 :=
  let t := (Text.trim t).map fun c => ((Text.digitValue? c).map (48 + ·)).getD c
  if underscoresFit 0 t then plain? (t.filter (· != 95)) else none

example : ofText? " 5_0 " = some (ofRatio false 50 1) ∧ ofText? "5_" = none ∧ ofText? ".5" = some (ofRatio false 1 2)
    ∧ ofText? "." = none ∧ ofText? "-Infinity" = some (infinite true) ∧ ofText? "1e" = none := by
  decide +kernel

end LinkMeter.Binary64
