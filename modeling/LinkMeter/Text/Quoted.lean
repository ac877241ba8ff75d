import LinkMeter.Text.Printable

/-! # Quoted texts

A text between quotes, as log messages show names and values. Single quotes are used unless the text holds one and no
double quote; a character that cannot be shown as it is stands as an escape. -/

namespace LinkMeter.Text

/-- The lower-case hexadecimal digit of a value below sixteen. -/
def hexDigit (n : Nat) : CodePoint := if n < 10 then 48 + n else 87 + n

/-- The last `width` hexadecimal digits of `n`, leading zeros included. -/
def hex : Nat → Nat → Text
  | 0, _ => []
  | width + 1, n => hex width (n / 16) ++ [hexDigit (n % 16)]

/-- The quote that goes around the text. -/
def quoteMark (t : Text) : CodePoint := if t.contains 39 && !t.contains 34 then 34 else 39

/-- A character between quotes `mark`. -/
def escaped (mark c : CodePoint) : Text :=
  if c = mark ∨ c = 92 then [92, c]
  else if c = 10 then "\\n"
  else if c = 13 then "\\r"
  else if c = 9 then "\\t"
  else if isPrintable c then [c]
  else if c < 0x100 then ("\\x" : Text) ++ hex 2 c
  else if c < 0x10000 then ("\\u" : Text) ++ hex 4 c
  else ("\\U" : Text) ++ hex 8 c

/-- The text between quotes. -/
def quoted (t : Text) : Text :=
  let mark := quoteMark t
  [mark] ++ t.flatMap (escaped mark) ++ [mark]

end LinkMeter.Text
