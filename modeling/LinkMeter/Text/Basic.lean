/-! # Text

A text is a list of code points. A lone surrogate is a code point like any other: a settings file can hold one in
escaped form, and a log record then shows it, so a text is not a `String`. String literals stand for texts. -/

namespace LinkMeter

/-- A code point, below 0x110000; the surrogates 0xD800 to 0xDFFF are included. -/
abbrev CodePoint := Nat

/-- A list of code points. -/
abbrev Text := List CodePoint

namespace Text

/-- The text of a string. -/
def ofString (s : String) : Text := s.toList.map Char.toNat

instance : Coe String Text := ⟨ofString⟩

/-- The string of a text. A lone surrogate, which no string holds, is replaced. -/
def toString (t : Text) : String := String.ofList (t.map fun c => if c.isValidChar then Char.ofNat c else '\uFFFD')

/-- The line feed. -/
def lineFeed : CodePoint := 10

/-- A natural number in decimal digits. -/
def ofNat (n : Nat) : Text := (Nat.toDigits 10 n).map Char.toNat

/-- An integer in decimal digits, a minus sign in front of a negative one. -/
def ofInt : Int → Text
  | .ofNat n => ofNat n
  | .negSucc n => 45 :: ofNat (n + 1)

/-- `n` with leading zeros up to `width` digits. -/
def padded (width n : Nat) : Text :=
  let digits := ofNat n
  List.replicate (width - digits.length) 48 ++ digits

/-- The texts one after the other. -/
def cat (ts : List Text) : Text := ts.flatten

/-- The texts one after the other, `separator` between any two. -/
def join (separator : Text) : List Text → Text
  | [] => []
  | [t] => t
  | t :: rest => t ++ separator ++ join separator rest

/-- Whether `part` occurs in the text as a run of neighbouring code points. -/
def hasPart (part : Text) : Text → Bool
  | [] => part.isEmpty
  | c :: rest => part.isPrefixOf (c :: rest) || hasPart part rest

/-- The text with every occurrence of the code point `old` replaced by the text `new`. -/
def replace (old : CodePoint) (new : Text) (t : Text) : Text :=
  t.flatMap fun c => if c = old then new else [c]

/-- The pieces of the text between the occurrences of the code point `mark`; there is always one more than marks. -/
def splitAt (mark : CodePoint) : Text → List Text
  | [] => [[]]
  | c :: rest =>
    match splitAt mark rest with
    | [] => [[c]]
    | piece :: pieces => if c = mark then [] :: piece :: pieces else (c :: piece) :: pieces

/-- The lines of the text. -/
def lines (t : Text) : List Text := splitAt lineFeed t

end Text
end LinkMeter
