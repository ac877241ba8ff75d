import LinkMeter.Json.Spelling
import LinkMeter.Number.Reading
import LinkMeter.Number.Scientific

/-! # Message templates

A message may come as a template and the values that go into it. A slot of the template starts with a percent sign and
ends in a letter that says how the value is written; between them may stand the name of the value, flags, a width and a
precision. Two percent signs stand for one. A template without values is a message as it is. -/

namespace LinkMeter.Log

/-- How a value is written. -/
inductive Conversion where
  /-- The value as it stands alone. -/
  | plain
  /-- The value with quotes around strings. -/
  | spelled
  /-- The value with quotes around strings, in ASCII. -/
  | ascii
  /-- A number, cut down to a whole one. -/
  | whole
  | octal
  | hex (capitals : Bool)
  | scientific (capitals : Bool)
  | fixed (capitals : Bool)
  | general (capitals : Bool)
  /-- One character, or the number of one. -/
  | character
deriving DecidableEq

/-- The conversion that a letter stands for. -/
def Conversion.ofLetter? (c : CodePoint) : Option Conversion :=
  match Char.ofNat c with
  | 's' => some plain
  | 'r' => some spelled
  | 'a' => some ascii
  | 'd' | 'i' | 'u' => some whole
  | 'o' => some octal
  | 'x' => some (hex false)
  | 'X' => some (hex true)
  | 'e' => some (scientific false)
  | 'E' => some (scientific true)
  | 'f' => some (fixed false)
  | 'F' => some (fixed true)
  | 'g' => some (general false)
  | 'G' => some (general true)
  | 'c' => some character
  | _ => none

/-- A width or a precision: a number, or a star for one that is among the values. -/
inductive Measure where
  | given (n : Nat)
  | taken
deriving DecidableEq

/-- A slot of a template. -/
structure Slot where
  /-- The name of the value, if it has one. -/
  name : Option Text
  /-- The flags, each a character. -/
  flags : Text
  width : Option Measure
  precision : Option Measure
  conversion : Conversion
deriving DecidableEq

/-- A part of a template. -/
inductive Piece where
  | literal (c : CodePoint)
  | slot (s : Slot)
deriving DecidableEq

/-- The template in which values are filled in. -/
abbrev Template := List Piece

namespace Slot

/-- A name up to the parenthesis that closes it, `depth` others being open, and the text after it. -/
def name? (depth : Nat) : Text → Option (Text × Text)
  | [] => none
  | c :: rest =>
    if c = 41 ∧ depth = 0 then some ([], rest)
    else
      let depth := if c = 40 then depth + 1 else if c = 41 then depth - 1 else depth
      (name? depth rest).map fun (name, rest) => (c :: name, rest)

/-- The measure at the start of the text, and the text after it. -/
def measure? : Text → Option Measure × Text
  | 42 :: rest => (some .taken, rest)
  | t =>
    match Binary64.takeDigits t with
    | ([], rest) => (none, rest)
    | (digits, rest) => (some (.given (Binary64.digitsValue digits)), rest)

/-- The slot at the start of the text after its percent sign, and the text after it. A point without a number is a
precision of zero, and a letter for the size of a number says nothing. -/
def read? (t : Text) : Option (Slot × Text) := do
  let (name, t) ← match t with
    | 40 :: rest => (name? 0 rest).map fun (name, rest) => (some name, rest)
    | _ => some (none, t)
  let flags := t.takeWhile ("-+ #0" : Text).contains
  let (width, t) := measure? (t.drop flags.length)
  let (precision, t) := match t with
    | 46 :: rest =>
      let (precision, rest) := measure? rest
      (some (precision.getD (.given 0)), rest)
    | _ => (none, t)
  let t := match t with
    | c :: rest => if ("hlL" : Text).contains c then rest else t
    | [] => []
  match t with
  | [] => none
  | c :: rest => (Conversion.ofLetter? c).map fun conversion => (⟨name, flags, width, precision, conversion⟩, rest)

/-- Whether the slot has a flag. -/
def has (s : Slot) (flag : Char) : Bool := s.flags.contains flag.toNat

end Slot

namespace Template

/-- The pieces of a text of at most `fuel` characters, if every percent sign in it is doubled or starts a slot. -/
def read? : (fuel : Nat) → Text → Option Template
  | _, [] => some []
  | 0, _ => none
  | fuel + 1, 37 :: 37 :: rest => (read? fuel rest).map (.literal 37 :: ·)
  | fuel + 1, 37 :: rest => do
    let (slot, rest) ← Slot.read? rest
    (read? fuel rest).map (.slot slot :: ·)
  | fuel + 1, c :: rest => (read? fuel rest).map (.literal c :: ·)

/-- The pieces of a text, if every percent sign in it is doubled or starts a slot. -/
def ofText? (t : Text) : Option Template := read? t.length t

end Template

/-- The values for a template: those that can be called by name, if any can, and those that still wait for a slot. -/
structure Supply where
  named : Option Json.Fields
  waiting : List Json.Value

namespace Supply

/-- The values of a message. A single object that is not empty gives the values by name, and can fill a slot itself. -/
def ofValues : List Json.Value → Supply
  | [.object (f :: fs)] => ⟨some (f :: fs), [.object (f :: fs)]⟩
  | vs => ⟨none, vs⟩

/-- The next value, and the values after it. -/
def take? (s : Supply) : Option (Json.Value × Supply) :=
  match s.waiting with
  | [] => none
  | v :: rest => some (v, { s with waiting := rest })

/-- The values with the one of a name waiting. -/
def call? (s : Supply) (name : Text) : Option Supply := do
  let v ← (← s.named).get? name
  some { s with waiting := [v] }

/-- Whether nothing is left over; values that have names need not all be used. -/
def isSpent (s : Supply) : Bool := s.named.isSome || s.waiting.isEmpty

/-- The number that a measure stands for, and the values after it. A measure takes 31 bits at most. -/
def measured? (s : Supply) : Option Measure → Option (Option Int × Supply)
  | none => some (none, s)
  | some (.given n) => if n < Nat.pow 2 31 then some (some n, s) else none
  | some .taken => do
    let (v, s) ← s.take?
    match v.number? with
    | some (.int n) => if n.natAbs < Nat.pow 2 31 then some (some n, s) else none
    | _ => none

end Supply

/-- The whole number that a value is cut down to. -/
def wholeOf? (v : Json.Value) : Option Int := v.number?.bind fun n => n.trunc.toOption

/-- The integer that a value is. -/
def integerOf? (v : Json.Value) : Option Int :=
  match v.number? with
  | some (.int n) => some n
  | _ => none

/-- The text with escapes for all that is no ASCII. -/
def asciiOnly (t : Text) : Text :=
  t.flatMap fun c =>
    if c < 0x80 then [c]
    else if c < 0x100 then ("\\x" : Text) ++ Text.hex 2 c
    else if c < 0x10000 then ("\\u" : Text) ++ Text.hex 4 c
    else ("\\U" : Text) ++ Text.hex 8 c

/-- The letters from a to z in upper case, if that is asked for. -/
def capitalized (wanted : Bool) (t : Text) : Text :=
  if wanted then t.map fun c => if 97 ≤ c ∧ c ≤ 122 then c - 32 else c else t

/-- An integer in a base, with at least so many digits. A mark says the base, if that is asked for. -/
def integerText (base : Nat) (mark : Text) (least : Nat) (n : Int) : Text :=
  let digits := (Nat.toDigits base n.natAbs).map Char.toNat
  .cat [Binary64.signText (n < 0), mark, List.replicate (least - digits.length) 48, digits]

/-- A value as a slot writes it, without regard to its width. -/
def written? (s : Slot) (precision : Option Nat) (v : Json.Value) : Option Text :=
  let cut (t : Text) : Text := (precision.map t.take).getD t
  let always := s.has '#'
  let least := precision.getD 0
  let mark (t : Text) : Text := if always then t else []
  let float (text : Binary64 → Text) : Option Text := v.number?.bind fun n => n.toBinary64.toOption.map text
  match s.conversion with
  | .plain => some (cut v.bare)
  | .spelled => some (cut v.spelled)
  | .ascii => some (cut (asciiOnly v.spelled))
  | .whole => (wholeOf? v).map (integerText 10 [] least)
  | .octal => (integerOf? v).map (integerText 8 (mark "0o") least)
  | .hex capitals => (integerOf? v).map fun n => capitalized capitals (integerText 16 (mark "0x") least n)
  | .scientific capitals => (float (Binary64.toScientific (precision.getD 6) always)).map (capitalized capitals)
  | .fixed capitals => (float (Binary64.toFixed (precision.getD 6) always)).map (capitalized capitals)
  | .general capitals => (float (Binary64.toGeneral (precision.getD 6) always)).map (capitalized capitals)
  | .character =>
    match v with
    | .string [c] => some [c]
    | _ => (integerOf? v).bind fun n => if 0 ≤ n ∧ n < 0x110000 then some [n.toNat] else none

/-- Whether a slot writes a number. -/
def Slot.isNumeric (s : Slot) : Bool :=
  match s.conversion with
  | .plain | .spelled | .ascii | .character => false
  | _ => true

/-- How many characters in front of the digits of a number say its base. -/
def Slot.markLength (s : Slot) : Nat :=
  match s.conversion with
  | .octal | .hex _ => if s.has '#' then 2 else 0
  | _ => 0

/-- The sign of a written number and the rest of it. A flag asks for a sign, or a space, in front of one without. -/
def Slot.signed (s : Slot) (t : Text) : Text × Text :=
  if !s.isNumeric then ([], t)
  else
    match t with
    | 45 :: rest => ([45], rest)
    | _ => (if s.has '+' then [43] else if s.has ' ' then [32] else [], t)

/-- A written value brought to a width. Zeros go between the sign and the digits of a number, spaces to either end. -/
def Slot.padded (s : Slot) (width : Int) (t : Text) : Text :=
  let (sign, rest) := s.signed t
  let head := sign ++ rest.take s.markLength
  let digits := rest.drop s.markLength
  let fill (c : CodePoint) : Text := List.replicate (width.natAbs - (head.length + digits.length)) c
  if s.has '-' || width < 0 then .cat [head, digits, fill 32]
  else if s.isNumeric && s.has '0' then .cat [head, fill 48, digits]
  else .cat [fill 32, head, digits]

/-- What a slot makes of the values, and the values after it. -/
def Slot.fill? (s : Slot) (supply : Supply) : Option (Text × Supply) := do
  let supply ← match s.name with
    | some name => supply.call? name
    | none => some supply
  let (width, supply) ← supply.measured? s.width
  let (precision, supply) ← supply.measured? s.precision
  let (v, supply) ← supply.take?
  let t ← written? s (precision.map Int.toNat) v
  some (s.padded (width.getD 0) t, supply)

/-- The template with the values in its slots, if they fit and none is left over. -/
def Template.fill? : Template → Supply → Option Text
  | [], supply => if supply.isSpent then some [] else none
  | .literal c :: pieces, supply => (fill? pieces supply).map (c :: ·)
  | .slot s :: pieces, supply => do
    let (t, supply) ← s.fill? supply
    (fill? pieces supply).map (t ++ ·)

/-- A message made of a template and the values for it. -/
def messageOf? (template : Text) (values : List Json.Value) : Option Text :=
  if values.isEmpty then some template else (Template.ofText? template).bind fun t => t.fill? (.ofValues values)

example : messageOf? "info %s %d" [.string "a", .number (.int 5)] = some "info a 5" ∧
    messageOf? "crit %%" [] = some "crit %%" ∧ messageOf? "%s" [] = some "%s" ∧
    messageOf? "%(a)s%%" [.object [("a", .null)]] = some "None%" ∧ messageOf? "%5%" [.null] = none ∧
    messageOf? "%+05d|%-5s|%#x" [.number (.int 42), .string "ab", .number (.int (-255))] = some "+0042|ab   |-0xff" := by
  decide +kernel

end LinkMeter.Log
