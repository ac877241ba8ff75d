import LinkMeter.Fault

/-! # UTF-8

Bytes are decoded one at a time by a machine that remembers the sequence it is in. What comes out is a list of pieces:
a character, or a run of bytes that is no character together with the reason. Decoding stops at the first such run, and
showing writes its bytes as escapes instead. -/

namespace LinkMeter

/-- The content of a file. -/
abbrev Bytes := List UInt8

namespace Utf8

/-- A sequence of which some bytes are still owed. -/
structure Pending where
  /-- Where the sequence starts. -/
  start : Nat
  /-- The bytes read so far. -/
  bytes : Bytes
  /-- The value of the bits read so far. -/
  value : Nat
  /-- The least and the greatest next byte. -/
  low : Nat
  high : Nat
  /-- The number of bytes still owed. -/
  owed : Nat

/-- What a run of bytes stands for. -/
inductive Piece where
  | char (c : CodePoint)
  | bad (error : Utf8Error) (start : Nat) (bytes : Bytes)

/-- What the first byte of a sequence says: a character of its own, a longer sequence, or neither. -/
def first (at_ : Nat) (b : UInt8) : List Piece × Option Pending :=
  let n := b.toNat
  let long (value low high owed : Nat) : List Piece × Option Pending := ([], some ⟨at_, [b], value, low, high, owed⟩)
  if n < 0x80 then ([.char n], none)
  else if n < 0xC2 then ([.bad .badStart at_ [b]], none)
  else if n < 0xE0 then long (n - 0xC0) 0x80 0xBF 1
  else if n = 0xE0 then long 0 0xA0 0xBF 2
  else if n = 0xED then long 0xD 0x80 0x9F 2
  else if n < 0xF0 then long (n - 0xE0) 0x80 0xBF 2
  else if n = 0xF0 then long 0 0x90 0xBF 3
  else if n < 0xF4 then long (n - 0xF0) 0x80 0xBF 3
  else if n = 0xF4 then long 4 0x80 0x8F 3
  else ([.bad .badStart at_ [b]], none)

/-- Takes one byte: the pieces that it completes, and the sequence that is open after it. -/
def next (at_ : Nat) (b : UInt8) : Option Pending → List Piece × Option Pending
  | none => first at_ b
  | some p =>
    if p.low ≤ b.toNat ∧ b.toNat ≤ p.high then
      let value := p.value * 64 + (b.toNat - 0x80)
      if p.owed = 1 then ([.char value], none)
      else ([], some ⟨p.start, p.bytes ++ [b], value, 0x80, 0xBF, p.owed - 1⟩)
    else
      let (pieces, pending) := first at_ b
      (.bad .badContinuation p.start p.bytes :: pieces, pending)

/-- The pieces of the bytes from position `at_` on. -/
def piecesFrom (at_ : Nat) (pending : Option Pending) : Bytes → List Piece
  | [] => match pending with
    | none => []
    | some p => [.bad .cutOff p.start p.bytes]
  | b :: rest =>
    let (pieces, pending) := next at_ b pending
    pieces ++ piecesFrom (at_ + 1) pending rest

/-- The characters before the first run that is none, and that run. -/
def collect : List Piece → Except Fault Text
  | [] => .ok []
  | .char c :: rest => (collect rest).map (c :: ·)
  | .bad error start bytes :: _ =>
    .error (.undecodable error start (start + bytes.length - 1) ((bytes.head?.map UInt8.toNat).getD 0))

/-- The text that the bytes encode. -/
def decode (bytes : Bytes) : Except Fault Text := collect (piecesFrom 0 none bytes)

/-- A piece with each byte that belongs to no character as a hexadecimal escape. -/
def shownPiece : Piece → Text
  | .char c => [c]
  | .bad _ _ bytes => bytes.flatMap fun b => Text.cat ["\\x", .hex 2 b.toNat]

/-- The bytes as text, for showing. -/
def shown (bytes : Bytes) : Text := (piecesFrom 0 none bytes).flatMap shownPiece

/-- The bytes of one code point. -/
def encodeOne (c : CodePoint) : Bytes :=
  let tail (k : Nat) : UInt8 := UInt8.ofNat (0x80 + c / Nat.pow 64 k % 64)
  if c < 0x80 then [UInt8.ofNat c]
  else if c < 0x800 then [UInt8.ofNat (0xC0 + c / 64), tail 0]
  else if c < 0x10000 then [UInt8.ofNat (0xE0 + c / Nat.pow 64 2), tail 1, tail 0]
  else [UInt8.ofNat (0xF0 + c / Nat.pow 64 3), tail 2, tail 1, tail 0]

/-- The bytes of a text. -/
def encode (t : Text) : Bytes := t.flatMap encodeOne

/-- Whether a code point is a surrogate, which is no character of its own. -/
def isSurrogate (c : CodePoint) : Bool := 0xD800 ≤ c && c < 0xE000

/-- Whether a code point stands for one byte of the system that is no text. -/
def isStray (c : CodePoint) : Bool := 0xDC80 ≤ c && c < 0xDD00

/-- The bytes by which the system knows a text. -/
def toSystem (t : Text) : Bytes := t.flatMap fun c => if isStray c then [UInt8.ofNat (c - 0xDC00)] else encodeOne c

/-- A piece of what the system says. -/
def systemPiece : Piece → Text
  | .char c => [c]
  | .bad _ _ bytes => bytes.map fun b => 0xDC00 + b.toNat

/-- The text of bytes of the system. -/
def ofSystem (bytes : Bytes) : Text := (piecesFrom 0 none bytes).flatMap systemPiece

/-- The text as it comes back from the system: stray bytes that make up a character have become that character. -/
def throughSystem (t : Text) : Text := ofSystem (toSystem t)

example : (decode (encode [0x41, 0xE9, 0x20AC, 0x1F600])).toOption = some [0x41, 0xE9, 0x20AC, 0x1F600] := by decide

example : throughSystem [0xDCC3, 0xDCA9, 0xDCFF] = [0xE9, 0xDCFF] := by decide

example : (decode [0x61, 0xE2, 0x82]).toOption = none ∧ shown [0x61, 0xE2, 0x82] = "a\\xe2\\x82" := by decide

end Utf8
end LinkMeter
