import LinkMeter.Number.Shortest

/-! # Numbers

A setting or a reading is an integer of any size or a floating-point number, and the two are told apart: an integer is
written without a point and keeps all its digits. -/

namespace LinkMeter

/-- An integer or a floating-point number. -/
inductive Number where
  | int (n : Int)
  | float (x : Binary64)
deriving DecidableEq

namespace Number

instance : Coe Int Number := ⟨int⟩

/-- The most digits of an integer that is read or written. -/
def mostDigits : Nat := 4300

/-- Whether the number lies between two integers, both included. -/
def between (low high : Int) : Number → Bool
  | int n => low ≤ n && n ≤ high
  | float x => Binary64.intLe low x && x.leInt high

/-- Whether the first number is at most the second. -/
def le : Number → Number → Bool
  | int m, int n => m ≤ n
  | int m, float y => Binary64.intLe m y
  | float x, int n => x.leInt n
  | float x, float y => x.le y

/-- Whether the first number is below the second. -/
def lt (a b : Number) : Bool := le a b && !le b a

/-- Whether two numbers are equal, also when one is an integer and the other is not. -/
def same (a b : Number) : Bool := le a b && le b a

/-- Whether the number is zero. -/
def isZero : Number → Bool
  | int n => n == 0
  | float x => x.le .zero && Binary64.zero.le x

/-- The nearest floating-point number. -/
def toBinary64 : Number → Except Fault Binary64
  | int n => Binary64.ofInt n
  | float x => .ok x

/-- The integer part. -/
def trunc : Number → Except Fault Int
  | int n => .ok n
  | float x => x.trunc

/-- The number as text. -/
def toText : Number → Text
  | int n => .ofInt n
  | float x => x.toText

end Number
end LinkMeter
