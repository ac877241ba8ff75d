import LinkMeter.Text.Basic

/-! # Sets of code points

A character class is a list of strides: every `step`-th code point from a first to a last one. Case pairs alternate in
many scripts, so a stride of two covers what would be dozens of ranges. -/

namespace LinkMeter.Text

/-- The code points `first`, `first + step`, … up to `last`. -/
structure Stride where
  first : CodePoint
  last : CodePoint
  step : Nat
deriving DecidableEq

namespace Stride

/-- Whether `c` is one of the stride's code points. -/
def has (s : Stride) (c : CodePoint) : Bool :=
  s.first ≤ c && c ≤ s.last && (c - s.first) % s.step == 0

end Stride

/-- Whether `c` lies on one of the strides. -/
def inStrides (class_ : List Stride) (c : CodePoint) : Bool := class_.any (·.has c)

/-- Whether `c` lies in one of the ranges, given as pairs of a first and a last code point in ascending order. -/
def inRanges : List (CodePoint × CodePoint) → CodePoint → Bool
  | [], _ => false
  | (first, last) :: rest, c => if c < first then false else c ≤ last || inRanges rest c

end LinkMeter.Text
